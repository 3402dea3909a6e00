import FormCompiler.Proofs.Entries.Occurrence
import FormCompiler.Proofs.Registry.Conversion

set_option autoImplicit false

namespace FormCompiler

namespace Props

variable (props : Props)

theorem get?_set_text (target other : String) (value : Value) :
    Entries.get? (Entries.set props (.text target) value) (.text other) =
      if target = other then some value else Entries.get? props (.text other) := by
  -- The lemma about entries in general does not apply, as not all values equal only themselves.
  induction props with
  | nil =>
    by_cases same : target = other <;> simp [Entries.set, Entries.get?, Value.beq_text_iff, same]
  | cons entry rest ih =>
    by_cases here : entry.1 = .text target
    · by_cases same : target = other <;>
        simp [Entries.set, Entries.get?, Value.beq_text_iff, here, same]
    · by_cases found : entry.1 = .text other
      · have differs : target ≠ other := fun same => here (same ▸ found)
        have apart : other ≠ target := Ne.symm differs
        simp [Entries.set, Entries.get?, Value.beq_text_iff, found, differs, apart]
      · simp [Entries.set, Entries.get?, Value.beq_text_iff, here, found, ih]

theorem get?_write_of_notMem {bag : Bag} {target : String} (absent : target ∉ Entries.keys bag) :
    Entries.get? (props.write bag) (.text target) = Entries.get? props (.text target) := by
  induction bag generalizing props with
  | nil => rfl
  | cons entry rest ih =>
    obtain ⟨differs, others⟩ := not_or.mp fun known => absent (List.mem_cons.mpr known)
    have step : props.write (entry :: rest) =
        write (Entries.set props (.text entry.1) entry.2) rest := rfl
    rw [step, ih _ others, get?_set_text, if_neg (Ne.symm differs)]

end Props

namespace Properties

def source? (props : Props) (target : String) (entry : String × String) : Option String :=
  if entry.2 = target ∧ (Entries.get? props (.text entry.1)).isSome then some entry.1 else none

theorem get?_follow {definition : Definition} {owner : Owner} {props written result : Props}
    {table : Entries String String}
    (done : follow definition owner props table written = .ok result) (target : String) :
    match lastGiven? (source? props target) table with
    | none => Entries.get? result (.text target) = Entries.get? written (.text target)
    | some key => ∃ value changed, Entries.get? props (.text key) = some value ∧
        converted definition owner key value = .ok changed ∧
        Entries.get? result (.text target) = some changed := by
  induction table generalizing written with
  | nil =>
    cases done
    rfl
  | cons entry rest ih =>
    obtain ⟨key, other⟩ := entry
    rw [lastGiven?_cons]
    simp only [follow] at done
    split at done
    · -- An entry whose property is missing is passed over.
      next absent =>
      have silent : source? props target (key, other) = none := by simp [source?, absent]
      simpa [silent] using ih done
    next value present =>
    split at done
    · cases done
    next changed conversion =>
    have later := ih done
    cases decided : lastGiven? (source? props target) rest with
    | some last => simpa [decided] using later
    | none =>
      -- No later entry writes the target, so that this one decides if it writes the target at all.
      simp only [decided, Props.get?_set_text] at later
      by_cases same : other = target
      · simp only [source?, same, present, if_true, Option.isSome_some, and_self,
          Option.none_or] at later ⊢
        exact ⟨value, changed, rfl, conversion, later⟩
      · simpa [source?, same] using later

/-- The last entry for a target whose property is among the given ones has this key. -/
def Decides (table : Entries String String) (properties : Bag) (target key : String) : Prop :=
  ∃ earlier later, table = earlier ++ (key, target) :: later ∧ key ∈ Entries.keys properties ∧
    ∀ other, (other, target) ∈ later → other ∉ Entries.keys properties

theorem source?_toProps_eq_some_iff (properties : Bag) (target key : String)
    (entry : String × String) :
    source? properties.toProps target entry = some key ↔
      entry = (key, target) ∧ key ∈ Entries.keys properties := by
  obtain ⟨own, other⟩ := entry
  simp only [source?, Bag.get?_toProps, Entries.isSome_get?_iff, Option.ite_none_right_eq_some,
    Option.some.injEq, Prod.mk.injEq]
  constructor
  · rintro ⟨⟨rfl, present⟩, rfl⟩
    exact ⟨⟨rfl, rfl⟩, present⟩
  · rintro ⟨⟨rfl, rfl⟩, present⟩
    exact ⟨⟨rfl, present⟩, rfl⟩

theorem lastGiven?_source?_iff (table : Entries String String) (properties : Bag)
    (target key : String) :
    lastGiven? (source? properties.toProps target) table = some key ↔
      Decides table properties target key := by
  have silent (entry : String × String) : source? properties.toProps target entry = none ↔
      ∀ other, entry = (other, target) → other ∉ Entries.keys properties := by
    rw [Option.eq_none_iff_forall_ne_some]
    simp [source?_toProps_eq_some_iff]
  rw [lastGiven?_eq_some_iff, Decides]
  simp only [source?_toProps_eq_some_iff, silent]
  constructor
  · rintro ⟨earlier, entry, later, rfl, ⟨rfl, present⟩, none⟩
    exact ⟨earlier, later, rfl, present, fun other member => none _ member other rfl⟩
  · rintro ⟨earlier, later, rfl, present, none⟩
    refine ⟨earlier, _, later, rfl, ⟨rfl, present⟩, ?_⟩
    rintro entry member other rfl
    exact none other member

end Properties

def Value.isPlain : Value → Bool
  | .handler _ => false
  | _ => true

theorem Value.ne_handler_of_isPlain {value : Value} (plain : value.isPlain = true)
    (handler : Handler) : value ≠ .handler handler := by
  rintro rfl
  cases plain

/-- Neither the defaults nor the conversions of plain values give handlers. -/
structure Definition.Plain (definition : Definition) : Prop where
  defaults : ∀ entry ∈ definition.defaults, entry.2.isPlain = true
  conversions : ∀ transforms key transform, definition.transforms = some transforms →
    Entries.get? transforms key = some transform →
    ∀ value result, value.isPlain = true → transform value = .ok result → result.isPlain = true

theorem Definition.placeholder_plain (name source : String) (category : TypeCategory) :
    (placeholder name source category).Plain where
  defaults := by simp [placeholder, Value.isPlain]
  conversions := by
    intro transforms key transform has
    cases has

theorem Builtins.definitions_plain : ∀ entry ∈ definitions, entry.2.Plain := by
  have checked : (definitions.all fun entry => entry.2.defaults.all fun default =>
      default.2.isPlain) = true := by
    decide
  intro entry member
  constructor
  · exact List.all_eq_true.mp (List.all_eq_true.mp checked entry member)
  · intro transforms key transform has found value result plain done
    have known : transform = pixelSize ∨ transform = inputType :=
      transforms_among entry member transforms has (key, transform) (Entries.mem_of_get? found)
    rcases known with rfl | rfl
    · simp only [pixelSize] at done
      split at done <;> cases done
      · rfl
      · exact plain
    · cases done
      rfl

namespace Registry

def Plain (registry : Registry) : Prop :=
  ∀ type definition, registry.get? type = some definition → definition.Plain

theorem plain_of_registered {registry : Registry}
    (plain : ∀ definition, registry.Registered definition → definition.Plain) :
    registry.Plain := by
  intro type definition found
  rcases registered_of_get? found with registered | ⟨name, source, category, rfl⟩
  · exact plain definition registered
  · exact Definition.placeholder_plain name source category

theorem standard_plain : standard.Plain := by
  apply plain_of_registered
  intro definition registered
  obtain ⟨entry, member, rfl⟩ := registered_standard registered
  obtain ⟨defaults, conversions⟩ := Builtins.definitions_plain entry member
  exact ⟨defaults, conversions⟩

end Registry

namespace Properties

variable {definition : Definition} {owner : Owner}

theorem converted_handler_iff (plain : definition.Plain) {key : String} {value changed : Value}
    (given : value.isPlain = true) (done : converted definition owner key value = .ok changed)
    (handler : Handler) :
    changed = .handler handler ↔ key ∈ eventKeys ∧ handler = handlerFor owner definition key := by
  by_cases event : key ∈ eventKeys
  · simp only [converted, isEventKey, List.contains_iff_mem.mpr event, if_true,
      Except.ok.injEq] at done
    subst done
    simp [event, eq_comm]
  · have unbound : isEventKey key = false := by simpa [isEventKey] using event
    simp only [event, false_and, iff_false]
    simp only [converted, unbound] at done
    cases has : definition.transforms.bind fun transforms => Entries.get? transforms key with
    | none =>
      simp only [has] at done
      cases done
      exact Value.ne_handler_of_isPlain given handler
    | some transform =>
      obtain ⟨transforms, some, found⟩ := Option.bind_eq_some_iff.mp has
      simp only [has] at done
      have result := plain.conversions transforms key transform some found value changed given done
      exact Value.ne_handler_of_isPlain result handler

-- A target holds a handler exactly if the property that decides about it binds an event, and then
-- the one for that event.
theorem get?_mapped_handler_iff (plain : definition.Plain) {properties : Bag}
    (given : ∀ entry ∈ properties, entry.2.isPlain = true) {table : Entries String String}
    (tabled : definition.mapping = some table) {result : Props}
    (done : mapped definition owner properties.toProps = .ok result) (target : String)
    (handler : Handler) :
    Entries.get? result (.text target) = some (.handler handler) ↔
      ∃ event, Decides table properties target event ∧ event ∈ eventKeys ∧
        handler = handlerFor owner definition event := by
  simp only [mapped, tabled] at done
  have holds := get?_follow done target
  cases decided : lastGiven? (source? properties.toProps target) table with
  | none =>
    simp only [decided] at holds
    constructor
    · intro bound
      -- The target was left alone, and no default is a handler.
      obtain ⟨entry, member, same⟩ := Entries.exists_mem_of_get? (holds.symm.trans bound)
      exact absurd same (Value.ne_handler_of_isPlain (plain.defaults entry member) handler)
    · rintro ⟨event, decides, -⟩
      rw [(lastGiven?_source?_iff table properties target event).mpr decides] at decided
      cases decided
  | some key =>
    simp only [decided] at holds
    obtain ⟨value, changed, present, conversion, found⟩ := holds
    rw [Bag.get?_toProps] at present
    have become := converted_handler_iff plain (given _ (Entries.mem_of_get? present)) conversion
      handler
    rw [found, Option.some.injEq, become]
    constructor
    · rintro ⟨event, same⟩
      exact ⟨key, (lastGiven?_source?_iff table properties target key).mp decided, event, same⟩
    · rintro ⟨event, decides, bound, same⟩
      rw [(lastGiven?_source?_iff table properties target event).mpr decides] at decided
      cases decided
      exact ⟨bound, same⟩

end Properties

end FormCompiler
