import FormCompiler.Proofs.Entries.Lookup
import FormCompiler.Proofs.Properties.Following

set_option autoImplicit false

namespace FormCompiler

theorem Entries.mem_keys_set {κ α : Type} [BEq κ] {entries : Entries κ α} {key other : κ} {value : α}
    (member : other ∈ keys (set entries key value)) : other = key ∨ other ∈ keys entries := by
  obtain ⟨entry, written, rfl⟩ := List.mem_map.mp member
  exact (forall_entry_set (fun k => k = key ∨ k ∈ keys entries) (fun _ => True)
    (fun entry member => ⟨.inr (List.mem_map_of_mem member), trivial⟩) ⟨.inl rfl, trivial⟩
    entry written).1

theorem Props.get?_set_of_ne (props : Props) (value : Value) {target : String} {other : Value}
    (apart : other ≠ .text target) :
    Entries.get? (Entries.set props (.text target) value) other = Entries.get? props other := by
  have differs : ((Value.text target : Value) == other) = false := by
    cases other <;> simp_all [BEq.beq, Value.same, Value.sameScalar, Value.quantity?, eq_comm]
  induction props with
  | nil => simp [Entries.set, Entries.get?, differs]
  | cons entry rest ih =>
    by_cases here : entry.1 = .text target
    · simp [Entries.set, Entries.get?, Value.beq_text_iff, here, differs]
    · have kept : (entry.1 == Value.text target) = false := by
        rw [Bool.eq_false_iff, ne_eq, Value.beq_text_iff]
        exact here
      simp only [Entries.set, kept, Entries.get?, ih, Bool.false_eq_true, if_false]

namespace Properties

-- What a given property is written as.
inductive Becomes (definition : Definition) (owner : Owner) (key : String) (value : Value) :
    Value → Prop where
  | handler (event : key ∈ eventKeys) :
    Becomes definition owner key value (.handler (handlerFor owner definition key))
  | converted {transforms : Entries String Transform} {transform : Transform} {changed : Value}
    (silent : key ∉ eventKeys) (has : definition.transforms = some transforms)
    (found : Entries.get? transforms key = some transform) (done : transform value = .ok changed) :
    Becomes definition owner key value changed
  | copied (silent : key ∉ eventKeys)
    (plain : ∀ transforms, definition.transforms = some transforms →
      Entries.get? transforms key = none) :
    Becomes definition owner key value value

def Fails (definition : Definition) (bag : Bag) (entry : String × String) (message : String) :
    Prop :=
  entry.1 ∉ eventKeys ∧ ∃ value transforms transform,
    Entries.get? bag entry.1 = some value ∧ definition.transforms = some transforms ∧
      Entries.get? transforms entry.1 = some transform ∧ transform value = .error message

structure Follows (definition : Definition) (owner : Owner) (table : Entries String String)
    (bag : Bag) (result : Props) : Prop where
  written : ∀ target key, Decides table bag target key → ∃ value changed,
    Entries.get? bag key = some value ∧ Becomes definition owner key value changed ∧
      Entries.get? result (.text target) = some changed
  kept : ∀ key : Value, (∀ target source, key = .text target → ¬Decides table bag target source) →
    Entries.get? result key = Entries.get? definition.defaults key
  known : ∀ key ∈ Entries.keys result, key ∈ Entries.keys definition.defaults ∨
    ∃ target source, key = .text target ∧ Decides table bag target source

section Conversion

variable {definition : Definition} {owner : Owner} {key : String} {value : Value}

theorem converted_of_event (event : key ∈ eventKeys) :
    converted definition owner key value = .ok (.handler (handlerFor owner definition key)) := by
  simp [converted, isEventKey, event]

theorem converted_of_transform {transforms : Entries String Transform} {transform : Transform}
    (silent : key ∉ eventKeys) (has : definition.transforms = some transforms)
    (found : Entries.get? transforms key = some transform) :
    converted definition owner key value = transform value := by
  simp [converted, isEventKey, silent, has, found]

theorem converted_of_plain (silent : key ∉ eventKeys)
    (plain : ∀ transforms, definition.transforms = some transforms →
      Entries.get? transforms key = none) :
    converted definition owner key value = .ok value := by
  have none : (definition.transforms.bind fun transforms => Entries.get? transforms key) = none :=
    Option.bind_eq_none_iff.mpr plain
  simp [converted, isEventKey, silent, none]

variable (definition key)

theorem transform_or_plain :
    (∃ transforms transform, definition.transforms = some transforms ∧
      Entries.get? transforms key = some transform) ∨
    ∀ transforms, definition.transforms = some transforms → Entries.get? transforms key = none := by
  cases has : definition.transforms.bind fun transforms => Entries.get? transforms key with
  | none => exact .inr (Option.bind_eq_none_iff.mp has)
  | some transform =>
    obtain ⟨transforms, some, found⟩ := Option.bind_eq_some_iff.mp has
    exact .inl ⟨transforms, transform, some, found⟩

variable {definition key}

theorem becomes_of_converted {changed : Value}
    (done : converted definition owner key value = .ok changed) :
    Becomes definition owner key value changed := by
  by_cases event : key ∈ eventKeys
  · rw [converted_of_event event] at done
    cases done
    exact .handler event
  rcases transform_or_plain definition key with ⟨transforms, transform, has, found⟩ | plain
  · rw [converted_of_transform event has found] at done
    exact .converted event has found done
  · rw [converted_of_plain event plain] at done
    cases done
    exact .copied event plain

theorem converted_eq_error_iff (message : String) :
    converted definition owner key value = .error message ↔
      key ∉ eventKeys ∧ ∃ transforms transform, definition.transforms = some transforms ∧
        Entries.get? transforms key = some transform ∧ transform value = .error message := by
  by_cases event : key ∈ eventKeys
  · simp [converted_of_event event, event]
  rcases transform_or_plain definition key with ⟨transforms, transform, has, found⟩ | plain
  · simp [converted_of_transform event has found, event, has, found]
  · rw [converted_of_plain event plain]
    constructor
    · intro fails
      cases fails
    · rintro ⟨-, transforms, transform, has, found, -⟩
      rw [plain transforms has] at found
      cases found

end Conversion

section Failures

variable (definition : Definition) (owner : Owner)

def failure? (props : Props) (entry : String × String) : Option String := do
  let value ← Entries.get? props (.text entry.1)
  match converted definition owner entry.1 value with
  | .ok _ => none
  | .error message => some message

theorem failure?_eq_some_iff (bag : Bag) (entry : String × String) (message : String) :
    failure? definition owner bag.toProps entry = some message ↔
      Fails definition bag entry message := by
  rw [failure?, Bag.get?_toProps]
  cases given : Entries.get? bag entry.1 with
  | none => simp [Fails, given]
  | some value =>
    have fails : converted definition owner entry.1 value = .error message ↔ _ :=
      converted_eq_error_iff message
    cases done : converted definition owner entry.1 value with
    | ok changed => simpa [Fails, given, done] using fails
    | error cause => simpa [Fails, given, done] using fails

theorem follow_eq_error_iff (props : Props) (table : Entries String String) (written : Props)
    (message : String) :
    follow definition owner props table written = .error message ↔
      table.findSome? (failure? definition owner props) = some message := by
  induction table generalizing written with
  | nil => simp [follow]
  | cons entry rest ih =>
    obtain ⟨key, target⟩ := entry
    rw [List.findSome?_cons]
    cases given : Entries.get? props (.text key) with
    | none => simp [follow, failure?, given, ih]
    | some value =>
      -- What is written by then has no part in whether a later conversion fails.
      cases done : converted definition owner key value with
      | ok changed => simp [follow, failure?, given, done, ih]
      | error cause => simp [follow, failure?, given, done]

end Failures

section Reading

variable {definition : Definition} {owner : Owner}

theorem follow_congr {first second : Props} {table : Entries String String}
    (alike : ∀ entry ∈ table,
      (Entries.get? first (.text entry.1)).map (converted definition owner entry.1) =
        (Entries.get? second (.text entry.1)).map (converted definition owner entry.1))
    (written : Props) :
    follow definition owner first table written = follow definition owner second table written := by
  induction table generalizing written with
  | nil => rfl
  | cons entry rest ih =>
    obtain ⟨key, target⟩ := entry
    obtain ⟨here, later⟩ := List.forall_mem_cons.mp alike
    cases given : Entries.get? first (.text key) with
    | none =>
      cases other : Entries.get? second (.text key) with
      | none => simp [follow, given, other, ih later]
      | some value => simp [given, other] at here
    | some value =>
      cases other : Entries.get? second (.text key) with
      | none => simp [given, other] at here
      | some changed =>
        simp only [given, other, Option.map_some, Option.some.injEq] at here
        simp only [follow, given, other, here]
        cases converted definition owner key changed with
        | error message => rfl
        | ok result => exact ih later _

end Reading

section Writing

variable {definition : Definition} {owner : Owner}

theorem exists_decides {table : Entries String String} {bag : Bag} {key target : String}
    (member : (key, target) ∈ table) (given : key ∈ Entries.keys bag) :
    ∃ source, Decides table bag target source := by
  cases last : lastGiven? (source? bag.toProps target) table with
  | some source => exact ⟨source, (lastGiven?_source?_iff table bag target source).mp last⟩
  | none =>
    have silent := List.findSome?_eq_none_iff.mp last _ (List.mem_reverse.mpr member)
    have speaks := (source?_toProps_eq_some_iff bag target key (key, target)).mpr ⟨rfl, given⟩
    rw [speaks] at silent
    cases silent

theorem get?_follow_of_unwritten {props written result : Props} {table : Entries String String}
    (done : follow definition owner props table written = .ok result) {key : Value}
    (apart : ∀ entry ∈ table, (Entries.get? props (.text entry.1)).isSome = true →
      key ≠ .text entry.2) :
    Entries.get? result key = Entries.get? written key := by
  induction table generalizing written with
  | nil =>
    cases done
    rfl
  | cons entry rest ih =>
    obtain ⟨here, later⟩ := List.forall_mem_cons.mp apart
    simp only [follow] at done
    split at done
    · exact ih done later
    next value given =>
    split at done
    · cases done
    next changed _ =>
    rw [ih done later]
    exact Props.get?_set_of_ne _ _ (here (by simp [given]))

theorem keys_follow {props written result : Props} {table : Entries String String}
    (done : follow definition owner props table written = .ok result) {key : Value}
    (inside : key ∈ Entries.keys result) :
    key ∈ Entries.keys written ∨ ∃ entry ∈ table,
      (Entries.get? props (.text entry.1)).isSome = true ∧ key = .text entry.2 := by
  induction table generalizing written with
  | nil =>
    cases done
    exact .inl inside
  | cons entry rest ih =>
    simp only [follow] at done
    split at done
    · rcases ih done with before | ⟨later, member, present⟩
      · exact .inl before
      · exact .inr ⟨later, List.mem_cons_of_mem _ member, present⟩
    next value given =>
    split at done
    · cases done
    next changed _ =>
    rcases ih done with before | ⟨later, member, present⟩
    · rcases Entries.mem_keys_set before with same | known
      · exact .inr ⟨entry, List.mem_cons_self, by simp [given], same⟩
      · exact .inl known
    · exact .inr ⟨later, List.mem_cons_of_mem _ member, present⟩

end Writing

variable (definition : Definition) (owner : Owner)

theorem follows_of_follow {table : Entries String String} {bag : Bag} {result : Props}
    (done : follow definition owner bag.toProps table definition.defaults = .ok result) :
    Follows definition owner table bag result := by
  have given_iff (entry : String × String) :
      (Entries.get? bag.toProps (.text entry.1)).isSome = true ↔ entry.1 ∈ Entries.keys bag := by
    rw [Bag.get?_toProps, Entries.isSome_get?_iff]
  constructor
  · intro target key decides
    have last := (lastGiven?_source?_iff table bag target key).mpr decides
    have holds := get?_follow done target
    simp only [last, Bag.get?_toProps] at holds
    obtain ⟨value, changed, given, conversion, found⟩ := holds
    exact ⟨value, changed, given, becomes_of_converted conversion, found⟩
  · intro key undecided
    apply get?_follow_of_unwritten done
    intro entry member given same
    obtain ⟨source, decides⟩ := exists_decides member ((given_iff entry).mp given)
    exact undecided entry.2 source same decides
  · intro key inside
    rcases keys_follow done inside with before | ⟨entry, member, given, same⟩
    · exact .inl before
    · obtain ⟨source, decides⟩ := exists_decides member ((given_iff entry).mp given)
      exact .inr ⟨entry.2, source, same, decides⟩

theorem mapped_congr {table : Entries String String} (tabled : definition.mapping = some table)
    {first second : Bag}
    (present : ∀ key ∈ Entries.keys table, key ∈ Entries.keys first ↔ key ∈ Entries.keys second)
    (alike : ∀ key ∈ Entries.keys table, key ∉ eventKeys →
      Entries.get? first key = Entries.get? second key) :
    mapped definition owner first.toProps = mapped definition owner second.toProps := by
  simp only [mapped, tabled]
  apply follow_congr
  intro entry member
  have inside : entry.1 ∈ Entries.keys table := List.mem_map_of_mem member
  rw [Bag.get?_toProps, Bag.get?_toProps]
  by_cases event : entry.1 ∈ eventKeys
  · -- The handler of an event does not depend on the value that the document has for it.
    have both := present _ inside
    rw [← Entries.isSome_get?_iff, ← Entries.isSome_get?_iff] at both
    cases here : Entries.get? first entry.1 <;> cases there : Entries.get? second entry.1 <;>
      simp_all [converted_of_event]
  · rw [alike _ inside event]

/-- The outcome of mapping properties through a table. The result is what the table says; there is one
unless a conversion of a given property fails, and of several the first in the table gives the
failure. Nothing else has a part in it: neither the order of the properties, nor those that the table
does not have, nor the values of those that bind events. -/
theorem mapped_follows_table (table : Entries String String)
    (tabled : definition.mapping = some table) (bag : Bag) :
    let outcome := mapped definition owner bag.toProps
    (∀ result, outcome = .ok result → Follows definition owner table bag result) ∧
    ((∃ result, outcome = .ok result) ↔
      ∀ entry ∈ table, ∀ message, ¬Fails definition bag entry message) ∧
    (∀ message, outcome = .error message ↔ ∃ earlier entry later,
      table = earlier ++ entry :: later ∧ Fails definition bag entry message ∧
        ∀ other ∈ earlier, ∀ cause, ¬Fails definition bag other cause) ∧
    (∀ other : Bag, (Entries.keys bag).Nodup → other.Perm bag →
      mapped definition owner other.toProps = outcome) ∧
    (∀ other : Bag,
      (∀ key ∈ Entries.keys table, Entries.get? other key = Entries.get? bag key) →
      mapped definition owner other.toProps = outcome) ∧
    ∀ event value, event ∈ eventKeys → event ∈ Entries.keys bag →
      mapped definition owner (Bag.toProps (Entries.set bag event value)) = outcome := by
  intro outcome
  have run : outcome = follow definition owner bag.toProps table definition.defaults := by
    simp only [outcome, mapped, tabled]
  have silent (entry : String × String) : failure? definition owner bag.toProps entry = none ↔
      ∀ message, ¬Fails definition bag entry message := by
    simp only [Option.eq_none_iff_forall_ne_some, ne_eq, failure?_eq_some_iff]
  have lookups (other : Bag)
      (same : ∀ key ∈ Entries.keys table, Entries.get? other key = Entries.get? bag key) :
      mapped definition owner other.toProps = outcome := by
    apply mapped_congr definition owner tabled
    · intro key inside
      rw [← Entries.isSome_get?_iff, same key inside, Entries.isSome_get?_iff]
    · exact fun key inside _ => same key inside
  refine ⟨?_, ?_, ?_, ?_, lookups, ?_⟩
  · intro result done
    exact follows_of_follow definition owner (run.symm.trans done)
  · -- A mapping has a result or a failure, and a failure needs an entry that fails.
    rw [run]
    have fails := follow_eq_error_iff definition owner bag.toProps table definition.defaults
    cases ends : follow definition owner bag.toProps table definition.defaults with
    | ok result =>
      have none : table.findSome? (failure? definition owner bag.toProps) = none := by
        rw [Option.eq_none_iff_forall_ne_some]
        intro message found
        have failed := (fails message).mpr found
        rw [ends] at failed
        cases failed
      simp only [Except.ok.injEq, exists_eq', true_iff]
      intro entry member
      exact (silent entry).mp (List.findSome?_eq_none_iff.mp none entry member)
    | error message =>
      obtain ⟨entry, member, failed⟩ := List.exists_of_findSome?_eq_some ((fails message).mp ends)
      simp only [reduceCtorEq, exists_false, false_iff]
      intro clean
      exact clean entry member message ((failure?_eq_some_iff ..).mp failed)
  · intro message
    rw [run, follow_eq_error_iff, List.findSome?_eq_some_iff]
    simp only [failure?_eq_some_iff, silent]
  · intro other distinct same
    exact lookups other fun key _ => Entries.get?_of_perm distinct same key
  · intro event value bound given
    apply mapped_congr definition owner tabled
    · intro key _
      rw [Entries.keys_set, if_pos given]
    · intro key _ unbound
      have differs : (event == key) = false := by
        rw [beq_eq_false_iff_ne]
        intro same
        exact unbound (same ▸ bound)
      rw [Entries.get?_set, differs]
      rfl

def dial : Definition where
  backend := .named "Dial"
  defaults := [(.text "value", .text "0"), (.text "shape", .text "round")]
  mapping := some [("size", "value"), ("click", "on"), ("text", "value"), ("level", "level")]
  transforms := some [("level", fun _ => .error "boom"), ("click", fun _ => .error "boom")]

theorem mapped_follows_table_dial :
    let bag : Bag := [("text", .text "a"), ("click", .int 5), ("size", .int 1)]
    (∃ result, mapped dial {} bag.toProps = .ok result ∧
      mapped dial {} (Bag.toProps bag.reverse) = .ok result ∧
      Entries.get? result (.text "value") = some (.text "a") ∧
      Entries.get? result (.text "on") = some (.handler ⟨"click", "Dial", none, none⟩) ∧
      Entries.get? result (.text "shape") = some (.text "round")) ∧
    mapped dial {} (Bag.toProps [("text", .text "a"), ("level", .int 1)]) = .error "boom" := by
  intro bag
  obtain ⟨follows, -, -, permuted, -, -⟩ := mapped_follows_table dial {} _ rfl bag
  obtain ⟨-, -, fails, -, -, -⟩ :=
    mapped_follows_table dial {} _ rfl [("text", .text "a"), ("level", .int 1)]
  obtain ⟨result, done⟩ : ∃ result, mapped dial {} bag.toProps = .ok result := ⟨_, rfl⟩
  have holds := follows result done
  have reversed := permuted bag.reverse (by decide) bag.reverse_perm
  refine ⟨⟨result, done, reversed.trans done, ?_, ?_, ?_⟩, ?_⟩
  · -- The size is given as well, but its entry comes before that of the text.
    obtain ⟨value, changed, given, becomes, found⟩ := holds.written "value" "text"
      ⟨[("size", "value"), ("click", "on")], [("level", "level")], rfl, by decide, by simp⟩
    cases given
    cases becomes with
    | handler event => exact absurd event (by decide)
    | converted _ has known _ =>
      cases has
      cases known
    | copied => exact found
  · obtain ⟨value, changed, given, becomes, found⟩ := holds.written "on" "click"
      ⟨[("size", "value")], [("text", "value"), ("level", "level")], rfl, by decide, by simp⟩
    cases becomes with
    | handler => exact found
    | converted silent => exact absurd (by decide) silent
    | copied silent => exact absurd (by decide) silent
  · rw [holds.kept]
    · rfl
    · intro target source same decides
      cases same
      obtain ⟨earlier, later, split, -⟩ := decides
      have member : (source, "shape") ∈ earlier ++ (source, "shape") :: later := by simp
      rw [← split] at member
      simp at member
  · apply (fails "boom").mpr
    refine ⟨[("size", "value"), ("click", "on"), ("text", "value")], ("level", "level"), [], rfl,
      ⟨by decide, .int 1, _, _, rfl, rfl, rfl, rfl⟩, ?_⟩
    intro other earlier cause failed
    obtain ⟨-, value, transforms, transform, given, has, found, -⟩ := failed
    cases has
    simp only [List.mem_cons, List.not_mem_nil, or_false] at earlier
    rcases earlier with same | same | same
    · subst same
      cases given
    · subst same
      cases given
    · subst same
      cases found

end Properties

end FormCompiler
