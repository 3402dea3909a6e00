import FormCompiler.Properties
import FormCompiler.Registry.Builtins

set_option autoImplicit false

namespace FormCompiler

theorem Value.beq_text_iff (value : Value) (chars : String) :
    (value == .text chars) = true ↔ value = .text chars := by
  cases value <;> simp [BEq.beq, Value.same, Value.sameScalar, Value.quantity?]

theorem Bag.get?_toProps (bag : Bag) (key : String) :
    Entries.get? bag.toProps (.text key) = Entries.get? bag key := by
  induction bag with
  | nil => rfl
  | cons entry rest ih =>
    have same : ((Value.text entry.1 : Value) == .text key) = (entry.1 == key) := by
      rw [Bool.eq_iff_iff, Value.beq_text_iff]
      simp
    simp only [toProps, List.map_cons, Entries.get?, same]
    rw [← ih, toProps]

namespace Definition

def Converts (definition : Definition) (properties : Bag) : Prop :=
  ∀ table transforms key target transform value,
    definition.mapping = some table → definition.transforms = some transforms →
    (key, target) ∈ table → Properties.isEventKey key = false →
    Entries.get? transforms key = some transform → Entries.get? properties key = some value →
    ∃ result, transform value = .ok result

/-- No conversion fails on any value. -/
def Total (definition : Definition) : Prop :=
  ∀ transforms key transform, definition.transforms = some transforms →
    Entries.get? transforms key = some transform → ∀ value, ∃ result, transform value = .ok result

theorem Total.converts {definition : Definition} (total : definition.Total) (properties : Bag) :
    definition.Converts properties :=
  fun _ transforms key _ transform value _ has _ _ found _ =>
    total transforms key transform has found value

theorem placeholder_total (name source : String) (category : TypeCategory) :
    (placeholder name source category).Total := by
  intro transforms key transform has
  cases has

end Definition

namespace Properties

theorem follow_ok {definition : Definition} {owner : Owner} {props : Props}
    {table : Entries String String}
    (convert : ∀ entry ∈ table, ∀ value, Entries.get? props (.text entry.1) = some value →
      ∃ result, converted definition owner entry.1 value = .ok result) (written : Props) :
    ∃ result, follow definition owner props table written = .ok result := by
  induction table generalizing written with
  | nil => exact ⟨written, rfl⟩
  | cons entry rest ih =>
    have later := ih fun other member => convert other (List.mem_cons_of_mem _ member)
    cases present : Entries.get? props (.text entry.1) with
    | none =>
      obtain ⟨result, followed⟩ := later written
      exact ⟨result, by simp [follow, present, followed]⟩
    | some value =>
      obtain ⟨changed, conversion⟩ := convert entry (by simp) value present
      obtain ⟨result, followed⟩ := later (Entries.set written (.text entry.2) changed)
      exact ⟨result, by simp [follow, present, conversion, followed]⟩

theorem mapped_of_converts {definition : Definition} {properties : Bag}
    (converts : definition.Converts properties) (owner : Owner) :
    ∃ props, mapped definition owner properties.toProps = .ok props := by
  cases tabled : definition.mapping with
  | none =>
    -- Without a table nothing is converted.
    exact ⟨Entries.update definition.defaults properties.toProps, by simp [mapped, tabled]⟩
  | some table =>
    simp only [mapped, tabled]
    refine follow_ok (fun entry member value present => ?_) _
    rw [Bag.get?_toProps] at present
    cases event : isEventKey entry.1 with
    | true => exact ⟨.handler (handlerFor owner definition entry.1), by simp [converted, event]⟩
    | false =>
      cases has : definition.transforms with
      | none => exact ⟨value, by simp [converted, event, has]⟩
      | some transforms =>
        cases found : Entries.get? transforms entry.1 with
        | none => exact ⟨value, by simp [converted, event, has, found]⟩
        | some transform =>
          obtain ⟨result, conversion⟩ :=
            converts table transforms entry.1 entry.2 transform value tabled has member event found
              present
          exact ⟨result, by simp [converted, event, has, found, conversion]⟩

end Properties

namespace Registry

inductive Registered (registry : Registry) (definition : Definition) : Prop where
  | builtin (type : String) (found : Entries.get? registry.builtins type = some definition)
  | packaged (scope name : String) (found : registry.packaged? scope name = some definition)

theorem registered_of_remapped {registry : Registry} {id name : String} {definition : Definition}
    (found : registry.remapped? id name = some definition) : registry.Registered definition := by
  simp only [remapped?, bind, Option.bind_eq_some_iff] at found
  obtain ⟨_, -, builtin, -, known⟩ := found
  exact .builtin builtin known

theorem registered_of_get? {registry : Registry} {type : String} {definition : Definition}
    (found : registry.get? type = some definition) :
    registry.Registered definition ∨
      ∃ name source category, definition = .placeholder name source category := by
  simp only [get?] at found
  split at found
  · next known => exact .inl (.builtin type (known.trans found))
  split at found
  · next id name _ =>
    cases known : registry.remapped? id name with
    | some remapped =>
      simp only [known, Option.getD_some, Option.some.injEq] at found
      exact .inl (registered_of_remapped (found ▸ known))
    | none =>
      simp only [known, Option.getD_none, Option.some.injEq] at found
      exact .inr ⟨_, _, _, found.symm⟩
  · next scope name _ =>
    cases known : registry.packaged? scope name with
    | some packaged =>
      simp only [known, Option.getD_some, Option.some.injEq] at found
      exact .inl (.packaged scope name (found ▸ known))
    | none =>
      simp only [known, Option.getD_none, Option.some.injEq] at found
      exact .inr ⟨_, _, _, found.symm⟩
  · cases found

theorem registered_addBuiltin {registry : Registry} {type : String}
    {added definition : Definition}
    (registered : (registry.addBuiltin type added).Registered definition) :
    definition = { added with category := .builtin } ∨ registry.Registered definition := by
  cases registered with
  | builtin other found =>
    simp only [addBuiltin, Entries.get?_set] at found
    split at found
    · exact .inl (by simpa using found.symm)
    · exact .inr (.builtin other found)
  | packaged scope name found => exact .inr (.packaged scope name found)

theorem registered_foldl_addBuiltin {added : List (String × Definition)} {registry : Registry}
    {definition : Definition}
    (registered : (added.foldl (fun registry entry => registry.addBuiltin entry.1 entry.2)
      registry).Registered definition) :
    (∃ entry ∈ added, definition = { entry.2 with category := .builtin }) ∨
      registry.Registered definition := by
  induction added generalizing registry with
  | nil => exact .inr registered
  | cons entry rest ih =>
    rcases ih registered with ⟨other, member, same⟩ | before
    · exact .inl ⟨other, List.mem_cons_of_mem _ member, same⟩
    · exact (registered_addBuiltin before).imp (fun same => ⟨entry, by simp, same⟩) id

theorem registered_standard {definition : Definition}
    (registered : standard.Registered definition) :
    ∃ entry ∈ Builtins.definitions, definition = { entry.2 with category := .builtin } := by
  rcases registered_foldl_addBuiltin registered with known | nothing
  · exact known
  · cases nothing with
    | builtin type found => cases found
    | packaged scope name found => cases found

end Registry

namespace Builtins

theorem transforms_among : ∀ entry ∈ definitions, ∀ transforms,
    entry.2.transforms = some transforms →
      ∀ named ∈ transforms, named.2 = pixelSize ∨ named.2 = inputType := by
  -- Two components have the first conversion under both keys, which simp does not see through.
  have sized : ∀ (key : String) (transform : Transform),
      key = "width" ∧ transform = pixelSize ∨ key = "height" ∧ transform = pixelSize →
        transform = pixelSize ∨ transform = inputType := by
    rintro _ _ (⟨-, rfl⟩ | ⟨-, rfl⟩) <;> exact .inl rfl
  simpa [definitions] using sized

theorem definitions_total : ∀ entry ∈ definitions, entry.2.Total := by
  intro entry member transforms key transform has found value
  have known : transform = pixelSize ∨ transform = inputType :=
    transforms_among entry member transforms has (key, transform) (Entries.mem_of_get? found)
  rcases known with rfl | rfl
  · exact ⟨_, rfl⟩
  · exact ⟨_, rfl⟩

end Builtins

theorem Registry.standard_total {type : String} {definition : Definition}
    (found : standard.get? type = some definition) : definition.Total := by
  rcases registered_of_get? found with registered | ⟨name, source, category, rfl⟩
  · obtain ⟨entry, member, rfl⟩ := registered_standard registered
    exact Builtins.definitions_total entry member
  · exact Definition.placeholder_total name source category

end FormCompiler
