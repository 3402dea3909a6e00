import FormCompiler.Form.OfDocument
import FormCompiler.Proofs.Graph.Untupled
import FormCompiler.Proofs.Tree.Exposed

set_option autoImplicit false

namespace FormCompiler

namespace Outline

theorem height_lt_of_part {parts : List Outline} {part : Outline} (member : part ∈ parts) :
    part.height < heights parts := by
  induction parts with
  | nil => cases member
  | cons first rest ih =>
    simp only [heights]
    rcases List.mem_cons.mp member with rfl | later
    · omega
    · have deeper := ih later
      omega

theorem size_le_of_part {parts : List Outline} {part : Outline} (member : part ∈ parts) :
    part.size ≤ sizes parts := by
  induction parts with
  | nil => cases member
  | cons first rest ih =>
    simp only [sizes]
    rcases List.mem_cons.mp member with rfl | later
    · omega
    · have larger := ih later
      omega

theorem size_pos (outline : Outline) : 0 < outline.size := by
  cases outline with
  | leaf => simp [size]
  | whole parts =>
    simp only [size]
    omega

end Outline

namespace Component

theorem length_le_height {component source : Component} {position : List Nat}
    (found : component.at? position = some source) : position.length ≤ component.height := by
  induction position generalizing component with
  | nil => simp
  | cons index rest ih =>
    rw [at?_cons, Option.bind_eq_some_iff] at found
    obtain ⟨child, isChild, below⟩ := found
    have lower := height_lt_of_child (List.mem_of_getElem? isChild)
    have inside := ih below
    simp only [List.length_cons]
    omega

structure Within (components : List Component) (levels values : Nat) : Prop where
  height : 2 * heights components ≤ levels
  count : (preorderAll components).length ≤ values

namespace Within

theorem mono {components : List Component} {levels values higher more : Nat}
    (inside : Within components levels values) (levelsLe : levels ≤ higher)
    (valuesLe : values ≤ more) : Within components higher more :=
  ⟨Nat.le_trans inside.height levelsLe, Nat.le_trans inside.count valuesLe⟩

theorem nil (levels values : Nat) : Within [] levels values :=
  ⟨Nat.zero_le _, Nat.zero_le _⟩

theorem cons {component : Component} {rest : List Component} {levels values higher more : Nat}
    (children : Within component.children levels values) (others : Within rest higher more) :
    Within (component :: rest) (max (levels + 2) higher) (1 + values + more) := by
  obtain ⟨type, name, properties, layout, below⟩ := component
  obtain ⟨childrenHeight, childrenCount⟩ := children
  obtain ⟨restHeight, restCount⟩ := others
  constructor
  · simp only [heights, Component.height] at childrenHeight ⊢
    omega
  · simp only [preorderAll, preorder, List.length_append, List.length_cons] at childrenCount ⊢
    omega

end Within

theorem ofList_within :
    ∀ value : Value, value.Untupled → (∀ items, value ≠ .tuple items) →
      Within (ofList value) (value.outline.height + 1) value.outline.size := by
  -- By the recursion of the reading: over items, over the entries of an item, and over a list.
  refine (ofItems.mutual_induct
    (fun items => (∀ item ∈ items, item.Untupled) →
      Within (ofItems items) (Outline.heights (Value.outlines items) + 1)
        (Outline.sizes (Value.outlines items)))
    (fun entries => (∀ entry ∈ entries, entry.2.Untupled) →
      (∀ entry ∈ entries, ∀ items, entry.2 ≠ .tuple items) →
      Within (childrenOf entries) (Outline.heights (Value.entryOutlines entries))
        (Outline.sizes (Value.entryOutlines entries)))
    (fun value => value.Untupled → (∀ items, value ≠ .tuple items) →
      Within (ofList value) (value.outline.height + 1) value.outline.size)
    ?list ?tuple ?noList ?noItems ?component ?stray ?noEntries ?children ?otherKey).2.2
  case list =>
    intro items ih untupled _
    have inside := ih untupled.items
    simp only [ofList, Value.outline, Outline.height, Outline.size]
    exact inside.mono (Nat.le_refl _) (by omega)
  case tuple =>
    intro items _ _ notTuple
    exact absurd rfl (notTuple items)
  case noList =>
    intro value notList notTuple _ _
    cases value with
    | list items => exact absurd rfl (notList items)
    | tuple items => exact absurd rfl (notTuple items)
    | _ => exact .nil _ _
  case noItems => exact fun _ => .nil _ _
  case component =>
    intro entries rest ihEntries ihRest untupled
    obtain ⟨first, others⟩ := List.forall_mem_cons.mp untupled
    have children := ihEntries first.entries.1 first.entries.2
    simp only [ofItems, Value.outlines, Value.outline, Outline.heights, Outline.height,
      Outline.sizes, Outline.size]
    exact Within.mono (Within.cons children (ihRest others)) (by omega) (Nat.le_refl _)
  case stray =>
    intro head rest notMap ih untupled
    have skipped : ofItems (head :: rest) = ofItems rest := by
      cases head with
      | map entries => exact absurd rfl (notMap entries)
      | _ => rfl
    have inside := ih (List.forall_mem_cons.mp untupled).2
    rw [skipped]
    simp only [Value.outlines, Outline.heights, Outline.sizes]
    exact inside.mono (by omega) (by omega)
  case noEntries => exact fun _ _ => .nil _ _
  case children =>
    intro value rest ih untupled values
    have inside := ih (untupled _ List.mem_cons_self) (values _ List.mem_cons_self)
    simp only [childrenOf, Value.entryOutlines, Outline.heights, Outline.sizes]
    exact inside.mono (by omega) (by omega)
  case otherKey =>
    intro key value rest otherKey ih untupled values
    have inside := ih (List.forall_mem_cons.mp untupled).2 (List.forall_mem_cons.mp values).2
    simp only [childrenOf, Value.entryOutlines, Outline.heights, Outline.sizes]
    exact inside.mono (by omega) (by omega)

end Component

def Value.Gives (whole part : Value) : Prop :=
  part = .null ∨ ∃ entries, whole = .map entries ∧ ∃ entry ∈ entries, entry.2 = part

theorem Value.gives_field (value : Value) (key : String) : value.Gives (value.field key) := by
  cases value with
  | map entries =>
    simp only [field]
    cases found : entries.find? fun entry => entry.1.isText && entry.1.render == key with
    | none => exact .inl rfl
    | some entry => exact .inr ⟨entries, rfl, entry, List.mem_of_find?_eq_some found, rfl⟩
  | _ => exact .inl rfl

theorem Value.gives_of_asBag (value : Value) (key : String) :
    value.Gives (Bag.value value.asBag key) := by
  cases value with
  | map entries =>
    simp only [Bag.value]
    cases found : Entries.get? (Value.map entries).asBag key with
    | none => exact .inl rfl
    | some part =>
      have listed : ∀ entry ∈ (Value.map entries).asBag, ∃ own ∈ entries, own.2 = entry.2 :=
        Entries.forall_update (fun value => ∃ own ∈ entries, own.2 = value) (by simp)
          (List.forall_mem_map.mpr fun own member => ⟨own, member, rfl⟩)
      exact .inr ⟨entries, rfl, listed _ (Entries.mem_of_get? found)⟩
  | _ => exact .inl rfl

theorem Value.outline_lt_of_entry {entries : List (Value × Value)} {entry : Value × Value}
    (member : entry ∈ entries) :
    entry.2.outline.height < (Value.map entries).outline.height ∧
      entry.2.outline.size < (Value.map entries).outline.size := by
  have isPart : entry.2.outline ∈ entryOutlines entries := by
    rw [entryOutlines_eq_map]
    exact List.mem_map_of_mem member
  have lower := Outline.height_lt_of_part isPart
  have smaller := Outline.size_le_of_part isPart
  simp only [outline, Outline.height, Outline.size]
  omega

theorem Value.Gives.inside {whole part : Value} (gives : whole.Gives part)
    (untupled : whole.Untupled) :
    part.Untupled ∧ part.outline.height ≤ whole.outline.height ∧
      part.outline.size ≤ whole.outline.size := by
  obtain rfl | ⟨entries, rfl, entry, member, rfl⟩ := gives
  · exact ⟨.leaf rfl, Nat.zero_le _, whole.outline.size_pos⟩
  · obtain ⟨lower, smaller⟩ := outline_lt_of_entry member
    exact ⟨untupled.entries.1 entry member, by omega, by omega⟩

theorem Component.ofList_within_of_gives {whole part : Value} (gives : whole.Gives part)
    (untupled : whole.Untupled) :
    Within (ofList part) whole.outline.height (whole.outline.size - 1) := by
  obtain rfl | ⟨entries, rfl, entry, member, rfl⟩ := gives
  · exact .nil _ _
  · obtain ⟨each, values⟩ := untupled.entries
    obtain ⟨lower, smaller⟩ := Value.outline_lt_of_entry member
    have inside := ofList_within entry.2 (each entry member) (values entry member)
    exact inside.mono (by omega) (by omega)

theorem Form.container_within {document : Value} (untupled : document.Untupled) :
    Component.Within (ofDocument document).container.children document.outline.height
      (document.outline.size - 1) := by
  have container := document.gives_field "container"
  obtain ⟨plain, lower, smaller⟩ := container.inside untupled
  simp only [ofDocument, containerOf]
  split
  · have own := (document.field "container").gives_of_asBag "components"
    have inside := Component.ofList_within_of_gives own plain
    exact inside.mono lower (by omega)
  · exact Component.ofList_within_of_gives (document.gives_field "components") untupled

end FormCompiler
