import FormCompiler.Proofs.Layout.Sources

set_option autoImplicit false

namespace FormCompiler

theorem Value.size?_of_collection {value : Value} (collection : value.isCollection = true) :
    value.size? = none := by
  cases value with
  | list | tuple | map | knot => rfl
  | _ => cases collection

theorem Value.isNull_of_collection {value : Value} (collection : value.isCollection = true) :
    value.isNull = false := by
  cases value with
  | list | tuple | map | knot => rfl
  | _ => cases collection

namespace Layout

def spacingSources : List String := ["margin", "padding"]

-- Their values are copied or put into a text without a look at their shape.
def uncheckedSources : List String :=
  ["align", "row", "col", "col_span", "row_span", "flex_grow", "flex_shrink"]

/-- Only the lists of spacings become directives, all other collections leave theirs out. -/
def OmitsCollections (layout : Bag) : Prop :=
  ∀ source name treatment, (source, name, treatment) ∈ directives →
    (Bag.value layout source).isCollection = true →
      ¬(source ∈ spacingSources ∧ (Bag.value layout source).isList = true) →
        name ∉ Entries.keys (mapped layout)

theorem row_cases {source name : String} {treatment : Treatment}
    (member : (source, name, treatment) ∈ directives) :
    treatment = .size ∨ (treatment = .spacing ∧ source ∈ spacingSources) ∨
      ((treatment = .copy ∨ treatment = .span) ∧ source ∈ uncheckedSources) := by
  have each : ∀ row ∈ directives, row.2.2 = .size ∨
      (row.2.2 = .spacing ∧ row.1 ∈ spacingSources) ∨
      ((row.2.2 = .copy ∨ row.2.2 = .span) ∧ row.1 ∈ uncheckedSources) := by
    simp [directives, spacingSources, uncheckedSources]
  exact each _ member

theorem row_of_unchecked {source : String} (unchecked : source ∈ uncheckedSources) :
    ∃ name treatment, (source, name, treatment) ∈ directives ∧
      (treatment = .copy ∨ treatment = .span) := by
  have each : ∀ source ∈ uncheckedSources, ∃ row ∈ directives,
      row.1 = source ∧ (row.2.2 = .copy ∨ row.2.2 = .span) := by
    simp [directives, uncheckedSources]
  obtain ⟨⟨_, name, treatment⟩, member, rfl, taken⟩ := each source unchecked
  exact ⟨name, treatment, member, taken⟩

theorem spacing_disjoint : spacingSources.Disjoint uncheckedSources := by
  simp [spacingSources, uncheckedSources]

section Treatments

variable {value : Value} (collection : value.isCollection = true)

include collection

theorem Treatment.size_of_collection : Treatment.size.apply value = none := by
  rw [Treatment.apply, Value.size?_of_collection collection]
  rfl

theorem Treatment.spacing_of_collection (noList : value.isList = false) :
    Treatment.spacing.apply value = none := by
  cases value with
  | map => rfl
  | list | tuple | knot => cases noList
  | _ => cases collection

theorem Treatment.copy_of_collection : Treatment.copy.apply value = some value := by
  simp [Treatment.apply, Value.isNull_of_collection collection]

theorem Treatment.span_of_collection :
    Treatment.span.apply value = some (.text ("span " ++ value.render)) := by
  simp [Treatment.apply, Value.isNull_of_collection collection]

end Treatments

theorem mem_keys_of_taken {source name : String} {treatment : Treatment} {layout : Bag}
    (member : (source, name, treatment) ∈ directives)
    (taken : treatment = .copy ∨ treatment = .span)
    (collection : (Bag.value layout source).isCollection = true) :
    name ∈ Entries.keys (mapped layout) := by
  rw [← Entries.isSome_get?_iff, get?_mapped member]
  rcases taken with rfl | rfl
  · rw [Treatment.copy_of_collection collection]
    rfl
  · rw [Treatment.span_of_collection collection]
    rfl

theorem omitsCollections_of_unchecked {layout : Bag}
    (usable : ∀ source ∈ uncheckedSources, (Bag.value layout source).isCollection = false) :
    OmitsCollections layout := by
  intro source name treatment member collection noSpacingList
  rw [← Entries.get?_eq_none_iff, get?_mapped member]
  rcases row_cases member with rfl | ⟨rfl, spacing⟩ | ⟨-, unchecked⟩
  · exact Treatment.size_of_collection collection
  · have noList := Bool.eq_false_iff.mpr fun list => noSpacingList ⟨spacing, list⟩
    exact Treatment.spacing_of_collection collection noList
  · rw [usable source unchecked] at collection
    cases collection

/-- Collections are left out exactly if none is under a source that is not checked. There a list, a
tuple or a mapping becomes the directive itself, or the text of a span. -/
theorem omitsCollections_iff (layout : Bag) :
    (OmitsCollections layout ↔
      ∀ source ∈ uncheckedSources, (Bag.value layout source).isCollection = false) ∧
    (∀ source name, (source, name, .copy) ∈ directives →
      (Bag.value layout source).isCollection = true →
        Entries.get? (mapped layout) name = some (Bag.value layout source)) ∧
    (∀ source name, (source, name, .span) ∈ directives →
      (Bag.value layout source).isCollection = true →
        Entries.get? (mapped layout) name =
          some (.text ("span " ++ (Bag.value layout source).render))) ∧
    ∀ entry ∈ mapped layout, entry.2.isCollection = true → ∃ source ∈ uncheckedSources,
      (source, entry.1, .copy) ∈ directives ∧ Bag.value layout source = entry.2 := by
  refine ⟨⟨?_, omitsCollections_of_unchecked⟩, ?_, ?_, ?_⟩
  · intro omits source unchecked
    by_contra shaped
    have collection : (Bag.value layout source).isCollection = true := by simpa using shaped
    obtain ⟨name, treatment, member, taken⟩ := row_of_unchecked unchecked
    have noSpacing : source ∉ spacingSources := fun spacing => spacing_disjoint spacing unchecked
    exact omits source name treatment member collection (fun both => noSpacing both.1)
      (mem_keys_of_taken member taken collection)
  · intro source name member collection
    rw [get?_mapped member, Treatment.copy_of_collection collection]
  · intro source name member collection
    rw [get?_mapped member, Treatment.span_of_collection collection]
  · intro entry written collection
    obtain ⟨source, treatment, member, applied⟩ := (mem_mapped_iff layout entry).mp written
    rcases Treatment.apply_cases applied with ⟨copied, same, -⟩ | ⟨chars, same⟩
    · rw [copied] at member
      rcases row_cases member with other | ⟨other, -⟩ | ⟨-, unchecked⟩
      · cases other
      · cases other
      · exact ⟨source, unchecked, member, same.symm⟩
    · rw [same] at collection
      cases collection

theorem omitsCollections_iff_listedSpan :
    let faulty : Bag := [("width", .list [.int 1]), ("col_span", .list [.int 1, .int 2]),
      ("row", .tuple [.int 1])]
    let checked : Bag := [("width", .list [.int 1]), ("margin", .map []),
      ("padding", .list [.int 4, .list [.int 1]]), ("col_span", .int 2)]
    ¬OmitsCollections faulty ∧
    mapped faulty = [("grid_row", .tuple [.int 1]), ("grid_column_end", .text "span [1, 2]")] ∧
    Entries.get? (mapped faulty) "grid_row" = some (.tuple [.int 1]) ∧
    OmitsCollections checked ∧
    mapped checked = [("padding", .text "4px auto"), ("grid_column_end", .text "span 2")] := by
  intro faulty checked
  obtain ⟨faultyIff, copied, -, -⟩ := omitsCollections_iff faulty
  obtain ⟨checkedIff, -, -, -⟩ := omitsCollections_iff checked
  refine ⟨?_, rfl, ?_, ?_, rfl⟩
  · intro omits
    exact absurd (faultyIff.mp omits "col_span" (by decide)) (by decide)
  · exact copied "row" "grid_row" (by simp [directives]) rfl
  · exact checkedIff.mpr (by decide)

end Layout

end FormCompiler
