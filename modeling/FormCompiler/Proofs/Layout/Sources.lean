import FormCompiler.Layout
import FormCompiler.Proofs.Entries.Lookup
import Mathlib.Data.List.Nodup

set_option autoImplicit false

namespace FormCompiler

namespace Layout

def sources : List String := directives.map Prod.fst

def directive? (layout : Bag) (row : String × String × Treatment) : Option (String × Value) :=
  (row.2.2.apply (Bag.value layout row.1)).map fun value => (row.2.1, value)

theorem mapped_eq (layout : Bag) : mapped layout = directives.filterMap (directive? layout) := rfl

theorem names_nodup : (directives.map (·.2.1)).Nodup := by decide

theorem Treatment.apply_null (treatment : Treatment) : treatment.apply .null = none := by
  cases treatment <;> rfl

-- Only a copied value may be anything but a text.
theorem Treatment.apply_cases {treatment : Treatment} {value result : Value}
    (applied : treatment.apply value = some result) :
    (treatment = .copy ∧ result = value ∧ value.isNull = false) ∨ ∃ chars, result = .text chars := by
  cases treatment with
  | size | spacing =>
    obtain ⟨chars, -, rfl⟩ := Option.map_eq_some_iff.mp applied
    exact .inr ⟨chars, rfl⟩
  | copy =>
    simp only [Treatment.apply, Option.ite_none_left_eq_some] at applied
    obtain ⟨given, same⟩ := applied
    cases same
    exact .inl ⟨rfl, rfl, by simpa using given⟩
  | span =>
    simp only [Treatment.apply, Option.ite_none_left_eq_some] at applied
    obtain ⟨-, same⟩ := applied
    cases same
    exact .inr ⟨_, rfl⟩

theorem directive?_eq_some_iff (layout : Bag) (row : String × String × Treatment)
    (entry : String × Value) :
    directive? layout row = some entry ↔
      row.2.1 = entry.1 ∧ row.2.2.apply (Bag.value layout row.1) = some entry.2 := by
  rw [directive?, Option.map_eq_some_iff]
  constructor
  · rintro ⟨value, applied, rfl⟩
    exact ⟨rfl, applied⟩
  · rintro ⟨named, applied⟩
    exact ⟨entry.2, applied, by rw [named]⟩

theorem mem_mapped_iff (layout : Bag) (entry : String × Value) :
    entry ∈ mapped layout ↔ ∃ source treatment, (source, entry.1, treatment) ∈ directives ∧
      treatment.apply (Bag.value layout source) = some entry.2 := by
  rw [mapped_eq, List.mem_filterMap]
  constructor
  · rintro ⟨⟨source, name, treatment⟩, member, gives⟩
    obtain ⟨named, applied⟩ := (directive?_eq_some_iff _ _ _).mp gives
    cases named
    exact ⟨source, treatment, member, applied⟩
  · rintro ⟨source, treatment, member, applied⟩
    exact ⟨_, member, (directive?_eq_some_iff _ _ _).mpr ⟨rfl, applied⟩⟩

-- No directive is in two rows of the table, so that it leads back to its row.
theorem row_unique {source other name : String} {treatment second : Treatment}
    (member : (source, name, treatment) ∈ directives) (also : (other, name, second) ∈ directives) :
    source = other ∧ treatment = second := by
  have same := List.inj_on_of_nodup_map names_nodup member also rfl
  cases same
  exact ⟨rfl, rfl⟩

theorem keys_filterMap_sublist (layout : Bag) (rows : List (String × String × Treatment)) :
    (Entries.keys (rows.filterMap (directive? layout))).Sublist (rows.map (·.2.1)) := by
  induction rows with
  | nil => exact .slnil
  | cons row rest ih =>
    cases gives : directive? layout row with
    | none => simpa [List.filterMap_cons, gives] using ih.cons row.2.1
    | some entry =>
      obtain ⟨named, -⟩ := (directive?_eq_some_iff _ _ _).mp gives
      simpa [List.filterMap_cons, gives, Entries.keys, named] using ih

theorem keys_mapped_nodup (layout : Bag) : (Entries.keys (mapped layout)).Nodup :=
  (keys_filterMap_sublist layout directives).nodup names_nodup

theorem get?_mapped {source name : String} {treatment : Treatment}
    (member : (source, name, treatment) ∈ directives) (layout : Bag) :
    Entries.get? (mapped layout) name = treatment.apply (Bag.value layout source) := by
  cases applied : treatment.apply (Bag.value layout source) with
  | some value =>
    have written := (mem_mapped_iff layout (name, value)).mpr ⟨source, treatment, member, applied⟩
    exact Entries.get?_of_mem (keys_mapped_nodup layout) written
  | none =>
    rw [Entries.get?_eq_none_iff]
    intro known
    obtain ⟨entry, written, named⟩ := List.mem_map.mp known
    obtain ⟨other, second, also, gives⟩ := (mem_mapped_iff layout entry).mp written
    rw [named] at also
    obtain ⟨sameSource, sameTreatment⟩ := row_unique member also
    rw [← sameSource, ← sameTreatment, applied] at gives
    cases gives

theorem mapped_congr {first second : Bag}
    (same : ∀ key, Bag.value first key = Bag.value second key) : mapped first = mapped second := by
  have rows : directive? first = directive? second := by
    funext row
    rw [directive?, directive?, same]
  rw [mapped_eq, mapped_eq, rows]

section Entry

variable {entry : String × Value} {name : String}

theorem value_cons (entry : String × Value) (rest : Bag) (key : String) :
    Bag.value (entry :: rest) key = if entry.1 = key then entry.2 else Bag.value rest key := by
  by_cases same : entry.1 = key <;> simp [Bag.value, Entries.get?, same]

theorem value_of_notMem {layout : Bag} {key : String} (absent : key ∉ Entries.keys layout) :
    Bag.value layout key = .null := by
  rw [Bag.value, (Entries.get?_eq_none_iff layout key).mpr absent]
  rfl

theorem row_of_single (given : name ∈ Entries.keys (mapped [entry])) :
    ∃ treatment, (entry.1, name, treatment) ∈ directives := by
  obtain ⟨written, inside, rfl⟩ := List.mem_map.mp given
  obtain ⟨source, treatment, member, applied⟩ := (mem_mapped_iff _ _).mp inside
  by_cases same : entry.1 = source
  · rw [same]
    exact ⟨treatment, member⟩
  · -- Every other source holds nothing.
    rw [value_cons, if_neg same] at applied
    rw [value_of_notMem List.not_mem_nil, Treatment.apply_null] at applied
    cases applied

theorem mapped_single_disjoint {first second : String × Value} (apart : first.1 ≠ second.1) :
    (Entries.keys (mapped [first])).Disjoint (Entries.keys (mapped [second])) := by
  intro name inFirst inSecond
  obtain ⟨_, member⟩ := row_of_single inFirst
  obtain ⟨_, also⟩ := row_of_single inSecond
  exact apart (row_unique member also).1

theorem mapped_single_unknown (unknown : entry.1 ∉ sources) :
    mapped [entry] = [] := by
  rw [List.eq_nil_iff_forall_not_mem]
  intro written inside
  obtain ⟨_, member⟩ := row_of_single (List.mem_map_of_mem inside)
  exact unknown (List.mem_map_of_mem member)

end Entry

theorem filterMap_perm_append {α β : Type} {whole first second : α → Option β} {rows : List α}
    (either : ∀ row ∈ rows, (whole row = first row ∧ second row = none) ∨
      (whole row = second row ∧ first row = none)) :
    (rows.filterMap whole).Perm (rows.filterMap first ++ rows.filterMap second) := by
  induction rows with
  | nil => exact .nil
  | cons row rest ih =>
    obtain ⟨here, later⟩ := List.forall_mem_cons.mp either
    have below := ih later
    simp only [List.filterMap_cons]
    rcases here with ⟨same, nothing⟩ | ⟨same, nothing⟩
    · rw [same, nothing]
      cases first row with
      | none => exact below
      | some item => exact below.cons item
    · rw [same, nothing]
      cases second row with
      | none => exact below
      | some item => exact (below.cons item).trans List.perm_middle.symm

theorem mapped_cons_perm {entry : String × Value} {rest : Bag}
    (new : entry.1 ∉ Entries.keys rest) :
    (mapped (entry :: rest)).Perm (mapped [entry] ++ mapped rest) := by
  simp only [mapped_eq]
  apply filterMap_perm_append
  intro row _
  simp only [directive?, value_cons]
  by_cases same : entry.1 = row.1
  · left
    rw [same] at new
    simp [same, value_of_notMem new, Treatment.apply_null]
  · right
    simp [same, value_of_notMem, Entries.keys, Treatment.apply_null]

theorem mapped_perm_flatMap {layout : Bag} (distinct : (Entries.keys layout).Nodup) :
    (mapped layout).Perm (layout.flatMap fun entry => mapped [entry]) := by
  induction layout with
  | nil => exact .refl _
  | cons entry rest ih =>
    obtain ⟨new, others⟩ := List.nodup_cons.mp distinct
    rw [List.flatMap_cons]
    exact (mapped_cons_perm new).trans ((ih others).append_left _)

structure KeyWise (layout : Bag) : Prop where
  union : (mapped layout).Perm (layout.flatMap fun entry => mapped [entry])
  disjoint : layout.Pairwise fun first second =>
    (Entries.keys (mapped [first])).Disjoint (Entries.keys (mapped [second]))
  known : ∀ name ∈ Entries.keys (mapped layout), ∃ source treatment,
    (source, name, treatment) ∈ directives
  given : ∀ source name treatment, (source, name, treatment) ∈ directives →
    Entries.get? (mapped layout) name = treatment.apply (Bag.value layout source)
  -- Only the value under its source counts for a directive, and a missing one is null.
  decided : ∀ source name treatment, (source, name, treatment) ∈ directives → ∀ other : Bag,
    Bag.value other source = Bag.value layout source →
      Entries.get? (mapped other) name = Entries.get? (mapped layout) name
  unknown : ∀ key, key ∉ sources → ∀ value, mapped [(key, value)] = []
  permuted : ∀ other : Bag, other.Perm layout → mapped other = mapped layout
  removed : ∀ source name treatment, (source, name, treatment) ∈ directives →
    ∀ keep : String → Bool, keep source = true →
      Entries.get? (mapped (layout.filter fun entry => keep entry.1)) name =
        Entries.get? (mapped layout) name
  null : ∀ key, mapped (Entries.set layout key .null) = mapped (Entries.erase layout key)
  notNull : ∀ entry ∈ mapped layout, entry.2.isNull = false

theorem mapped_keyWise (layout : Bag) (distinct : (Entries.keys layout).Nodup) :
    KeyWise layout := by
  constructor
  case union => exact mapped_perm_flatMap distinct
  case disjoint => exact (List.pairwise_map.mp distinct).imp mapped_single_disjoint
  case known =>
    intro name given
    obtain ⟨entry, written, rfl⟩ := List.mem_map.mp given
    obtain ⟨source, treatment, member, -⟩ := (mem_mapped_iff layout entry).mp written
    exact ⟨source, treatment, member⟩
  case given =>
    intro source name treatment member
    exact get?_mapped member layout
  case decided =>
    intro source name treatment member other same
    rw [get?_mapped member, get?_mapped member, same]
  case unknown =>
    intro key unknown value
    exact mapped_single_unknown unknown
  case permuted =>
    intro other same
    apply mapped_congr
    intro key
    simp only [Bag.value, Entries.get?_of_perm distinct same]
  case removed =>
    intro source name treatment member keep kept
    rw [get?_mapped member, get?_mapped member, Bag.value, Entries.get?_filter_keys, if_pos kept,
      Bag.value]
  case null =>
    intro key
    apply mapped_congr
    intro other
    simp only [Bag.value, Entries.get?_set, Entries.get?_erase]
    split <;> rfl
  case notNull =>
    intro entry written
    obtain ⟨source, treatment, -, applied⟩ := (mem_mapped_iff layout entry).mp written
    rcases Treatment.apply_cases applied with ⟨-, same, given⟩ | ⟨chars, same⟩
    · rw [same, given]
    · rw [same]
      rfl

theorem mapped_keyWise_mixed :
    let layout : Bag := [("row_span", .int 2), ("color", .text "red"), ("width", .null),
      ("padding", .list [.int 4, .null]), ("align", .text "left")]
    (Entries.keys layout).Nodup ∧
    (mapped layout).Perm (layout.flatMap fun entry => mapped [entry]) ∧
    mapped layout.reverse = mapped layout ∧
    mapped layout = [("padding", .text "4px auto"), ("text_align", .text "left"),
      ("grid_row_end", .text "span 2")] := by
  intro layout
  have distinct : (Entries.keys layout).Nodup := by decide
  have keyWise := mapped_keyWise layout distinct
  exact ⟨distinct, keyWise.union, keyWise.permuted _ layout.reverse_perm, rfl⟩

end Layout

end FormCompiler
