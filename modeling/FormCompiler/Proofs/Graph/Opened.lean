import FormCompiler.Proofs.Graph.Untupled
import Mathlib.Algebra.GroupWithZero.Nat

set_option autoImplicit false

namespace FormCompiler

namespace Value

mutual

def opened : Value → Value
  | .list items => .list (openedItems items)
  | .tuple items => .list (openedItems items)
  | .map entries => .map (openedEntries entries)
  | value => value
termination_by structural value => value

def openedItems : List Value → List Value
  | [] => []
  | item :: rest => opened item :: openedItems rest
termination_by structural items => items

def openedEntries : List (Value × Value) → List (Value × Value)
  | [] => []
  | (key, value) :: rest => (key, opened value) :: openedEntries rest
termination_by structural entries => entries

end

@[simp] theorem openedItems_eq_map (items : List Value) : openedItems items = items.map opened := by
  induction items with
  | nil => rfl
  | cons item rest ih => simp [openedItems, ih]

@[simp] theorem openedEntries_eq_map (entries : List (Value × Value)) :
    openedEntries entries = entries.map fun entry => (entry.1, entry.2.opened) := by
  induction entries with
  | nil => rfl
  | cons entry rest ih => simp [openedEntries, ih]

theorem opened_of_scalar {value : Value} (scalar : value.isScalar = true) :
    value.opened = value := by
  cases value with
  | list | tuple | map => cases scalar
  | _ => rfl

mutual

-- The tuples that stand in no other tuple, each with the level it stands on.

def tuplesAt (level : Nat) : Value → List (Nat × Value)
  | .tuple items => [(level, .tuple items)]
  | .list items => tuplesIn (level + 1) items
  | .map entries => tuplesUnder (level + 1) entries
  | _ => []
termination_by structural value => value

def tuplesIn (level : Nat) : List Value → List (Nat × Value)
  | [] => []
  | item :: rest => tuplesAt level item ++ tuplesIn level rest
termination_by structural items => items

def tuplesUnder (level : Nat) : List (Value × Value) → List (Nat × Value)
  | [] => []
  | (_, value) :: rest => tuplesAt level value ++ tuplesUnder level rest
termination_by structural entries => entries

end

section Height

variable {limit : Int}

def TuplesWithin (limit : Int) (tuples : List (Nat × Value)) : Prop :=
  ∀ tuple ∈ tuples, (tuple.1 : Int) + tuple.2.opened.outline.height ≤ limit

theorem tuplesWithin_append {tuples more : List (Nat × Value)} :
    TuplesWithin limit (tuples ++ more) ↔ TuplesWithin limit tuples ∧ TuplesWithin limit more :=
  List.forall_mem_append

theorem tuplesWithin_nil : TuplesWithin limit [] := by
  simp [TuplesWithin]

theorem whole_within_iff {level : Nat} {parts openedParts : List Outline}
    {tuples : List (Nat × Value)}
    (each : (∀ part ∈ openedParts, ((level + 1 : Nat) : Int) + part.height ≤ limit) ↔
      (∀ part ∈ parts, ((level + 1 : Nat) : Int) + part.height ≤ limit) ∧
        TuplesWithin limit tuples) :
    (level : Int) + (Outline.whole openedParts).height ≤ limit ↔
      (level : Int) + (Outline.whole parts).height ≤ limit ∧ TuplesWithin limit tuples := by
  simp only [Outline.height]
  by_cases within : (level : Int) ≤ limit
  · rw [← Outline.parts_within_iff parts within, ← Outline.parts_within_iff openedParts within]
    simpa using each
  · constructor
    · intro opened
      omega
    · rintro ⟨closed, -⟩
      omega

mutual

theorem opened_height_le_iff : ∀ (value : Value) (level : Nat),
    (level : Int) + value.opened.outline.height ≤ limit ↔
      (level : Int) + value.outline.height ≤ limit ∧ TuplesWithin limit (value.tuplesAt level)
  | .tuple items, level => by
    simp only [tuplesAt, TuplesWithin, List.mem_singleton, forall_eq, outline, Outline.height]
    omega
  | .list items, level => whole_within_iff (openedItems_height_le_iff items (level + 1))
  | .map entries, level => whole_within_iff (openedEntries_height_le_iff entries (level + 1))
  | .null, _ | .bool _, _ | .int _, _ | .float _, _ | .text _, _ | .set _, _ | .bytes _, _
  | .date _, _ | .dateTime _, _ | .handler _, _ | .knot .., _ => by
    simp [tuplesAt, tuplesWithin_nil, opened]

theorem openedItems_height_le_iff : ∀ (items : List Value) (level : Nat),
    (∀ part ∈ outlines (openedItems items), (level : Int) + part.height ≤ limit) ↔
      (∀ part ∈ outlines items, (level : Int) + part.height ≤ limit) ∧
        TuplesWithin limit (tuplesIn level items)
  | [], _ => by simp [tuplesIn, tuplesWithin_nil]
  | item :: rest, level => by
    rw [openedItems, outlines, outlines, List.forall_mem_cons, List.forall_mem_cons, tuplesIn,
      tuplesWithin_append, opened_height_le_iff item level, openedItems_height_le_iff rest level]
    tauto

theorem openedEntries_height_le_iff : ∀ (entries : List (Value × Value)) (level : Nat),
    (∀ part ∈ entryOutlines (openedEntries entries), (level : Int) + part.height ≤ limit) ↔
      (∀ part ∈ entryOutlines entries, (level : Int) + part.height ≤ limit) ∧
        TuplesWithin limit (tuplesUnder level entries)
  | [], _ => by simp [tuplesUnder, tuplesWithin_nil]
  | (_, value) :: rest, level => by
    rw [openedEntries, entryOutlines, entryOutlines, List.forall_mem_cons, List.forall_mem_cons,
      tuplesUnder, tuplesWithin_append, opened_height_le_iff value level,
      openedEntries_height_le_iff rest level]
    tauto

end

end Height

section Size

def heldBy (tuples : List (Nat × Value)) : Nat :=
  (tuples.map fun tuple => tuple.2.opened.outline.size - 1).sum

theorem heldBy_append (tuples more : List (Nat × Value)) :
    heldBy (tuples ++ more) = heldBy tuples + heldBy more := by
  simp [heldBy]

mutual

theorem opened_size : ∀ (value : Value) (level : Nat),
    value.opened.outline.size = value.outline.size + heldBy (value.tuplesAt level)
  | .tuple items, level => by
    simp [tuplesAt, heldBy, opened, outline, Outline.size]
  | .list items, level => by
    have parts := openedItems_sizes items (level + 1)
    simp only [opened, outline, tuplesAt, Outline.size]
    omega
  | .map entries, level => by
    have parts := openedEntries_sizes entries (level + 1)
    simp only [opened, outline, tuplesAt, Outline.size]
    omega
  | .null, _ | .bool _, _ | .int _, _ | .float _, _ | .text _, _ | .set _, _ | .bytes _, _
  | .date _, _ | .dateTime _, _ | .handler _, _ | .knot .., _ => rfl

theorem openedItems_sizes : ∀ (items : List Value) (level : Nat),
    Outline.sizes (outlines (openedItems items)) =
      Outline.sizes (outlines items) + heldBy (tuplesIn level items)
  | [], _ => rfl
  | item :: rest, level => by
    have first := opened_size item level
    have others := openedItems_sizes rest level
    simp only [openedItems, outlines, Outline.sizes, tuplesIn, heldBy_append]
    omega

theorem openedEntries_sizes : ∀ (entries : List (Value × Value)) (level : Nat),
    Outline.sizes (entryOutlines (openedEntries entries)) =
      Outline.sizes (entryOutlines entries) + heldBy (tuplesUnder level entries)
  | [], _ => rfl
  | (_, value) :: rest, level => by
    have first := opened_size value level
    have others := openedEntries_sizes rest level
    simp only [openedEntries, entryOutlines, Outline.sizes, tuplesUnder, heldBy_append]
    omega

end

end Size

end Value

def Cell.opened : Cell → Cell
  | .tuple items => .list items
  | cell => cell

namespace Graph

open Yaml (Fitting)

variable {graph : Graph} {count : Nat}

def opened (graph : Graph) : Graph := graph.map Cell.opened

theorem plainScalars_opened (fitting : Fitting count graph) : graph.opened.PlainScalars := by
  intro index value found
  rw [opened, Array.getElem?_map] at found
  obtain ⟨cell, here, same⟩ := Option.map_eq_some_iff.mp found
  cases cell with
  | scalar own =>
    cases same
    exact outline_of_scalar (fitting index _ here)
  | list | map | tuple | set => cases same

end Graph

end FormCompiler
