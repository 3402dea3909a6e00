import FormCompiler.Proofs.Graph.Outline
import Mathlib.Data.Finset.Card
import Mathlib.Logic.Relation

set_option autoImplicit false

namespace FormCompiler.Graph

open Relation

def Holds (graph : Graph) (whole part : Nat) : Prop :=
  ∃ parts, graph.parts? whole = some parts ∧ part ∈ parts

def ReachesCycle (graph : Graph) (root : Nat) : Prop :=
  ∃ index, ReflTransGen graph.Holds root index ∧ TransGen graph.Holds index index

def Grounded (graph : Graph) (index : Nat) : Prop :=
  Acc (fun part whole => graph.Holds whole part) index

/-- All paths down from a cell end within a number of steps. -/
def Shallow (graph : Graph) : Nat → Nat → Prop
  | 0, _ => False
  | levels + 1, index => ∀ part, graph.Holds index part → graph.Shallow levels part

theorem lt_size_of_parts {graph : Graph} {index : Nat} {parts : List Nat}
    (found : graph.parts? index = some parts) : index < graph.size := by
  by_contra outside
  have missing : graph[index]? = none := Array.getElem?_eq_none (by omega)
  simp [parts?, missing] at found

theorem Grounded.of_parts {graph : Graph} {index : Nat}
    (each : ∀ parts, graph.parts? index = some parts → ∀ part ∈ parts, graph.Grounded part) :
    graph.Grounded index :=
  Acc.intro index fun part ⟨parts, found, member⟩ => each parts found part member

theorem Grounded.not_below_itself {graph : Graph} {index : Nat} (grounded : graph.Grounded index) :
    ¬TransGen graph.Holds index index := by
  induction grounded with
  | intro index _ ih =>
    intro cycle
    obtain ⟨part, holds, back⟩ := TransGen.head'_iff.mp cycle
    exact ih part holds (TransGen.tail' back holds)

theorem Grounded.of_reaches {graph : Graph} {root index : Nat} (grounded : graph.Grounded root)
    (reaches : ReflTransGen graph.Holds root index) : graph.Grounded index := by
  induction reaches with
  | refl => exact grounded
  | tail _ holds ih => exact ih.inv holds

theorem Shallow.grounded {graph : Graph} {levels index : Nat}
    (shallow : graph.Shallow levels index) : graph.Grounded index := by
  induction levels generalizing index with
  | zero => exact shallow.elim
  | succ levels ih => exact Acc.intro index fun part holds => ih (shallow part holds)

theorem enough_of_insert {cells levels index : Nat} {passed : Finset Nat} (new : index ∉ passed)
    (enough : cells + 1 ≤ levels + 1 + passed.card) :
    cells + 1 ≤ levels + (insert index passed).card := by
  rw [Finset.card_insert_of_notMem new]
  omega

theorem shallow_of_path {graph : Graph} {levels index : Nat} (passed : Finset Nat)
    (above : ∀ cell ∈ passed, cell < graph.size ∧ TransGen graph.Holds cell index)
    (enough : graph.size + 1 ≤ levels + passed.card) (acyclic : ¬graph.ReachesCycle index) :
    graph.Shallow levels index := by
  -- The cells passed on the way to a cell that reaches no cycle are distinct, so that the steps
  -- left and the cells passed make up the graph.
  induction levels generalizing index passed with
  | zero =>
    have inside : passed ⊆ Finset.range graph.size :=
      fun cell member => Finset.mem_range.mpr (above cell member).1
    have bound := Finset.card_le_card inside
    simp only [Finset.card_range] at bound
    omega
  | succ levels ih =>
    rintro part ⟨parts, found, held⟩
    have holds : graph.Holds index part := ⟨parts, found, held⟩
    have fresh : index ∉ passed := fun member =>
      acyclic ⟨index, .refl, (above index member).2⟩
    apply ih (insert index passed)
    · intro cell member
      rcases Finset.mem_insert.mp member with same | earlier
      · subst same
        exact ⟨lt_size_of_parts found, .single holds⟩
      · exact ⟨(above cell earlier).1, (above cell earlier).2.tail holds⟩
    · exact enough_of_insert fresh enough
    · rintro ⟨cell, reaches, cycle⟩
      exact acyclic ⟨cell, .head holds reaches, cycle⟩

theorem shallow_of_acyclic {graph : Graph} {index : Nat} (acyclic : ¬graph.ReachesCycle index) :
    graph.Shallow (graph.size + 1) index :=
  shallow_of_path ∅ (by simp) (by simp) acyclic

theorem grounded_iff {graph : Graph} {index : Nat} :
    graph.Grounded index ↔ ¬graph.ReachesCycle index := by
  constructor
  · rintro grounded ⟨cell, reaches, cycle⟩
    exact (grounded.of_reaches reaches).not_below_itself cycle
  · exact fun acyclic => (shallow_of_acyclic acyclic).grounded

theorem ReachesCycle.part {graph : Graph} {index : Nat} (cyclic : graph.ReachesCycle index) :
    ∃ part, graph.Holds index part ∧ graph.ReachesCycle part := by
  obtain ⟨cell, reaches, cycle⟩ := cyclic
  rcases ReflTransGen.cases_head reaches with rfl | ⟨part, holds, rest⟩
  · obtain ⟨part, holds, back⟩ := TransGen.head'_iff.mp cycle
    exact ⟨part, holds, index, back, cycle⟩
  · exact ⟨part, holds, cell, rest, cycle⟩

theorem ReachesCycle.endless {graph : Graph} {index : Nat} (cyclic : graph.ReachesCycle index)
    (levels : Nat) :
    ∃ path : List Nat, path.length = levels ∧ (index :: path).IsChain graph.Holds := by
  induction levels generalizing index with
  | zero => exact ⟨[], rfl, .singleton index⟩
  | succ levels ih =>
    obtain ⟨part, holds, still⟩ := cyclic.part
    obtain ⟨path, length, chain⟩ := ih still
    exact ⟨part :: path, by simp [length], .cons_cons holds chain⟩

def PlainScalars (graph : Graph) : Prop :=
  ∀ (index : Nat) (value : Value), graph[index]? = some (.scalar value) → value.outline = .leaf

section Unfold

variable {graph : Graph} {index : Nat}

theorem tuple_of_isKnot (knot : graph.isKnot index = true) :
    ∃ items, graph[index]? = some (.tuple items) := by
  rw [isKnot, Bool.and_eq_true, Option.any_eq_true] at knot
  obtain ⟨⟨cell, found, tuple⟩, -⟩ := knot
  cases cell with
  | tuple items => exact ⟨items, found⟩
  | _ => cases tuple

theorem unfold_of_none (missing : graph[index]? = none) (levels : Nat) :
    graph.unfold (levels + 1) index = .null := by
  simp [unfold, isKnot, missing]

theorem unfold_of_isKnot (knot : graph.isKnot index = true) (levels : Nat) :
    graph.unfold (levels + 1) index = graph.knot index := by
  rw [unfold, if_pos knot]

theorem unfold_of_not_isKnot (knot : graph.isKnot index = false) {cell : Cell}
    (found : graph[index]? = some cell) (levels : Nat) :
    graph.unfold (levels + 1) index = cell.value (graph.unfold levels) := by
  simp [unfold, knot, found]

theorem outline_unfold_succ (plain : graph.PlainScalars) (levels index : Nat) :
    (graph.unfold (levels + 1) index).outline =
      match graph.parts? index with
      | none => .leaf
      | some parts => .whole (parts.map fun part => (graph.unfold levels part).outline) := by
  cases found : graph[index]? with
  | none => simp [unfold_of_none found, parts?, found, Value.outline]
  | some cell =>
    cases knot : graph.isKnot index with
    | true =>
      obtain ⟨items, tuple⟩ := tuple_of_isKnot knot
      simp [unfold_of_isKnot knot, parts?, tuple, Cell.parts?, Graph.knot, Value.outline]
    | false =>
      rw [unfold_of_not_isKnot knot found]
      cases cell with
      | scalar value => simp [parts?, found, Cell.parts?, Cell.value, plain index value found]
      | list items =>
        simp [parts?, found, Cell.parts?, Cell.value, Value.outline, Function.comp_def]
      | map entries =>
        simp [parts?, found, Cell.parts?, Cell.value, Value.outline, Function.comp_def]
      | tuple items => simp [parts?, found, Cell.parts?, Cell.value, Value.outline]
      | set members => simp [parts?, found, Cell.parts?, Cell.value, Value.outline]

end Unfold

theorem outline_unfold_of_shallow {graph : Graph} (plain : graph.PlainScalars)
    {levels more index : Nat} (shallow : graph.Shallow levels index) (le : levels ≤ more) :
    (graph.unfold more index).outline = (graph.unfold levels index).outline := by
  induction levels generalizing more index with
  | zero => exact shallow.elim
  | succ levels ih =>
    obtain ⟨more, rfl⟩ : ∃ rest, more = rest + 1 := ⟨more - 1, by omega⟩
    rw [outline_unfold_succ plain, outline_unfold_succ plain]
    cases found : graph.parts? index with
    | none => rfl
    | some parts =>
      have each : ∀ part ∈ parts,
          (graph.unfold more part).outline = (graph.unfold levels part).outline :=
        fun part member => ih (shallow part ⟨parts, found, member⟩) (by omega)
      simpa using each

-- The shape of a value that was written out is made of the shapes of its parts, written out each on
-- its own.
theorem outline_value {graph : Graph} (plain : graph.PlainScalars) {index : Nat}
    (grounded : graph.Grounded index) :
    (graph.value index).outline =
      match graph.parts? index with
      | none => .leaf
      | some parts => .whole (parts.map fun part => (graph.value part).outline) := by
  have shallow := shallow_of_acyclic (grounded_iff.mp grounded)
  simp only [value]
  rw [outline_unfold_succ plain]
  cases found : graph.parts? index with
  | none => rfl
  | some parts =>
    have each : ∀ part ∈ parts, (graph.unfold graph.size part).outline =
        (graph.unfold (graph.size + 1) part).outline :=
      fun part member => (outline_unfold_of_shallow plain
        (shallow part ⟨parts, found, member⟩) (Nat.le_succ _)).symm
    simpa using each

end FormCompiler.Graph
