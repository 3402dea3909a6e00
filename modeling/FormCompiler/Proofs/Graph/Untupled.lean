import FormCompiler.Proofs.Graph.Cycle
import FormCompiler.Proofs.Yaml.Construction

set_option autoImplicit false

namespace FormCompiler

inductive Value.Untupled : Value → Prop where
  | leaf {value : Value} (shape : value.outline = .leaf) : Untupled value
  | list {items : List Value} (each : ∀ item ∈ items, Untupled item) : Untupled (.list items)
  | map {entries : List (Value × Value)} (each : ∀ entry ∈ entries, Untupled entry.2)
      (values : ∀ entry ∈ entries, ∀ items, entry.2 ≠ .tuple items) : Untupled (.map entries)

theorem Value.Untupled.items {items : List Value} (untupled : (Value.list items).Untupled) :
    ∀ item ∈ items, item.Untupled := by
  cases untupled with
  | leaf shape => simp [outline] at shape
  | list each => exact each

theorem Value.Untupled.entries {entries : List (Value × Value)}
    (untupled : (Value.map entries).Untupled) :
    (∀ entry ∈ entries, entry.2.Untupled) ∧
      ∀ entry ∈ entries, ∀ items, entry.2 ≠ .tuple items := by
  cases untupled with
  | leaf shape => simp [outline] at shape
  | map each values => exact ⟨each, values⟩

namespace Graph

open Yaml (Fitting)

variable {graph : Graph} {count : Nat}

theorem outline_of_scalar {value : Value} (scalar : value.isScalar = true) :
    value.outline = .leaf := by
  cases value with
  | list | map => cases scalar
  | _ => rfl

theorem plainScalars_of_fitting (fitting : Fitting count graph) : graph.PlainScalars :=
  fun index _ found => outline_of_scalar (fitting index _ found)

theorem unfold_ne_tuple (fitting : Fitting count graph) (levels : Nat) {index : Nat}
    (inside : index < count) (items : List Value) : graph.unfold levels index ≠ .tuple items := by
  cases levels with
  | zero => simp [unfold, knot]
  | succ levels =>
    simp only [unfold]
    split
    · simp [knot]
    cases found : graph[index]? with
    | none => simp
    | some cell =>
      have fits := fitting index cell found
      cases cell with
      | scalar value =>
        rintro rfl
        cases fits
      -- The cells of nodes come before those of tuples.
      | tuple parts => exact absurd inside (Nat.not_lt.mpr fits)
      | list | map | set => simp [Cell.value]

theorem unfold_untupled (fitting : Fitting count graph) (levels index : Nat) :
    (graph.unfold levels index).Untupled := by
  induction levels generalizing index with
  | zero => exact .leaf rfl
  | succ levels ih =>
    simp only [unfold]
    split
    · exact .leaf rfl
    cases found : graph[index]? with
    | none => exact .leaf rfl
    | some cell =>
      have fits := fitting index cell found
      cases cell with
      | scalar value => exact .leaf (outline_of_scalar fits)
      | list parts =>
        refine .list fun item member => ?_
        obtain ⟨part, -, rfl⟩ := List.mem_map.mp member
        exact ih part
      | map entries =>
        have parts {entry : Value × Value}
            (member : entry ∈ entries.map fun entry => (entry.1, graph.unfold levels entry.2)) :
            ∃ part < count, entry.2 = graph.unfold levels part := by
          obtain ⟨written, isEntry, rfl⟩ := List.mem_map.mp member
          exact ⟨written.2, (fits written isEntry).2, rfl⟩
        refine .map (fun entry member => ?_) fun entry member items => ?_
        · obtain ⟨part, -, same⟩ := parts member
          exact same ▸ ih part
        · obtain ⟨part, inside, same⟩ := parts member
          exact same ▸ unfold_ne_tuple fitting levels inside items
      | tuple | set => exact .leaf rfl

end Graph

end FormCompiler
