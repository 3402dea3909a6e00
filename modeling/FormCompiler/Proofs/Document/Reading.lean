import FormCompiler.Document
import Mathlib.Tactic.Common

set_option autoImplicit false

namespace FormCompiler

theorem exists_ok_of_map {ε α β : Type} {outcome : Except ε α} {shown : α → β} {expected : β}
    (computed : outcome.toOption.map shown = some expected) :
    ∃ result, outcome = .ok result ∧ shown result = expected := by
  cases outcome with
  | error failure => cases computed
  | ok result => exact ⟨result, rfl, Option.some.inj computed⟩

theorem Graph.depth_le_of_checkLimits {graph : Graph} {index : Nat} {limits : Limits} {depth : Int}
    (within : graph.checkLimits index limits depth = .ok ()) : depth ≤ limits.depth := by
  by_contra deep
  simp [checkLimits, measure, Int.not_le.mp deep, Except.map] at within

namespace Document

variable {text file : String} {maxDepth : Int} {document : Document}

theorem read_eq_ok_iff :
    read text file maxDepth = .ok document ↔
      Yaml.load text.toList = .ok (document.graph, document.root) ∧
        (∃ entries, document.graph[document.root]? = some (.map entries)) ∧
        document.graph.checkLimits document.root { depth := maxDepth } 0 = .ok () := by
  simp only [read, ofGraph]
  constructor
  · intro found
    split at found
    · cases found
    next graph root loaded =>
    split at found
    · next entries mapping =>
      split at found
      · next within =>
        cases found
        exact ⟨loaded, ⟨entries, mapping⟩, within⟩
      · cases found
    · cases found
  · rintro ⟨loaded, ⟨entries, mapping⟩, within⟩
    simp [loaded, mapping, within, Except.mapError]

theorem limit_nonneg (found : read text file maxDepth = .ok document) : 0 ≤ maxDepth :=
  Graph.depth_le_of_checkLimits (read_eq_ok_iff.mp found).2.2

end Document

end FormCompiler
