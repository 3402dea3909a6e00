import FormCompiler.Proofs.Document.Reading
import FormCompiler.Proofs.Graph.Knots
import FormCompiler.Proofs.Graph.Survey

set_option autoImplicit false

namespace FormCompiler.Document

variable {text file : String} {maxDepth : Int} {document : Document}

-- Neither the levels of a document nor the number of its values pass a limit, with every shared
-- part written out and whatever tuples hold counted. A document that holds itself has no end.
structure Within (document : Document) (limits : Limits) : Prop where
  finite : ¬document.graph.opened.ReachesCycle document.root
  levels : (document.value.opened.outline.height : Int) ≤ limits.depth
  values : (document.value.opened.outline.size : Int) ≤ limits.values

theorem fitting_of_read (found : read text file maxDepth = .ok document) :
    ∃ count, Yaml.Fitting count document.graph :=
  Yaml.load_fitting (read_eq_ok_iff.mp found).1

theorem acyclic_of_read (found : read text file maxDepth = .ok document) :
    ¬document.graph.ReachesCycle document.root := by
  obtain ⟨count, fitting⟩ := fitting_of_read found
  have positive : (1 : Int) ≤ 100000 := by decide
  exact ((Graph.checkLimits_eq_ok_iff (Graph.plainScalars_of_fitting fitting) positive _ _).mp
    (read_eq_ok_iff.mp found).2.2).1

-- The levels that a value is written out to are enough for every document that the guard accepts:
-- it ends where knots are and nowhere else.
theorem unfold_of_read (found : read text file maxDepth = .ok document) (more : Nat) :
    document.graph.unfold (document.graph.size + 1 + more) document.root = document.value :=
  Graph.unfold_eq_value (acyclic_of_read found) more

theorem within_of_read (found : read text file maxDepth = .ok document) :
    document.value.Untupled ∧ (document.value.outline.height : Int) ≤ maxDepth ∧
      document.value.outline.size ≤ 100000 := by
  obtain ⟨count, fitting⟩ := fitting_of_read found
  have plain := Graph.plainScalars_of_fitting fitting
  have positive : (1 : Int) ≤ 100000 := by decide
  obtain ⟨-, lower, smaller⟩ :=
    (Graph.checkLimits_eq_ok_iff plain positive _ _).mp (read_eq_ok_iff.mp found).2.2
  have height : (document.value.outline.height : Int) ≤ maxDepth := by
    simpa [value] using lower
  exact ⟨Graph.unfold_untupled fitting _ _, height, Int.ofNat_le.mp smaller⟩

theorem within_iff_checkLimits {count : Nat} (fitting : Yaml.Fitting count document.graph)
    {limits : Limits} (positive : 1 ≤ limits.values) :
    document.Within limits ↔
      document.graph.opened.checkLimits document.root limits 0 = .ok () := by
  have plain := Graph.plainScalars_opened fitting
  rw [Graph.checkLimits_eq_ok_iff plain positive, Int.zero_add]
  constructor
  · rintro ⟨finite, levels, values⟩
    exact ⟨finite, Graph.value_opened fitting finite ▸ ⟨levels, values⟩⟩
  · rintro ⟨finite, within⟩
    obtain ⟨levels, values⟩ := Graph.value_opened fitting finite ▸ within
    exact ⟨finite, levels, values⟩

/-- A document that was read has no more levels and no more values than its limits allow, if tuples
count as single values. With what tuples hold it is within the limits exactly if it does not hold
itself inside a tuple, no tuple reaches below the lowest level, and the values in tuples do not bring
the number of all values over the limit; this is what the guard would ask for if it took tuples for
lists. A document that holds itself goes down without end. -/
theorem read_within_iff (found : read text file maxDepth = .ok document) :
    ((document.value.outline.height : Int) ≤ maxDepth ∧ document.value.outline.size ≤ 100000) ∧
    (document.Within { depth := maxDepth } ↔
      ¬document.graph.opened.ReachesCycle document.root ∧
        Value.TuplesWithin maxDepth (document.value.tuplesAt 0) ∧
        document.value.outline.size + Value.heldBy (document.value.tuplesAt 0) ≤ 100000) ∧
    (document.Within { depth := maxDepth } ↔
      document.graph.opened.checkLimits document.root { depth := maxDepth } 0 = .ok ()) ∧
    (document.graph.opened.ReachesCycle document.root → ∀ levels, ∃ path : List Nat,
      path.length = levels ∧ (document.root :: path).IsChain document.graph.opened.Holds) := by
  obtain ⟨-, lower, smaller⟩ := within_of_read found
  obtain ⟨count, fitting⟩ := fitting_of_read found
  have positive : (1 : Int) ≤ 100000 := by decide
  refine ⟨⟨lower, smaller⟩, ?_, within_iff_checkLimits fitting positive, Graph.ReachesCycle.endless⟩
  have height : (document.value.opened.outline.height : Int) ≤ maxDepth ↔
      Value.TuplesWithin maxDepth (document.value.tuplesAt 0) := by
    have either : ((0 : Nat) : Int) + document.value.opened.outline.height ≤ maxDepth ↔ _ :=
      Value.opened_height_le_iff document.value 0
    simpa only [Int.natCast_zero, Int.zero_add, lower, true_and] using either
  have size : (document.value.opened.outline.size : Int) ≤ 100000 ↔
      document.value.outline.size + Value.heldBy (document.value.tuplesAt 0) ≤ 100000 := by
    rw [Value.opened_size document.value 0]
    omega
  constructor
  · rintro ⟨finite, levels, values⟩
    exact ⟨finite, height.mp levels, size.mp values⟩
  · rintro ⟨finite, levels, values⟩
    exact ⟨finite, height.mpr levels, size.mpr values⟩

def pairText : String := "a: !!pairs [k: [[1]]]\n"

theorem read_within_iff_pairs :
    ∃ document, read pairText "doc.yaml" 2 = .ok document ∧
      ((document.value.tuplesAt 0).map fun tuple => (tuple.1, tuple.2.opened.outline.height)) =
        [(2, 3)] ∧
      ¬document.Within { depth := 2 } := by
  have reaches : ((read pairText "doc.yaml" 2).toOption.map fun document =>
      (document.value.tuplesAt 0).map fun tuple => (tuple.1, tuple.2.opened.outline.height)) =
        some [(2, 3)] := by
    decide +kernel
  obtain ⟨document, found, pair⟩ := exists_ok_of_map reaches
  obtain ⟨-, within, -, -⟩ := read_within_iff found
  refine ⟨document, found, pair, fun fits => ?_⟩
  obtain ⟨-, each, -⟩ := within.mp fits
  obtain ⟨tuple, held, same⟩ := List.mem_map.mp (pair ▸ List.mem_singleton_self (2, 3))
  have deep := each tuple held
  obtain ⟨level, height⟩ := Prod.mk.inj same
  rw [level, height] at deep
  revert deep
  decide

end FormCompiler.Document
