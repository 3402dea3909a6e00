import FormCompiler.Proofs.Graph.Opened

set_option autoImplicit false

namespace FormCompiler.Graph

open Yaml (Fitting)

variable {graph : Graph} {levels index : Nat}

theorem opened_parts? (graph : Graph) (index : Nat) :
    graph.opened.parts? index = some (graph.held index) ∨
      graph.opened.parts? index = none ∧ graph.held index = [] := by
  simp only [opened, parts?, held, Array.getElem?_map]
  cases graph[index]? with
  | none => exact .inr ⟨rfl, rfl⟩
  | some cell =>
    cases cell with
    | list | tuple | map => exact .inl rfl
    | scalar | set => exact .inr ⟨rfl, rfl⟩

theorem opened_holds_iff {part : Nat} :
    graph.opened.Holds index part ↔ part ∈ graph.held index := by
  rcases opened_parts? graph index with parts | ⟨none, empty⟩
  · simp [Holds, parts]
  · simp [Holds, none, empty]

theorem ends_iff_shallow : graph.ends levels index = true ↔ graph.opened.Shallow levels index := by
  induction levels generalizing index with
  | zero => simp [ends, Shallow]
  | succ levels ih =>
    simp only [ends, Shallow, List.all_eq_true, opened_holds_iff]
    exact forall₂_congr fun part _ => ih

theorem ends_iff : graph.ends (graph.size + 1) index = true ↔ ¬graph.opened.ReachesCycle index := by
  have same : graph.opened.size = graph.size := Array.size_map
  rw [ends_iff_shallow]
  constructor
  · exact fun shallow => grounded_iff.mp shallow.grounded
  · exact fun acyclic => same ▸ shallow_of_acyclic acyclic

theorem isKnot_iff :
    graph.isKnot index = true ↔
      (∃ items, graph[index]? = some (.tuple items)) ∧ graph.opened.ReachesCycle index := by
  rw [isKnot, Bool.and_eq_true, Bool.not_eq_true', ← Bool.not_eq_true, ends_iff, not_not,
    Option.any_eq_true]
  refine and_congr_left fun _ => ⟨?_, ?_⟩
  · rintro ⟨cell, found, tuple⟩
    cases cell with
    | tuple items => exact ⟨items, found⟩
    | _ => cases tuple
  · rintro ⟨items, found⟩
    exact ⟨_, found, rfl⟩

theorem isKnot_eq_false (acyclic : ¬graph.opened.ReachesCycle index) :
    graph.isKnot index = false := by
  rw [Bool.eq_false_iff]
  exact fun knot => acyclic (isKnot_iff.mp knot).2

theorem isKnot_opened (graph : Graph) (index : Nat) : graph.opened.isKnot index = false := by
  rw [Bool.eq_false_iff]
  intro knot
  obtain ⟨items, found⟩ := tuple_of_isKnot knot
  rw [opened, Array.getElem?_map] at found
  obtain ⟨cell, -, same⟩ := Option.map_eq_some_iff.mp found
  cases cell <;> cases same

theorem cell_value_congr {cell : Cell} {part other : Nat → Value}
    (each : ∀ index ∈ cell.held, part index = other index) : cell.value part = cell.value other := by
  cases cell with
  | scalar | set => rfl
  | list items | tuple items => exact congrArg _ (List.map_congr_left each)
  | map entries =>
    refine congrArg _ (List.map_congr_left fun entry member => ?_)
    rw [each entry.2 (List.mem_map_of_mem member)]

theorem unfold_opened {count : Nat} (fitting : Fitting count graph)
    (shallow : graph.opened.Shallow levels index) :
    graph.opened.unfold levels index = (graph.unfold levels index).opened := by
  induction levels generalizing index with
  | zero => exact shallow.elim
  | succ levels ih =>
    cases found : graph[index]? with
    | none =>
      have missing : graph.opened[index]? = none := by simp [opened, found]
      rw [unfold_of_none found, unfold_of_none missing]
      rfl
    | some cell =>
      have still : graph.opened[index]? = some cell.opened := by simp [opened, found]
      have knotless := isKnot_eq_false (grounded_iff.mp shallow.grounded)
      have each : ∀ part ∈ cell.held,
          graph.opened.unfold levels part = (graph.unfold levels part).opened := by
        intro part member
        refine ih (shallow part (opened_holds_iff.mpr ?_))
        simpa [held, found] using member
      rw [unfold_of_not_isKnot knotless found, unfold_of_not_isKnot (isKnot_opened _ _) still]
      cases cell with
      | scalar value =>
        have scalar : value.isScalar = true := fitting index _ found
        simp [Cell.opened, Cell.value, Value.opened_of_scalar scalar]
      | list items | tuple items =>
        have parts : ∀ part ∈ items,
            graph.opened.unfold levels part = (graph.unfold levels part).opened := each
        simpa [Cell.opened, Cell.value, Value.opened] using parts
      | map entries =>
        have parts : ∀ entry ∈ entries,
            graph.opened.unfold levels entry.2 = (graph.unfold levels entry.2).opened :=
          fun entry member => each entry.2 (List.mem_map_of_mem member)
        simpa [Cell.opened, Cell.value, Value.opened] using parts
      | set members => rfl

theorem value_opened {count : Nat} (fitting : Fitting count graph)
    (acyclic : ¬graph.opened.ReachesCycle index) :
    graph.opened.value index = (graph.value index).opened := by
  have same : graph.opened.size = graph.size := Array.size_map
  have shallow := shallow_of_acyclic acyclic
  rw [same] at shallow
  rw [value, same, unfold_opened fitting shallow]
  rfl

section Untied

open Relation

-- The graph as it is written out: knots hold nothing.
def untied (graph : Graph) : Graph :=
  graph.mapIdx fun index cell => if graph.isKnot index then .scalar .null else cell.opened

theorem untied_holds_iff {part : Nat} :
    graph.untied.Holds index part ↔ graph.isKnot index = false ∧ graph.opened.Holds index part := by
  simp only [Holds, parts?, untied, opened, Array.getElem?_mapIdx, Array.getElem?_map]
  cases graph[index]? with
  | none => simp
  | some cell => cases graph.isKnot index <;> simp [Cell.parts?]

theorem holds_of_untied {part : Nat} (holds : graph.untied.Holds index part)
    (cyclic : graph.opened.ReachesCycle part) : graph.Holds index part := by
  obtain ⟨untied, openly⟩ := untied_holds_iff.mp holds
  obtain ⟨cell, reaches, cycle⟩ := cyclic
  have leads : graph.opened.ReachesCycle index := ⟨cell, .head openly reaches, cycle⟩
  rw [opened_holds_iff] at openly
  cases found : graph[index]? with
  | none => simp [held, found] at openly
  | some cell =>
    simp only [held, found, Option.map_some, Option.getD_some] at openly
    cases cell with
    | list items | map entries => exact ⟨_, by simp [parts?, found, Cell.parts?, Cell.held], openly⟩
    | tuple items =>
      -- A tuple that leads to a cycle is a knot.
      rw [isKnot_iff.mpr ⟨⟨items, found⟩, leads⟩] at untied
      cases untied
    | scalar | set => cases openly

theorem reaches_of_untied {last : Nat} (cyclic : graph.opened.ReachesCycle last)
    (reaches : ReflTransGen graph.untied.Holds index last) :
    ReflTransGen graph.Holds index last ∧ graph.opened.ReachesCycle index := by
  induction reaches using ReflTransGen.head_induction_on with
  | refl => exact ⟨.refl, cyclic⟩
  | head holds _ ih =>
    obtain ⟨rest, cell, below, cycle⟩ := ih
    exact ⟨.head (holds_of_untied holds ⟨cell, below, cycle⟩) rest,
      cell, .head (untied_holds_iff.mp holds).2 below, cycle⟩

theorem untied_acyclic (acyclic : ¬graph.ReachesCycle index) :
    ¬graph.untied.ReachesCycle index := by
  rintro ⟨cell, reaches, cycle⟩
  have openly : graph.untied.Holds ≤ graph.opened.Holds :=
    fun _ _ holds => (untied_holds_iff.mp holds).2
  have cyclic : graph.opened.ReachesCycle cell := ⟨cell, .refl, TransGen.mono openly _ _ cycle⟩
  obtain ⟨part, holds, back⟩ := TransGen.head'_iff.mp cycle
  obtain ⟨backwards, still⟩ := reaches_of_untied cyclic back
  exact acyclic ⟨cell, (reaches_of_untied cyclic reaches).1,
    .head' (holds_of_untied holds still) backwards⟩

theorem unfold_add (shallow : graph.untied.Shallow levels index) (more : Nat) :
    graph.unfold (levels + more) index = graph.unfold levels index := by
  induction levels generalizing index with
  | zero => exact shallow.elim
  | succ levels ih =>
    rw [Nat.succ_add_eq_add_succ, Nat.add_succ]
    cases knot : graph.isKnot index with
    | true => rw [unfold_of_isKnot knot, unfold_of_isKnot knot]
    | false =>
      cases found : graph[index]? with
      | none => rw [unfold_of_none found, unfold_of_none found]
      | some cell =>
        rw [unfold_of_not_isKnot knot found, unfold_of_not_isKnot knot found]
        refine cell_value_congr fun part member => ih (shallow part ?_)
        rw [untied_holds_iff, opened_holds_iff]
        exact ⟨knot, by simpa [held, found] using member⟩

theorem unfold_eq_value (acyclic : ¬graph.ReachesCycle index) (more : Nat) :
    graph.unfold (graph.size + 1 + more) index = graph.value index := by
  have same : graph.untied.size = graph.size := Array.size_mapIdx
  exact unfold_add (same ▸ shallow_of_acyclic (untied_acyclic acyclic)) more

end Untied

end FormCompiler.Graph
