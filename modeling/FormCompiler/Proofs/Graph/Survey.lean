import FormCompiler.Proofs.Graph.Cycle

set_option autoImplicit false

namespace FormCompiler.Graph

open Relation

variable {graph : Graph} {limits : Limits} {opened : Finset Nat}

theorem Survey.at_setIfInBounds (survey : Survey) {index : Nat} (inside : index < survey.size)
    (progress : Progress) (other : Nat) :
    Survey.at (survey.setIfInBounds index progress) other =
      if index = other then progress else survey.at other := by
  by_cases same : index = other
  · subst same
    simp [Survey.at, inside]
  · simp [Survey.at, same]

structure Tracks (graph : Graph) (limits : Limits) (opened : Finset Nat) (survey : Survey) :
    Prop where
  size_eq : survey.size = graph.size
  open_iff : ∀ index, survey.at index = .open ↔ index ∈ opened
  measured : ∀ index extent, survey.at index = .measured extent →
    graph.Grounded index ∧ extent = (graph.value index).outline.extent ∧
      extent.size ≤ limits.values

namespace Tracks

theorem fresh (graph : Graph) (limits : Limits) :
    graph.Tracks limits ∅ (Array.replicate graph.size .unseen) := by
  have unseen (index : Nat) : Survey.at (Array.replicate graph.size .unseen) index = .unseen := by
    simp only [Survey.at, Array.getElem?_replicate]
    split <;> rfl
  constructor
  · simp
  · simp [unseen]
  · simp [unseen]

theorem card_le {survey : Survey} (tracks : graph.Tracks limits opened survey) :
    opened.card ≤ graph.size := by
  have inside : opened ⊆ Finset.range graph.size := by
    intro index member
    have isOpen := (tracks.open_iff index).mpr member
    rw [Finset.mem_range, ← tracks.size_eq]
    by_contra outside
    simp [Survey.at, Array.getElem?_eq_none (Nat.le_of_not_lt outside)] at isOpen
  simpa using Finset.card_le_card inside

theorem notMem_of_unseen {survey : Survey} (tracks : graph.Tracks limits opened survey)
    {index : Nat} (unseen : survey.at index = .unseen) : index ∉ opened := by
  intro member
  rw [(tracks.open_iff index).mpr member] at unseen
  cases unseen

theorem enter {survey : Survey} (tracks : graph.Tracks limits opened survey) {index : Nat}
    (inside : index < graph.size) :
    graph.Tracks limits (insert index opened) (survey.setIfInBounds index .open) := by
  have now := Survey.at_setIfInBounds survey (tracks.size_eq ▸ inside) .open
  constructor
  · simpa using tracks.size_eq
  · intro other
    rw [now]
    by_cases same : index = other
    · simp [same]
    · simp [same, Ne.symm same, tracks.open_iff]
  · intro other extent found
    rw [now] at found
    by_cases same : index = other
    · simp [same] at found
    · exact tracks.measured other extent (by simpa [same] using found)

theorem leave {survey : Survey} {index : Nat}
    (tracks : graph.Tracks limits (insert index opened) survey) (closed : index ∉ opened)
    (inside : index < graph.size) (grounded : graph.Grounded index)
    (small : (graph.value index).outline.size ≤ limits.values) :
    graph.Tracks limits opened
      (survey.setIfInBounds index (.measured (graph.value index).outline.extent)) := by
  have now := Survey.at_setIfInBounds survey (tracks.size_eq ▸ inside)
    (.measured (graph.value index).outline.extent)
  constructor
  · simpa using tracks.size_eq
  · intro other
    rw [now]
    by_cases same : index = other
    · subst same
      simp [closed]
    · simp [same, Ne.symm same, tracks.open_iff]
  · intro other extent found
    rw [now] at found
    by_cases same : index = other
    · subst same
      simp only [if_true, Progress.measured.injEq] at found
      subst found
      exact ⟨grounded, rfl, small⟩
    · exact tracks.measured other extent (by simpa [same] using found)

end Tracks

def Free (graph : Graph) (opened : Finset Nat) (index : Nat) : Prop :=
  graph.Grounded index ∧ ∀ cell ∈ opened, ¬ReflTransGen graph.Holds index cell

theorem Free.part {index part : Nat} (free : graph.Free opened index)
    (holds : graph.Holds index part) : graph.Free (insert index opened) part := by
  refine ⟨free.1.inv holds, fun cell member reaches => ?_⟩
  rcases Finset.mem_insert.mp member with same | earlier
  · subst same
    exact free.1.not_below_itself (TransGen.head' holds reaches)
  · exact free.2 cell earlier (.head holds reaches)

-- How an outcome of the guard goes with one of the plain walk. Success is the walk's, and there is
-- no cycle then. A fault is of the walk's kind at least where there is nothing to run into.
def Agrees (graph : Graph) (limits : Limits) (opened : Finset Nat) (grounded free : Prop)
    (plain : Except LimitFault Extent) : Except LimitFault (Extent × Survey) → Prop
  | .ok (found, survey) => graph.Tracks limits opened survey ∧ grounded ∧ plain = .ok found
  | .error fault => free → Verdict.of plain = Verdict.of (.error fault : Except LimitFault Unit)

theorem Agrees.imp {grounded grounded' free free' : Prop} {plain : Except LimitFault Extent}
    {outcome : Except LimitFault (Extent × Survey)}
    (agrees : graph.Agrees limits opened grounded free plain outcome)
    (more : grounded → grounded') (less : free' → free) :
    graph.Agrees limits opened grounded' free' plain outcome := by
  cases outcome with
  | ok result => exact ⟨agrees.1, more agrees.2.1, agrees.2.2⟩
  | error fault => exact fun given => agrees (less given)

theorem measureParts_agrees (depth : Int) (parts : List Nat)
    {measurePart : Nat → Survey → Except LimitFault (Extent × Survey)}
    (each : ∀ part ∈ parts, ∀ survey, graph.Tracks limits opened survey →
      graph.Agrees limits opened (graph.Grounded part) (graph.Free opened part)
        ((graph.value part).outline.walk limits depth) (measurePart part survey))
    (whole : Extent) {survey : Survey} (tracks : graph.Tracks limits opened survey) :
    graph.Agrees limits opened (∀ part ∈ parts, graph.Grounded part)
      (∀ part ∈ parts, graph.Free opened part)
      (Outline.walkParts limits depth whole (parts.map fun part => (graph.value part).outline))
      (measureParts limits measurePart parts whole survey) := by
  induction parts generalizing whole survey with
  | nil => exact ⟨tracks, by simp, rfl⟩
  | cons first rest ih =>
    have here := each first (by simp) survey tracks
    simp only [measureParts, List.map_cons, Outline.walkParts, List.forall_mem_cons]
    cases measured : measurePart first survey with
    | error fault =>
      rw [measured] at here
      rintro ⟨free, -⟩
      have same := here free
      cases walked : (graph.value first).outline.walk limits depth with
      | error plain =>
        rw [walked] at same
        simpa [Verdict.of] using same
      | ok found =>
        rw [walked] at same
        cases fault <;> simp [Verdict.of] at same
    | ok result =>
      obtain ⟨extent, next⟩ := result
      rw [measured] at here
      obtain ⟨tracked, grounded, walked⟩ := here
      simp only [walked]
      by_cases large : limits.values < (whole.withPart extent).size
      · simp only [large, if_true]
        exact fun _ => rfl
      · simp only [large, if_false]
        exact (ih (fun part member => each part (List.mem_cons_of_mem _ member)) _ tracked).imp
          (fun later => ⟨grounded, later⟩) And.right

theorem walk_value_of_parts (plain : graph.PlainScalars) {index : Nat} {parts : List Nat}
    (found : graph.parts? index = some parts) (grounded : graph.Grounded index) {depth : Int}
    (within : ¬limits.depth < depth) :
    (graph.value index).outline.walk limits depth =
      Outline.walkParts limits (depth + 1) .leaf
        (parts.map fun part => (graph.value part).outline) := by
  rw [outline_value plain grounded, found]
  simp [Outline.walk, within]

theorem measure_agrees (plain : graph.PlainScalars) (positive : 1 ≤ limits.values)
    (levels index : Nat) (depth : Int) {survey : Survey}
    (tracks : graph.Tracks limits opened survey)
    (enough : graph.size + 1 ≤ levels + opened.card) :
    graph.Agrees limits opened (graph.Grounded index) (graph.Free opened index)
      ((graph.value index).outline.walk limits depth)
      (graph.measure limits levels index depth survey) := by
  -- Each level opens one collection more, so that what is open and what is left stay enough.
  induction levels generalizing index depth survey opened with
  | zero =>
    -- More collections would be open than there are.
    have bound := tracks.card_le
    omega
  | succ levels ih =>
    simp only [measure]
    by_cases deep : limits.depth < depth
    · simp only [deep, if_true]
      intro _
      rw [Outline.walk_of_too_deep deep]
      rfl
    simp only [deep, if_false]
    cases found : graph.parts? index with
    | none =>
      have grounded : graph.Grounded index := .of_parts (by simp [found])
      have leaf := outline_value plain grounded
      rw [found] at leaf
      exact ⟨tracks, grounded, by simp [leaf, Outline.walk, deep]⟩
    | some parts =>
      cases progress : survey.at index with
      | measured extent =>
        -- The extent was measured elsewhere, at a depth of its own, and is that of the value.
        obtain ⟨grounded, rfl, small⟩ := tracks.measured index extent progress
        by_cases high : limits.depth < depth + (graph.value index).outline.height
        · simp only [Outline.extent, high, if_true]
          exact fun _ => Outline.verdict_of_too_high positive small high
        · simp only [Outline.extent, high, if_false]
          exact ⟨tracks, grounded,
            (Outline.walk_eq_ok_iff positive _ _ _).mpr ⟨rfl, by omega, small⟩⟩
      | «open» =>
        -- Nothing is claimed of a cell that runs into an open collection.
        exact fun free => (free.2 index ((tracks.open_iff index).mp progress) .refl).elim
      | unseen =>
        have closed := tracks.notMem_of_unseen progress
        have inside := lt_size_of_parts found
        have entered := tracks.enter inside
        have deeper := enough_of_insert closed enough
        have partsAgree := measureParts_agrees (depth + 1) parts
          (fun part _ survey tracked => ih part (depth + 1) tracked deeper) .leaf entered
        cases outcome : measureParts limits
            (fun part survey => graph.measure limits levels part (depth + 1) survey) parts .leaf
            (survey.setIfInBounds index .open) with
        | error fault =>
          rw [outcome] at partsAgree
          simp only [outcome]
          intro free
          rw [walk_value_of_parts plain found free.1 deep]
          exact partsAgree fun part member => free.part ⟨parts, found, member⟩
        | ok result =>
          obtain ⟨extent, last⟩ := result
          rw [outcome] at partsAgree
          simp only [outcome]
          obtain ⟨tracked, each, walked⟩ := partsAgree
          have grounded : graph.Grounded index := .of_parts fun others same => by
            rw [found, Option.some.injEq] at same
            exact same ▸ each
          rw [← walk_value_of_parts plain found grounded deep] at walked
          obtain ⟨rfl, -, small⟩ := (Outline.walk_eq_ok_iff positive _ _ _).mp walked
          exact ⟨tracked.leave closed inside grounded small, grounded, walked⟩

theorem measureParts_congr (parts : List Nat)
    (measurePart other : Nat → Survey → Except LimitFault (Extent × Survey))
    (same : ∀ part survey, graph.Tracks limits opened survey →
      other part survey = measurePart part survey)
    (keeps : ∀ part survey, graph.Tracks limits opened survey → ∀ found after,
      measurePart part survey = .ok (found, after) → graph.Tracks limits opened after)
    (whole : Extent) {survey : Survey} (tracks : graph.Tracks limits opened survey) :
    measureParts limits other parts whole survey =
      measureParts limits measurePart parts whole survey := by
  induction parts generalizing whole survey with
  | nil => rfl
  | cons first rest ih =>
    simp only [measureParts, same first survey tracks]
    cases measured : measurePart first survey with
    | error fault => rfl
    | ok result =>
      obtain ⟨extent, next⟩ := result
      simp only [ih _ (keeps first survey tracks extent next measured)]

theorem measure_add_levels (plain : graph.PlainScalars) (positive : 1 ≤ limits.values)
    (levels index : Nat) (depth : Int) {survey : Survey}
    (tracks : graph.Tracks limits opened survey)
    (enough : graph.size + 1 ≤ levels + opened.card) (more : Nat) :
    graph.measure limits (levels + more) index depth survey =
      graph.measure limits levels index depth survey := by
  induction levels generalizing index depth survey opened with
  | zero =>
    have bound := tracks.card_le
    omega
  | succ levels ih =>
    have shift : levels + 1 + more = levels + more + 1 := by omega
    rw [shift]
    simp only [measure]
    cases found : graph.parts? index with
    | none => rfl
    | some parts =>
      cases progress : survey.at index with
      | measured extent => rfl
      | «open» => rfl
      | unseen =>
        have closed := tracks.notMem_of_unseen progress
        have deeper := enough_of_insert closed enough
        have partsSame := measureParts_congr parts
          (fun part survey => graph.measure limits levels part (depth + 1) survey)
          (fun part survey => graph.measure limits (levels + more) part (depth + 1) survey)
          (fun part survey tracked => ih part (depth + 1) tracked deeper)
          (fun part survey tracked found after measured => by
            have agrees := measure_agrees plain positive levels part (depth + 1) tracked deeper
            rw [measured] at agrees
            exact agrees.1)
          .leaf (tracks.enter (lt_size_of_parts found))
        simp only [partsSame]

theorem checkLimits_verdict (plain : graph.PlainScalars) (positive : 1 ≤ limits.values)
    {root : Nat} (acyclic : ¬graph.ReachesCycle root) {depth : Int} :
    Verdict.of (graph.checkLimits root limits depth) =
      Verdict.of ((graph.value root).outline.walk limits depth) := by
  have agrees := measure_agrees plain positive (graph.size + 2) root depth
    (Tracks.fresh graph limits) (by omega)
  unfold checkLimits
  cases measured : graph.measure limits (graph.size + 2) root depth
      (Array.replicate graph.size .unseen) with
  | error fault =>
    rw [measured] at agrees
    exact (agrees ⟨grounded_iff.mpr acyclic, by simp⟩).symm
  | ok result =>
    rw [measured] at agrees
    rw [agrees.2.2]
    rfl

theorem grounded_of_checkLimits (plain : graph.PlainScalars) (positive : 1 ≤ limits.values)
    {root : Nat} {depth : Int} (accepted : graph.checkLimits root limits depth = .ok ()) :
    graph.Grounded root := by
  have agrees := measure_agrees plain positive (graph.size + 2) root depth
    (Tracks.fresh graph limits) (by omega)
  unfold checkLimits at accepted
  cases measured : graph.measure limits (graph.size + 2) root depth
      (Array.replicate graph.size .unseen) with
  | error fault => simp [measured, Except.map] at accepted
  | ok result =>
    rw [measured] at agrees
    exact agrees.2.1

theorem checkLimits_eq_ok_iff (plain : graph.PlainScalars) (positive : 1 ≤ limits.values)
    (root : Nat) (depth : Int) :
    graph.checkLimits root limits depth = .ok () ↔
      ¬graph.ReachesCycle root ∧ depth + (graph.value root).outline.height ≤ limits.depth ∧
        (graph.value root).outline.size ≤ limits.values := by
  by_cases cyclic : graph.ReachesCycle root
  · simp only [cyclic, not_true_eq_false, false_and, iff_false]
    intro accepted
    exact grounded_iff.mp (grounded_of_checkLimits plain positive accepted) cyclic
  · have accepted := Verdict.of_eq_accepted_iff (graph.checkLimits root limits depth)
    rw [checkLimits_verdict plain positive cyclic, Verdict.of_eq_accepted_iff] at accepted
    simp only [Outline.walk_eq_ok_iff positive, exists_eq_left] at accepted
    rw [accepted, and_iff_right cyclic]
    exact ⟨fun checked => ⟨(), checked⟩, fun ⟨_, checked⟩ => checked⟩

/-- The guard accepts a value without cycles exactly if its height and size, with every shared part
written out, are within the limits, and refuses it for the reason for which the plain walk does. So
only the value counts, and not which of its parts are shared. A value in which a cycle is reached is
refused. None of this hangs on the bound on levels. -/
theorem checkLimits_agrees_with_walk (graph : Graph) (plain : graph.PlainScalars) (root : Nat)
    (limits : Limits) (positive : 1 ≤ limits.values) (depth : Int) :
    (¬graph.ReachesCycle root →
      (graph.checkLimits root limits depth = .ok () ↔
        depth + (graph.value root).outline.height ≤ limits.depth ∧
          (graph.value root).outline.size ≤ limits.values) ∧
      Verdict.of (graph.checkLimits root limits depth) =
        Verdict.of ((graph.value root).outline.walk limits depth) ∧
      ∀ (other : Graph) (otherRoot : Nat), other.PlainScalars → ¬other.ReachesCycle otherRoot →
        other.value otherRoot = graph.value root →
        Verdict.of (other.checkLimits otherRoot limits depth) =
          Verdict.of (graph.checkLimits root limits depth)) ∧
    (graph.ReachesCycle root → ∃ fault, graph.checkLimits root limits depth = .error fault) ∧
    ∀ more, (graph.measure limits (graph.size + 2 + more) root depth
        (Array.replicate graph.size .unseen)).map (fun _ => ()) =
      graph.checkLimits root limits depth := by
  refine ⟨fun acyclic => ⟨?_, checkLimits_verdict plain positive acyclic, ?_⟩, ?_, ?_⟩
  · rw [checkLimits_eq_ok_iff plain positive, and_iff_right acyclic]
  · intro other otherRoot otherPlain otherAcyclic same
    rw [checkLimits_verdict otherPlain positive otherAcyclic,
      checkLimits_verdict plain positive acyclic, same]
  · intro cycle
    cases checked : graph.checkLimits root limits depth with
    | error fault => exact ⟨fault, rfl⟩
    | ok _ => exact (grounded_iff.mp (grounded_of_checkLimits plain positive checked) cycle).elim
  · intro more
    rw [measure_add_levels plain positive _ _ _ (Tracks.fresh graph limits) (by omega)]
    rfl

def twiceHeld : Graph := #[.list [1, 2], .list [3], .list [1], .scalar .null]

def selfHeld : Graph := #[.list [0]]

theorem checkLimits_twiceHeld_selfHeld :
    (twiceHeld.PlainScalars ∧ ¬twiceHeld.ReachesCycle 0 ∧
      Verdict.of (twiceHeld.checkLimits 0 ⟨2, 100⟩ 0) = .tooDeep) ∧
    selfHeld.PlainScalars ∧ selfHeld.ReachesCycle 0 ∧
      ∃ fault, selfHeld.checkLimits 0 ⟨2, 100⟩ 0 = .error fault := by
  have twicePlain : twiceHeld.PlainScalars := by
    intro index value found
    rcases index with _ | _ | _ | _ | later <;> simp [twiceHeld] at found
    subst found
    rfl
  have twiceShallow : twiceHeld.Shallow 4 0 := by
    simp [Shallow, Holds, parts?, twiceHeld, Cell.parts?]
  have twiceAcyclic := grounded_iff.mp twiceShallow.grounded
  have selfPlain : selfHeld.PlainScalars := by
    intro index value found
    rcases index with _ | later <;> simp [selfHeld] at found
  have selfCycle : selfHeld.ReachesCycle 0 := ⟨0, .refl, .single ⟨[0], rfl, by simp⟩⟩
  have refused := checkLimits_agrees_with_walk twiceHeld twicePlain 0 ⟨2, 100⟩ (by decide) 0
  have endless := checkLimits_agrees_with_walk selfHeld selfPlain 0 ⟨2, 100⟩ (by decide) 0
  exact ⟨⟨twicePlain, twiceAcyclic, (refused.1 twiceAcyclic).2.1.trans (by decide)⟩,
    selfPlain, selfCycle, endless.2.1 selfCycle⟩

end FormCompiler.Graph
