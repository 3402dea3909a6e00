import FormCompiler.Proofs.Yaml.Endings
import FormCompiler.Proofs.Yaml.Numbering
import FormCompiler.Yaml.Load
import Mathlib.Algebra.GroupWithZero.Nat
import Mathlib.Algebra.Order.BigOperators.Group.List
import Mathlib.Algebra.Order.Group.Nat
import Mathlib.Data.List.Perm.Subperm
import Mathlib.Data.List.TakeDrop

set_option autoImplicit false

namespace FormCompiler.Yaml

def NodeContent.entries : NodeContent → List (Nat × Nat)
  | .mapping entries => entries
  | _ => []

def isMerge (nodes : Array Node) (number : Nat) : Bool :=
  (nodes[number]?).any fun node => node.tag == .merge

def keyCount (test : Nat → Bool) (nodes : Array Node) : Nat :=
  (nodes.toList.map fun node => node.content.entries.countP fun entry => test entry.1).sum

theorem sum_map_modify {α : Type} {items : List α} {index : Nat} {item : α} (change : α → α)
    (count : α → Nat) (found : items[index]? = some item) :
    ((items.modify index change).map count).sum + count item =
      (items.map count).sum + count (change item) := by
  induction items generalizing index with
  | nil => cases found
  | cons first rest ih =>
    cases index with
    | zero =>
      cases found
      simp only [List.modify_zero_cons, List.map_cons, List.sum_cons]
      omega
    | succ index =>
      have others := ih (by simpa using found)
      simp only [List.modify_succ_cons, List.map_cons, List.sum_cons]
      omega

theorem keyCount_modify (test : Nat → Bool) {nodes : Array Node} {number : Nat} {node : Node}
    (change : Node → Node) (found : nodes[number]? = some node) :
    keyCount test (nodes.modify number change)
        + node.content.entries.countP (fun entry => test entry.1) =
      keyCount test nodes + (change node).content.entries.countP fun entry => test entry.1 := by
  have here : nodes.toList[number]? = some node := by simpa using found
  simpa [keyCount] using
    sum_map_modify change (fun node => node.content.entries.countP fun entry => test entry.1) here

theorem countP_le_keyCount (test : Nat → Bool) {nodes : Array Node} {number : Nat} {node : Node}
    (found : nodes[number]? = some node) :
    node.content.entries.countP (fun entry => test entry.1) ≤ keyCount test nodes :=
  List.le_sum_of_mem (List.mem_map_of_mem
    (Array.mem_toList_iff.mpr (Array.mem_of_getElem? found)))

theorem keyCount_lt_flattenRounds (test : Nat → Bool) (nodes : Array Node) :
    keyCount test nodes < Construct.flattenRounds nodes := by
  have counted (items : List Node) (start : Nat) :
      start + (items.map fun node => node.content.entries.countP fun entry => test entry.1).sum ≤
        items.foldl (fun count node =>
          match node.content with
          | .mapping entries => count + entries.length
          | _ => count) start := by
    induction items generalizing start with
    | nil => simp
    | cons node rest ih =>
      have fewer : node.content.entries.countP (fun entry => test entry.1) ≤
          node.content.entries.length := List.countP_le_length
      rw [List.map_cons, List.sum_cons, List.foldl_cons]
      cases content : node.content with
      | mapping entries =>
        rw [content] at fewer
        exact Nat.le_trans (by simp only [NodeContent.entries] at fewer ⊢; omega) (ih _)
      | scalar | sequence => exact Nat.le_trans (by simp [NodeContent.entries]) (ih _)
  have bound := counted nodes.toList 1
  rw [Array.foldl_toList] at bound
  exact Nat.lt_of_lt_of_le (by simp only [keyCount]; omega) bound

structure Node.Settled (original node : Node) : Prop where
  tag : node.tag = original.tag ∨ original.tag = .value ∧ node.tag = .text
  shape : node.content.shape = original.content.shape
  chars : ∀ chars, node.content = .scalar chars → original.content = .scalar chars

theorem Node.Settled.refl (node : Node) : node.Settled node :=
  ⟨.inl rfl, rfl, fun _ same => same⟩

-- A construction of the document of a table, with at most the given number of merge keys left.
-- Collections that were met are nodes with a cell, and none was met twice.
structure Construction.Steady (table : NodeTable) (merges : Nat) (state : Construction) : Prop where
  size : state.nodes.size = table.nodes.size
  below : NodesBelow table.nodes.size state.nodes
  settled : ∀ (number : Nat) (node : Node), state.nodes[number]? = some node →
    ∃ original, table.nodes[number]? = some original ∧ original.Settled node
  merges : keyCount (isMerge table.nodes) state.nodes ≤ merges
  rounds : state.rounds = Construct.flattenRounds table.nodes
  room : table.nodes.size ≤ state.cells.size
  distinct : state.met.toList.Nodup
  filled : ∀ number ∈ state.met.toList,
    number < table.nodes.size ∧ state.cells[number]?.join.isSome = true

namespace Construction

variable {table : NodeTable} {merges : Nat} {state : Construction}

theorem Steady.mono {more : Nat} (steady : state.Steady table merges) (le : merges ≤ more) :
    state.Steady table more :=
  { steady with merges := Nat.le_trans steady.merges le }

theorem Steady.exists_node (steady : state.Steady table merges) {number : Nat}
    (inside : number < table.nodes.size) : ∃ node, state.nodes[number]? = some node :=
  ⟨_, Array.getElem?_eq_getElem (steady.size ▸ inside)⟩

theorem Steady.isMerge_eq (steady : state.Steady table merges) (number : Nat) :
    isMerge state.nodes number = isMerge table.nodes number := by
  cases found : state.nodes[number]? with
  | none =>
    have outside : table.nodes[number]? = none := by
      rw [Array.getElem?_eq_none_iff] at found ⊢
      exact steady.size ▸ found
    simp [isMerge, found, outside]
  | some node =>
    obtain ⟨original, own, settled⟩ := steady.settled number node found
    rcases settled.tag with same | ⟨before, after⟩
    · simp [isMerge, found, own, same]
    · simp [isMerge, found, own, before, after]

theorem Steady.modify (steady : state.Steady table merges) {number less : Nat} {node : Node}
    {change : Node → Node} (found : state.nodes[number]? = some node)
    (settled : ∀ original : Node, original.Settled node → original.Settled (change node))
    (parts : Below table.nodes.size (change node).content.parts)
    (fewer : merges + (change node).content.entries.countP
        (fun entry => isMerge table.nodes entry.1) ≤
      less + node.content.entries.countP fun entry => isMerge table.nodes entry.1) :
    Steady table less { state with nodes := state.nodes.modify number change } := by
  have changed (other : Nat) (now : Node)
      (here : (state.nodes.modify number change)[other]? = some now) :
      (other = number ∧ now = change node) ∨ state.nodes[other]? = some now := by
    rw [Array.getElem?_modify] at here
    split at here
    · next same =>
      subst same
      rw [found] at here
      exact .inl ⟨rfl, (Option.some.inj here).symm⟩
    · exact .inr here
  refine ⟨by simpa using steady.size, ?_, ?_, ?_, steady.rounds, steady.room, steady.distinct,
    steady.filled⟩
  · intro other now here
    rcases changed other now here with ⟨rfl, rfl⟩ | unchanged
    · exact parts
    · exact steady.below other now unchanged
  · intro other now here
    rcases changed other now here with ⟨rfl, rfl⟩ | unchanged
    · obtain ⟨original, own, before⟩ := steady.settled other node found
      exact ⟨original, own, settled original before⟩
    · exact steady.settled other now unchanged
  · have counted := keyCount_modify (isMerge table.nodes) change found
    have most := steady.merges
    dsimp only
    omega

end Construction

namespace Construct

variable {table : NodeTable} {merges : Nat} {fails : Failure → Prop}

theorem node_run {state : Construction} {number : Nat} {found : Node}
    (here : state.nodes[number]? = some found) :
    (node number).run state = .ok (found, state) := by
  unfold node
  rw [StateT.run_bind, StateT.run_get, pure_bind]
  dsimp only
  rw [here]
  rfl

def Shows (table : NodeTable) (number : Nat) (found : Node) : Prop :=
  (∃ original, table.nodes[number]? = some original ∧ original.Settled found) ∧
    Below table.nodes.size found.content.parts

theorem node_steady {number : Nat} (inside : number < table.nodes.size) :
    Upholds (Construction.Steady table merges) fails (Shows table number) (node number) := by
  intro state steady
  obtain ⟨found, here⟩ := steady.exists_node inside
  rw [node_run here]
  exact .ok ⟨steady, steady.settled number found here, steady.below number found here⟩

theorem entriesOf_run {state : Construction} {number : Nat} {found : Node}
    (here : state.nodes[number]? = some found) :
    (entriesOf number).run state = .ok (found.content.entries, state) := by
  have run := node_run here
  change ((node number).run state >>= fun ending => _) = _
  rw [run]
  change (match found.content with
    | .mapping entries => Pure.pure entries
    | _ => Pure.pure [] : Construct (List (Nat × Nat))).run state = _
  cases found.content <;> rfl

theorem splitAtMerge_run {state : Construction} (steady : state.Steady table merges)
    (entries : List (Nat × Nat)) :
    (splitAtMerge entries).run state =
      .ok (entries.span (fun entry => !isMerge table.nodes entry.1), state) := by
  have same : (fun entry : Nat × Nat => !isMerge state.nodes entry.1) =
      fun entry => !isMerge table.nodes entry.1 :=
    funext fun entry => congrArg _ (steady.isMerge_eq entry.1)
  rw [← same]
  rfl

def IsMapping (table : NodeTable) (number : Nat) : Prop :=
  ∃ original, table.nodes[number]? = some original ∧ original.content.shape = .mapping

def Holds (number : Nat) (entries : List (Nat × Nat)) (state : Construction) : Prop :=
  ∃ node, state.nodes[number]? = some node ∧ node.content = .mapping entries

theorem IsMapping.inside {number : Nat} (mapping : IsMapping table number) :
    number < table.nodes.size := by
  obtain ⟨original, own, -⟩ := mapping
  exact (Array.getElem?_eq_some_iff.mp own).1

theorem isMapping_of_shows {number : Nat} {found : Node} (shows : Shows table number found)
    {entries : List (Nat × Nat)} (content : found.content = .mapping entries) :
    IsMapping table number := by
  obtain ⟨⟨original, own, settled⟩, -⟩ := shows
  exact ⟨original, own, by rw [← settled.shape, content]; rfl⟩

theorem exists_holds {state : Construction} (steady : state.Steady table merges) {number : Nat}
    (mapping : IsMapping table number) :
    ∃ entries, Holds number entries state ∧ Below table.nodes.size (entryParts entries) := by
  obtain ⟨node, here⟩ := steady.exists_node mapping.inside
  obtain ⟨original, own, settled⟩ := steady.settled number node here
  obtain ⟨other, same, shape⟩ := mapping
  rw [own] at same
  cases same
  have below := steady.below number node here
  cases content : node.content with
  | mapping entries =>
    rw [content] at below
    exact ⟨entries, ⟨node, here, content⟩, below⟩
  | scalar | sequence =>
    rw [settled.shape.symm, content] at shape
    cases shape

theorem Holds.entriesOf_run {state : Construction} {number : Nat} {entries : List (Nat × Nat)}
    (holds : Holds number entries state) :
    (entriesOf number).run state = .ok (entries, state) := by
  obtain ⟨node, here, content⟩ := holds
  rw [Construct.entriesOf_run here, content]
  rfl

theorem setEntries_steady {state : Construction} (steady : state.Steady table merges)
    {number less : Nat} {before entries : List (Nat × Nat)} (holds : Holds number before state)
    (below : Below table.nodes.size (entryParts entries))
    (fewer : merges + entries.countP (fun entry => isMerge table.nodes entry.1) ≤
      less + before.countP fun entry => isMerge table.nodes entry.1) :
    Ends (fun ending => ending.2.Steady table less ∧ Holds number entries ending.2) fails
      ((setEntries number entries).run state) := by
  obtain ⟨node, here, content⟩ := holds
  refine .ok ⟨steady.modify here ?_ below ?_, ?_⟩
  · intro original settled
    have shape := settled.shape
    rw [content] at shape
    exact ⟨settled.tag, shape, fun chars scalar => by cases scalar⟩
  · rw [content]
    exact fewer
  · refine ⟨{ node with content := .mapping entries }, ?_, rfl⟩
    simp [Array.getElem?_modify, here]

theorem settleKey_steady {key number : Nat} {entries : List (Nat × Nat)}
    (inside : key < table.nodes.size) :
    Upholds (fun state => Construction.Steady table merges state ∧ Holds number entries state)
      fails (fun _ => True) (settleKey key) := by
  rintro state ⟨steady, node, here, content⟩
  obtain ⟨found, own⟩ := steady.exists_node inside
  have run : (settleKey key).run state =
      (if found.tag == .value then setTag key .text else Pure.pure ()).run state := by
    change ((Construct.node key).run state >>= fun ending => _) = _
    rw [node_run own]
    rfl
  rw [run]
  split
  · next value =>
    refine .ok ⟨⟨steady.modify own ?_ (steady.below key found own) (Nat.le_refl _), ?_⟩, trivial⟩
    · intro original settled
      have isValue : found.tag = .value := by simpa using value
      refine ⟨.inr ⟨?_, rfl⟩, settled.shape, settled.chars⟩
      rcases settled.tag with same | ⟨before, -⟩
      · exact same.symm.trans isValue
      · exact before
    · by_cases same : key = number
      · subst same
        refine ⟨{ node with tag := .text }, ?_, content⟩
        simp [Array.getElem?_modify, here]
      · refine ⟨node, ?_, content⟩
        simpa [Array.getElem?_modify, same] using here
  · exact .ok ⟨⟨steady, node, here, content⟩, trivial⟩

def MergeFree (table : NodeTable) (entries : List (Nat × Nat)) : Prop :=
  ∀ entry ∈ entries, isMerge table.nodes entry.1 = false

theorem MergeFree.countP {entries : List (Nat × Nat)} (free : MergeFree table entries) :
    entries.countP (fun entry => isMerge table.nodes entry.1) = 0 := by
  rw [List.countP_eq_zero]
  exact fun entry member => by simp [free entry member]

theorem MergeFree.append {entries others : List (Nat × Nat)} (free : MergeFree table entries)
    (othersFree : MergeFree table others) : MergeFree table (entries ++ others) :=
  List.forall_mem_append.mpr ⟨free, othersFree⟩

theorem MergeFree.flatten {parts : List (List (Nat × Nat))}
    (each : ∀ part ∈ parts, MergeFree table part) : MergeFree table parts.flatten := by
  intro entry member
  obtain ⟨part, isPart, inside⟩ := List.mem_flatten.mp member
  exact each part isPart entry inside

structure Clean (table : NodeTable) (entries : List (Nat × Nat)) : Prop where
  below : Below table.nodes.size (entryParts entries)
  free : MergeFree table entries

theorem Clean.nil : Clean table [] :=
  ⟨below_nil, fun _ member => by cases member⟩

theorem Clean.append {entries others : List (Nat × Nat)} (clean : Clean table entries)
    (othersClean : Clean table others) : Clean table (entries ++ others) :=
  ⟨by simp [clean.below, othersClean.below], clean.free.append othersClean.free⟩

theorem Clean.flatten {parts : List (List (Nat × Nat))}
    (each : ∀ part ∈ parts, Clean table part) : Clean table parts.flatten :=
  ⟨below_flatten fun part member => (each part member).below,
    MergeFree.flatten fun part member => (each part member).free⟩

def Flat (table : NodeTable) (number : Nat) (state : Construction) : Prop :=
  ∃ entries, Holds number entries state ∧ Clean table entries

theorem splitAtMerge_ends {state : Construction} (steady : state.Steady table merges)
    (entries : List (Nat × Nat)) :
    Ends (fun ending => ending.2 = state ∧ ending.1.1 ++ ending.1.2 = entries ∧
        MergeFree table ending.1.1 ∧
        ∀ entry rest, ending.1.2 = entry :: rest → isMerge table.nodes entry.1 = true)
      fails ((splitAtMerge entries).run state) := by
  rw [splitAtMerge_run steady, List.span_eq_takeWhile_dropWhile]
  refine .ok ⟨rfl, List.takeWhile_append_dropWhile, fun entry member => ?_, ?_⟩
  · have each := List.all_takeWhile (p := fun entry => !isMerge table.nodes entry.1) (l := entries)
    simpa using List.all_eq_true.mp each entry member
  · intro entry rest same
    have stops := List.head?_dropWhile_not (fun entry => !isMerge table.nodes entry.1) entries
    rw [show entries.dropWhile _ = entry :: rest from same] at stops
    simpa using stops

theorem settle_steady {state : Construction} (steady : state.Steady table merges) {number : Nat}
    {merged own : List (Nat × Nat)} (holds : Holds number own state) (clean : Clean table own)
    (mergedClean : Clean table merged) :
    Ends (fun ending => ending.2.Steady table merges ∧ Flat table number ending.2) fails
      ((do
        own.forM fun (key, _) => settleKey key
        unless merged.isEmpty do setEntries number (merged ++ own)).run state) := by
  have keys : ∀ entry ∈ own, entry.1 < table.nodes.size := fun entry member =>
    (below_entryParts.mp clean.below entry member).1
  apply (Upholds.forM (fun entry member => settleKey_steady (keys entry member)) _
    ⟨steady, holds⟩).andThen
  rintro _ state ⟨⟨steady, holds⟩, -⟩
  by_cases nothing : merged.isEmpty
  · simp only [nothing]
    exact .ok ⟨steady, own, holds, clean⟩
  · have whole := mergedClean.append clean
    have written : Ends (fun ending => ending.2.Steady table merges ∧
        Holds number (merged ++ own) ending.2) fails
        ((setEntries number (merged ++ own)).run state) :=
      setEntries_steady steady holds whole.below (by rw [whole.free.countP, clean.free.countP])
    simp only [nothing]
    exact written.mono fun ending given => ⟨given.1, _, given.2, whole⟩

theorem dropMerge_steady {state : Construction} (steady : state.Steady table merges)
    {number key value : Nat} {before after : List (Nat × Nat)}
    (holds : Holds number (before ++ (key, value) :: after) state)
    (isKey : isMerge table.nodes key = true)
    (below : Below table.nodes.size (entryParts (before ++ after))) :
    0 < merges ∧ Ends (fun ending => ending.2.Steady table (merges - 1)) fails
      ((setEntries number (before ++ after)).run state) := by
  have counted : (before ++ (key, value) :: after).countP
        (fun entry => isMerge table.nodes entry.1) =
      (before ++ after).countP (fun entry => isMerge table.nodes entry.1) + 1 := by
    simp [List.countP_append, isKey]
    omega
  have left : 0 < merges := by
    obtain ⟨node, here, content⟩ := holds
    have counts := countP_le_keyCount (isMerge table.nodes) here
    have most := steady.merges
    rw [content] at counts
    simp only [NodeContent.entries] at counts
    omega
  have written : Ends (fun ending => ending.2.Steady table (merges - 1) ∧
      Holds number (before ++ after) ending.2) fails
      ((setEntries number (before ++ after)).run state) :=
    setEntries_steady steady holds below (by rw [counted]; omega)
  exact ⟨left, written.mono fun ending given => given.1⟩

def Flattens (table : NodeTable) (merges steps : Nat) (fails : Failure → Prop) : Prop :=
  ∀ number, IsMapping table number → ∀ state, state.Steady table merges →
    Ends (fun ending => ending.2.Steady table merges ∧ Flat table number ending.2) fails
      ((flatten steps number []).run state)

theorem source_steady {steps item : Nat} (flattens : Flattens table merges steps fails)
    (mapping : IsMapping table item) :
    Upholds (Construction.Steady table merges) fails (Clean table)
      (do flatten steps item []; entriesOf item) := by
  intro state steady
  apply (flattens item mapping state steady).andThen
  rintro _ middle ⟨steady, entries, holds, clean⟩
  dsimp only at steady holds ⊢
  rw [holds.entriesOf_run]
  exact .ok ⟨steady, clean⟩

section Flatten

variable (allowed : ∀ context place problem mark, fails (.malformed .values context place problem mark))

include allowed

theorem sources_steady {steps : Nat} {items : List Nat} (owner : Mark)
    (flattens : Flattens table merges steps fails) (inside : Below table.nodes.size items) :
    Upholds (Construction.Steady table merges) fails (Clean table) (do
      let parts ← items.mapM fun item => do
        let part ← node item
        match part.content with
        | .mapping _ =>
          flatten steps item []
          entriesOf item
        | other => refuse (some (.mapping, owner)) (.notMergeableItem other.shape) part.start
      pure parts.reverse.flatten) := by
  apply Upholds.bind
  · apply Upholds.mapM
    intro item member
    apply (node_steady (inside item member)).bind
    intro part shows
    split
    · next own content => exact source_steady flattens (isMapping_of_shows shows content)
    · exact .throw (allowed _ _ _ _)
  · intro parts each
    exact .pure (Clean.flatten fun part member => each part (List.mem_reverse.mp member))

theorem flatten_steady {steps number : Nat} {merged : List (Nat × Nat)} {state : Construction}
    (room : merges < steps) (mapping : IsMapping table number) (clean : Clean table merged)
    (steady : state.Steady table merges) :
    Ends (fun ending => ending.2.Steady table merges ∧ Flat table number ending.2) fails
      ((flatten steps number merged).run state) := by
  -- The steps exceed the merge keys that are left, and each round takes one of both.
  induction steps generalizing merges number merged state with
  | zero => cases room
  | succ steps ih =>
    obtain ⟨entries, holds, parts⟩ := exists_holds steady mapping
    refine (Ends.of_run holds.entriesOf_run).andThen ?_
    rintro _ _ ⟨⟩
    refine (splitAtMerge_ends steady entries).andThen ?_
    rintro ⟨before, after⟩ middle ⟨same, whole, free, stops⟩
    dsimp only at same whole free stops ⊢
    subst same
    cases after with
    | nil =>
      rw [List.append_nil] at whole
      subst whole
      exact settle_steady steady holds ⟨parts, free⟩ clean
    | cons entry after =>
      obtain ⟨key, value⟩ := entry
      subst whole
      simp only [entryParts_append, entryParts_cons, below_append, below_cons] at parts
      obtain ⟨own, keyInside, valueInside, rest⟩ := parts
      obtain ⟨left, written⟩ :=
        dropMerge_steady steady holds (stops _ _ rfl) (by simp [own, rest])
      have enough : merges - 1 < steps := by omega
      have flattens : Flattens table (merges - 1) steps fails := fun item mapping _ steady =>
        ih enough mapping .nil steady
      refine written.andThen ?_
      rintro _ state steady
      refine (node_steady mapping.inside state steady).andThen ?_
      rintro owner state ⟨steady, -⟩
      refine (node_steady valueInside state steady).andThen ?_
      rintro source state ⟨steady, shows⟩
      have goesOn (found : List (Nat × Nat)) (state : Construction)
          (given : state.Steady table (merges - 1) ∧ Clean table found) :
          Ends (fun ending => ending.2.Steady table merges ∧ Flat table number ending.2) fails
            ((flatten steps number (merged ++ found)).run state) :=
        (ih enough mapping (clean.append given.2) given.1).mono
          fun ending given => ⟨given.1.mono (Nat.sub_le _ _), given.2⟩
      split
      · next own content =>
        have source := source_steady flattens (isMapping_of_shows shows content) state steady
        have onward := source.andThen goesOn
        rw [bind_assoc] at onward
        exact onward
      · next items content =>
        have inside : Below table.nodes.size items := by
          have below := shows.2
          rwa [content] at below
        have sources := sources_steady allowed owner.start flattens inside state steady
        have onward := sources.andThen goesOn
        rw [bind_assoc] at onward
        exact onward
      · exact .error (allowed _ _ _ _)

end Flatten

end Construct

end FormCompiler.Yaml
