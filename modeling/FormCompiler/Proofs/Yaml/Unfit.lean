import FormCompiler.Proofs.Yaml.Merging
import Mathlib.Data.List.Nodup

set_option autoImplicit false

namespace FormCompiler.Yaml

def Scalar.Lacks (tag : Tag) (occurrence : Nat) (chars : String) (fault : ContentFault) : Prop :=
  match tag with
  | .flag => flag chars = .error fault
  | .whole => whole chars.toList = .error fault
  | .number => number occurrence chars = .error fault
  | .time => time chars.toList = .error fault
  | _ => False

def NodeTable.HasText (table : NodeTable) (number : Nat) (chars : String) : Prop :=
  ∃ node, table.nodes[number]? = some node ∧
    (node.content = .scalar chars ∨
      node.content.shape = .mapping ∧ ∃ other ∈ table.nodes, other.content = .scalar chars)

inductive NodeTable.Unfit (table : NodeTable) : ContentFault → Prop
  | text {number : Nat} {node : Node} {chars : String} {fault : ContentFault}
      (found : table.nodes[number]? = some node) (text : table.HasText number chars)
      (lacks : Scalar.Lacks node.tag (number + 1) chars fault) : Unfit table fault
  | time {node : Node} (found : node ∈ table.nodes) (time : node.tag = .time)
      (mapping : node.content.shape = .mapping) : Unfit table .timeOfMapping
  | endless {node key : Node} (found : node ∈ table.nodes) (mapping : node.content.shape = .mapping)
      (isKey : key ∈ table.nodes) (value : key.tag = .value) : Unfit table .endlessText

def NodeTable.Refuses (table : NodeTable) : Failure → Prop
  | .malformed layer _ _ _ _ => layer = .values
  | .content fault => table.Unfit fault
  | .unreadable _ _ | .exhausted => False

theorem binary_refuses (table : NodeTable) (place : Mark) (chars : String) :
    Ends (fun _ => True) table.Refuses (Scalar.binary place chars) := by
  unfold Scalar.binary
  split
  · exact .error rfl
  · split
    · exact .ok trivial
    · exact .error rfl

namespace Construct

variable {α : Type} {table : NodeTable} {merges : Nat}

theorem refuse_steady {gives : α → Prop} (context : Option (Activity × Mark)) (problem : Problem)
    (place : Mark) :
    Upholds (Construction.Steady table merges) table.Refuses gives
      (refuse context problem place) :=
  .throw rfl

theorem content_steady {found : Scalar.Content α}
    (unfit : ∀ fault, found = .error fault → table.Unfit fault) :
    Upholds (Construction.Steady table merges) table.Refuses (fun _ => True) (content found) := by
  cases found with
  | error fault => exact .throw (unfit fault rfl)
  | ok result => exact .pure trivial

theorem scalarText_steady {steps number : Nat} (inside : number < table.nodes.size)
    (room : steps = 0 → table.Unfit .endlessText) :
    Upholds (Construction.Steady table merges) table.Refuses (table.HasText number)
      (scalarText steps number) := by
  induction steps generalizing number with
  | zero => exact .throw (room rfl)
  | succ steps ih =>
    refine (node_steady inside).bind fun found shows => ?_
    obtain ⟨⟨original, own, settled⟩, below⟩ := shows
    split
    · next chars content => exact .pure ⟨original, own, .inl (settled.chars chars content)⟩
    · exact refuse_steady _ _ _
    · next entries content =>
      have mapping : original.content.shape = .mapping := by
        rw [← settled.shape, content]
        rfl
      refine Upholds.get.bind fun state steady => ?_
      dsimp only
      split
      · next key value isValue =>
        have member := List.mem_of_find?_eq_some isValue
        have tagged := List.find?_some isValue
        rw [content] at below
        obtain ⟨keyInside, valueInside⟩ := below_entryParts.mp below _ member
        obtain ⟨keyNode, here⟩ := steady.exists_node keyInside
        obtain ⟨keyOriginal, keyOwn, keySettled⟩ := steady.settled key keyNode here
        have isKey : keyOriginal.tag = .value := by
          simp only [here, Option.any_some, beq_iff_eq] at tagged
          rcases keySettled.tag with same | ⟨before, -⟩
          · exact same.symm.trans tagged
          · exact before
        -- Where the steps run out, a mapping led on by a value key, as this one does.
        have looped : table.Unfit .endlessText :=
          .endless (Array.mem_of_getElem? own) mapping (Array.mem_of_getElem? keyOwn) isKey
        refine fun start kept => (ih valueInside (fun _ => looped) start kept).mono ?_
        rintro ending ⟨after, node, at_, text⟩
        refine ⟨after, original, own, .inr ⟨mapping, ?_⟩⟩
        rcases text with chars | ⟨-, other⟩
        · exact ⟨node, Array.mem_of_getElem? at_, chars⟩
        · exact other
      · exact refuse_steady _ _ _

theorem tag_of_shows {number : Nat} {found : Node} (shows : Shows table number found)
    (other : found.tag ≠ .text) :
    ∃ original, table.nodes[number]? = some original ∧ original.tag = found.tag ∧
      original.Settled found := by
  obtain ⟨⟨original, own, settled⟩, -⟩ := shows
  rcases settled.tag with same | ⟨-, after⟩
  · exact ⟨original, own, same.symm, settled⟩
  · exact absurd after other

theorem scalarValue_steady {number : Nat} (inside : number < table.nodes.size) :
    Upholds (Construction.Steady table merges) table.Refuses (fun _ => True)
      (scalarValue number) := by
  refine (node_steady inside).bind fun found shows => ?_
  refine Upholds.get.bind fun state _ => ?_
  refine (scalarText_steady inside (fun none => by cases none)).bind fun chars text => ?_
  have lacks (fault : ContentFault) (other : found.tag ≠ .text)
      (lacks : Scalar.Lacks found.tag (number + 1) chars fault) : table.Unfit fault := by
    obtain ⟨original, own, same, -⟩ := tag_of_shows shows other
    exact .text own text (same ▸ lacks)
  cases tag : found.tag with
  | null | text => exact .pure trivial
  | flag | whole | number =>
    refine (content_steady fun fault fails => ?_).bind fun _ _ => .pure trivial
    exact lacks fault (by simp [tag]) (by rw [tag]; exact fails)
  | binary => exact .lift (binary_refuses _ _ _)
  | time =>
    dsimp only
    split
    · refine content_steady fun fault fails => ?_
      exact lacks fault (by simp [tag]) (by rw [tag]; exact fails)
    · next other =>
      obtain ⟨original, own, same, settled⟩ := tag_of_shows shows (by simp [tag])
      obtain ⟨node, at_, given⟩ := text
      rw [own] at at_
      cases at_
      rcases given with scalar | ⟨mapping, -⟩
      · have shape := settled.shape
        rw [scalar] at shape
        cases content : found.content with
        | scalar chars => exact absurd content (other chars)
        | sequence | mapping =>
          rw [content] at shape
          cases shape
      · exact .throw (.time (Array.mem_of_getElem? own) (same.trans tag) mapping)
  | _ => exact refuse_steady _ _ _

theorem cell?_run (state : Construction) (number : Nat) :
    (cell? number).run state = .ok (state.cells[number]?.join, state) := rfl

theorem cell?_steady (number : Nat) :
    Upholds (Construction.Steady table merges) table.Refuses (fun _ => True) (cell? number) :=
  fun _ steady => .ok ⟨steady, trivial⟩

theorem filled_setIfInBounds {cells : Array (Option Cell)} {number other : Nat} {cell : Cell}
    (filled : cells[other]?.join.isSome = true) :
    (cells.setIfInBounds number (some cell))[other]?.join.isSome = true := by
  by_cases same : number = other
  · subst same
    by_cases inside : number < cells.size
    · simp [inside]
    · rw [Array.getElem?_eq_none (Nat.le_of_not_lt inside)] at filled
      cases filled
  · simpa [Array.getElem?_setIfInBounds, same] using filled

theorem setCell_steady (number : Nat) (cell : Cell) :
    Upholds (Construction.Steady table merges) table.Refuses (fun _ => True)
      (setCell number cell) := by
  refine .modify fun state steady => { steady with room := ?_, filled := fun other met => ?_ }
  · simpa using steady.room
  · obtain ⟨inside, filled⟩ := steady.filled other met
    exact ⟨inside, filled_setIfInBounds filled⟩

theorem addCell_steady (cell : Cell) :
    Upholds (Construction.Steady table merges) table.Refuses (fun _ => True) (addCell cell) := by
  refine Upholds.get.bind fun _ _ => Upholds.bind (Upholds.modify fun state steady => ?_)
    fun _ _ => .pure trivial
  refine { steady with room := ?_, filled := fun other met => ?_ }
  · simpa using Nat.le_succ_of_le steady.room
  · obtain ⟨inside, filled⟩ := steady.filled other met
    have before : other < state.cells.size := Nat.lt_of_lt_of_le inside steady.room
    refine ⟨inside, ?_⟩
    simpa [Array.getElem?_push, Nat.ne_of_lt before] using filled

theorem meet_steady {state : Construction} (steady : state.Steady table merges) {number : Nat}
    (inside : number < table.nodes.size) (free : state.cells[number]?.join.isSome = false)
    (cell : Cell) :
    Ends (fun ending => ending.2.Steady table merges ∧ True) table.Refuses
      ((meet number cell).run state) := by
  have room : number < state.cells.size := Nat.lt_of_lt_of_le inside steady.room
  have fresh : number ∉ state.met.toList := by
    intro met
    rw [(steady.filled number met).2] at free
    cases free
  refine .ok ⟨{ steady with
    room := by simpa using steady.room
    distinct := ?_
    filled := ?_ }, trivial⟩
  · rw [Array.toList_push, ← List.concat_eq_append]
    exact List.Nodup.concat fresh steady.distinct
  · intro other met
    rw [Array.toList_push, List.mem_append, List.mem_singleton] at met
    rcases met with before | rfl
    · obtain ⟨inside, filled⟩ := steady.filled other before
      exact ⟨inside, filled_setIfInBounds filled⟩
    · exact ⟨inside, by simp [room]⟩

theorem construct_steady {number : Nat} (inside : number < table.nodes.size) :
    Upholds (Construction.Steady table merges) table.Refuses (fun _ => True)
      (construct number) := by
  intro state steady
  refine (Ends.of_run (cell?_run state number)).andThen ?_
  rintro _ _ ⟨⟩
  split
  · exact .ok ⟨steady, trivial⟩
  next free =>
  obtain ⟨node, here⟩ := steady.exists_node inside
  refine (Ends.of_run (node_run here)).andThen ?_
  rintro _ _ ⟨⟩
  cases node.tag with
  | sequence | orderedMap | pairs | mapping | set =>
    exact meet_steady steady inside (by simpa using free) _
  | merge | value | other => exact .error rfl
  | _ => exact (scalarValue_steady inside).bind (fun value _ => setCell_steady _ _) state steady

theorem flatten_upholds {steps number : Nat} (room : merges < steps)
    (mapping : IsMapping table number) :
    Upholds (Construction.Steady table merges) table.Refuses (fun _ => True)
      (flatten steps number []) := by
  intro state steady
  have ends : Ends (fun ending => ending.2.Steady table merges ∧ Flat table number ending.2)
      table.Refuses ((flatten steps number []).run state) :=
    flatten_steady (fun _ _ _ _ => rfl) room mapping .nil steady
  exact ends.mono fun ending given => ⟨given.1, trivial⟩

theorem entriesOf_upholds {number : Nat} (inside : number < table.nodes.size) :
    Upholds (Construction.Steady table merges) table.Refuses
      (fun entries => Below table.nodes.size (entryParts entries)) (entriesOf number) := by
  refine (node_steady inside).bind fun found shows => ?_
  have below := shows.2
  split
  · next entries content =>
    rw [content] at below
    exact .pure below
  · exact .pure below_nil

theorem mappingEntries_steady {number : Nat} (inside : number < table.nodes.size)
    (room : merges < flattenRounds table.nodes) :
    Upholds (Construction.Steady table merges) table.Refuses (fun _ => True)
      (mappingEntries number) := by
  refine (node_steady inside).bind fun found shows => ?_
  split
  · next entries content =>
    refine Upholds.get.bind fun state steady => ?_
    rw [steady.rounds]
    refine (flatten_upholds room (isMapping_of_shows shows content)).bind fun _ _ => ?_
    refine (entriesOf_upholds inside).bind fun entries below => ?_
    refine .foldlM (fun entry member written _ => ?_) trivial
    obtain ⟨keyInside, valueInside⟩ := below_entryParts.mp below entry member
    refine (construct_steady keyInside).bind fun _ _ => ?_
    refine (cell?_steady entry.1).bind fun cell _ => ?_
    split
    · exact (construct_steady valueInside).bind fun _ _ => .pure trivial
    · exact (node_steady keyInside).bind fun key _ => refuse_steady _ _ _
  · exact refuse_steady _ _ _

theorem orderedEntry_steady (activity : Activity) (owner : Mark) {number : Nat}
    (inside : number < table.nodes.size) :
    Upholds (Construction.Steady table merges) table.Refuses (fun _ => True)
      (orderedEntry activity owner number) := by
  refine (node_steady inside).bind fun item shows => ?_
  have below := shows.2
  split
  · next key value content =>
    rw [content] at below
    obtain ⟨keyInside, valueInside⟩ := below_entryParts.mp below (key, value) (by simp)
    exact (construct_steady keyInside).bind fun _ _ =>
      (construct_steady valueInside).bind fun _ _ => addCell_steady _
  · exact refuse_steady _ _ _
  · exact refuse_steady _ _ _

theorem fill_steady {number : Nat} (inside : number < table.nodes.size)
    (room : merges < flattenRounds table.nodes) :
    Upholds (Construction.Steady table merges) table.Refuses (fun _ => True) (fill number) := by
  refine (node_steady inside).bind fun found shows => ?_
  have below := shows.2
  have ordered (activity : Activity) (items : List Nat) (below : Below table.nodes.size items) :
      Upholds (Construction.Steady table merges) table.Refuses (fun _ => True)
        (do setCell number (.list (← items.mapM (orderedEntry activity found.start)))) :=
    (Upholds.mapM fun item member => orderedEntry_steady activity found.start (below item member)).bind
      fun _ _ => setCell_steady _ _
  dsimp only
  cases found.tag with
  | sequence =>
    cases content : found.content with
    | sequence items =>
      rw [content] at below
      exact (Upholds.forM fun item member => construct_steady (below item member)).bind fun _ _ =>
        setCell_steady _ _
    | scalar | mapping => exact refuse_steady _ _ _
  | orderedMap | pairs =>
    cases content : found.content with
    | sequence items =>
      rw [content] at below
      exact ordered _ items below
    | scalar | mapping => exact refuse_steady _ _ _
  | _ => exact (mappingEntries_steady inside room).bind fun _ _ => setCell_steady _ _

theorem met_size_le {state : Construction} (steady : state.Steady table merges) :
    state.met.size ≤ table.nodes.size := by
  have subset : state.met.toList ⊆ List.range table.nodes.size := fun number met =>
    List.mem_range.mpr (steady.filled number met).1
  have length := (steady.distinct.subperm subset).length_le
  rwa [List.length_range, Array.length_toList] at length

theorem fillFrom_steady {steps position : Nat} (before : position ≤ table.nodes.size)
    (enough : table.nodes.size < steps + position) (room : merges < flattenRounds table.nodes) :
    Upholds (Construction.Steady table merges) table.Refuses (fun _ => True)
      (fillFrom steps position) := by
  induction steps generalizing position with
  | zero => omega
  | succ steps ih =>
    refine Upholds.get.bind fun state steady => ?_
    split
    · next number met =>
      have inside : number < table.nodes.size :=
        (steady.filled number (by simpa using Array.mem_of_getElem? met)).1
      have next : position < state.met.size := (Array.getElem?_eq_some_iff.mp met).1
      have size := met_size_le steady
      exact (fill_steady inside room).bind fun _ _ => ih (by omega) (by omega)
    · exact .pure trivial

theorem document_steady {root : Nat} (inside : root < table.nodes.size)
    (room : merges < flattenRounds table.nodes) :
    Upholds (Construction.Steady table merges) table.Refuses (fun _ => True) (document root) :=
  (construct_steady inside).bind fun _ _ =>
    Upholds.get.bind fun state steady => by
      have enough : table.nodes.size < state.nodes.size + 1 + 0 := by
        rw [steady.size]
        omega
      exact fillFrom_steady (Nat.zero_le _) enough room

end Construct

theorem NodeTable.graph_ends {table : NodeTable}
    (below : NodesBelow table.nodes.size table.nodes) (inside : table.root < table.nodes.size) :
    Ends (fun _ => True) table.Refuses table.graph := by
  have start : Construction.Steady table (keyCount (isMerge table.nodes) table.nodes)
      { nodes := table.nodes
        cells := Array.replicate table.nodes.size none
        rounds := Construct.flattenRounds table.nodes } :=
    { size := rfl
      below
      settled := fun number node found => ⟨node, found, .refl node⟩
      merges := Nat.le_refl _
      rounds := rfl
      room := by simp
      distinct := List.nodup_nil
      filled := by simp }
  exact (Construct.document_steady inside (keyCount_lt_flattenRounds _ _) _ start).bind
    fun _ _ => .ok trivial

end FormCompiler.Yaml
