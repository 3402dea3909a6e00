import FormCompiler.Proofs.Yaml.Endings
import FormCompiler.Proofs.Yaml.Numbering
import FormCompiler.Yaml.Load
import Mathlib.Data.List.TakeDrop

set_option autoImplicit false

namespace FormCompiler

def Value.isScalar : Value → Bool
  | .null | .bool _ | .int _ | .float _ | .text _ | .bytes _ | .date _ | .dateTime _ => true
  | .list _ | .tuple _ | .map _ | .set _ | .handler _ | .knot .. => false

def Cell.Fits (count number : Nat) : Cell → Prop
  | .scalar value => value.isScalar = true
  | .map entries => ∀ entry ∈ entries, entry.1.isScalar = true ∧ entry.2 < count
  | .set members => ∀ member ∈ members, member.isScalar = true
  | .tuple _ => count ≤ number
  | .list _ => True

namespace Yaml

structure Construction.Sound (count : Nat) (state : Construction) : Prop where
  nodes : NodesBelow count state.nodes
  room : count ≤ state.cells.size
  cells : ∀ (number : Nat) (cell : Cell),
    state.cells[number]? = some (some cell) → cell.Fits count number

namespace Scalar

theorem binary_plain {place : Mark} {chars : String} {value : Value}
    (read : binary place chars = .ok value) : value.isScalar = true := by
  unfold binary at read
  split at read
  · cases read
  · split at read
    · cases read
      rfl
    · cases read

theorem plain_of_checked {α β : Type} {make : α → Value}
    (plain : ∀ found, (make found).isScalar = true) {checked : Except β α}
    {fault : β → ContentFault} {value : Value}
    (read : (checked.map make).mapError fault = .ok value) : value.isScalar = true := by
  cases checked with
  | error _ => cases read
  | ok found =>
    cases read
    exact plain found

theorem time_plain {chars : List Char} {value : Value} (read : time chars = .ok value) :
    value.isScalar = true := by
  unfold time at read
  split at read
  · cases read
  dsimp only at read
  split at read
  · exact plain_of_checked (fun _ => rfl) read
  · split at read
    all_goals
      obtain ⟨offset, -, checked⟩ := bind_ok read
      exact plain_of_checked (fun _ => rfl) checked

end Scalar

namespace Construct

variable {α β : Type} {count : Nat}

abbrev Keeps (count : Nat) (step : Construct α) (gives : α → Prop) : Prop :=
  Upholds (Construction.Sound count) (fun _ => True) gives step

theorem refuse_keeps {gives : α → Prop} (context : Option (Activity × Mark)) (problem : Problem)
    (place : Mark) : Keeps count (refuse context problem place) gives :=
  .throw trivial

theorem content_keeps {gives : α → Prop} {found : Scalar.Content α}
    (given : ∀ result, found = .ok result → gives result) :
    Keeps count (content found) gives := by
  cases found with
  | error fault => exact .throw trivial
  | ok result => exact .pure (given result rfl)

theorem node_keeps (number : Nat) :
    Keeps count (node number) fun found => Below count found.content.parts := by
  refine Upholds.get.bind fun state sound => ?_
  split
  · next found here => exact .pure (sound.nodes number found here)
  · exact .throw trivial

theorem setCell_keeps {number : Nat} {cell : Cell} (fits : cell.Fits count number) :
    Keeps count (setCell number cell) fun _ => True := by
  refine Upholds.modify fun state sound => ⟨sound.nodes, by simpa using sound.room, ?_⟩
  intro other found here
  rw [Array.getElem?_setIfInBounds] at here
  split at here
  · next same =>
    split at here
    · cases here
      exact same ▸ fits
    · cases here
  · exact sound.cells other found here

theorem addCell_keeps (items : List Nat) :
    Keeps count (addCell (.tuple items)) fun _ => True := by
  refine Upholds.get.bind fun state sound => ?_
  refine Upholds.bind (Upholds.modify fun state sound => ⟨sound.nodes, ?_, ?_⟩) ?_
  · simpa using Nat.le_succ_of_le sound.room
  · intro number cell here
    rw [Array.getElem?_push] at here
    split at here
    · next last =>
      -- The cells of all nodes are there already.
      cases here
      exact last ▸ sound.room
    · exact sound.cells number cell here
  · exact fun _ _ => .pure trivial

theorem cell?_keeps (number : Nat) :
    Keeps count (cell? number) fun found => ∀ cell, found = some cell → cell.Fits count number :=
  Upholds.get.bind fun _ sound => .pure fun cell found =>
    sound.cells number cell (Option.join_eq_some_iff.mp found)

theorem scalarText_keeps (steps number : Nat) :
    Keeps count (scalarText steps number) fun _ => True := by
  induction steps generalizing number with
  | zero => exact .throw trivial
  | succ steps ih =>
    refine (node_keeps number).bind fun found below => ?_
    split
    · exact .pure trivial
    · exact refuse_keeps _ _ _
    · refine Upholds.get.bind fun state sound => ?_
      dsimp only
      split
      · exact ih _
      · exact refuse_keeps _ _ _

theorem scalarValue_keeps (number : Nat) :
    Keeps count (scalarValue number) fun value => value.isScalar = true := by
  refine (node_keeps number).bind fun found _ => ?_
  refine Upholds.get.bind fun state _ => ?_
  refine (scalarText_keeps _ _).bind fun chars _ => ?_
  cases found.tag with
  | null | text => exact .pure rfl
  | flag | whole | number =>
    have read {α : Type} (found : Scalar.Content α) : Keeps count (content found) fun _ => True :=
      content_keeps fun _ _ => trivial
    exact (read _).bind fun _ _ => .pure rfl
  | binary => exact .lift (.of_result fun value read => Scalar.binary_plain read)
  | time =>
    dsimp only
    split
    · exact content_keeps fun value read => Scalar.time_plain read
    · exact .throw trivial
  | _ => exact refuse_keeps _ _ _

theorem meet_keeps {number : Nat} {cell : Cell} (fits : cell.Fits count number) :
    Keeps count (meet number cell) fun _ => True :=
  (setCell_keeps fits).bind fun _ _ =>
    .modify fun _ sound => ⟨sound.nodes, sound.room, sound.cells⟩

theorem construct_keeps (number : Nat) : Keeps count (construct number) fun _ => True := by
  refine (cell?_keeps number).bind fun found _ => ?_
  split
  · exact .pure trivial
  refine (node_keeps number).bind fun node _ => ?_
  cases node.tag with
  | sequence | orderedMap | pairs => exact meet_keeps trivial
  | mapping | set => exact meet_keeps (by simp [Cell.Fits])
  | merge | value | other => exact refuse_keeps _ _ _
  | _ => exact (scalarValue_keeps number).bind fun value plain => setCell_keeps plain

theorem entriesOf_keeps (number : Nat) :
    Keeps count (entriesOf number) fun entries => Below count (entryParts entries) := by
  refine (node_keeps number).bind fun found below => ?_
  split
  · next entries content =>
    rw [content] at below
    exact .pure below
  · exact .pure below_nil

theorem setEntries_keeps {number : Nat} {entries : List (Nat × Nat)}
    (below : Below count (entryParts entries)) :
    Keeps count (setEntries number entries) fun _ => True :=
  .modify fun _ sound => ⟨sound.nodes.modify fun _ _ => below, sound.room, sound.cells⟩

theorem settleKey_keeps (key : Nat) : Keeps count (settleKey key) fun _ => True := by
  refine (node_keeps key).bind fun found _ => ?_
  split
  · exact .modify fun _ sound =>
      ⟨sound.nodes.modify fun _ parts => parts, sound.room, sound.cells⟩
  · exact .pure trivial

theorem splitAtMerge_keeps (entries : List (Nat × Nat)) :
    Keeps count (splitAtMerge entries) fun ends => ends.1 ++ ends.2 = entries := by
  refine Upholds.get.bind fun state _ => .pure ?_
  rw [List.span_eq_takeWhile_dropWhile]
  exact List.takeWhile_append_dropWhile

theorem flatten_keeps (steps number : Nat) {merged : List (Nat × Nat)}
    (below : Below count (entryParts merged)) :
    Keeps count (flatten steps number merged) fun _ => True := by
  induction steps generalizing number merged with
  | zero => exact .throw trivial
  | succ steps ih =>
    refine (entriesOf_keeps number).bind fun entries parts => ?_
    refine (splitAtMerge_keeps entries).bind fun ends whole => ?_
    split
    · next own =>
      refine (Upholds.forM fun entry _ => settleKey_keeps entry.1).bind fun _ _ => ?_
      split
      · exact .pure trivial
      · refine setEntries_keeps ?_
        subst whole
        simpa [below] using parts
    · next before key value after =>
      subst whole
      simp only [entryParts_append, entryParts_cons, below_append, below_cons] at parts
      refine (setEntries_keeps (by simp [parts])).bind fun _ _ => ?_
      refine (node_keeps number).bind fun owner _ => ?_
      refine (node_keeps value).bind fun source _ => ?_
      -- Whatever is taken from sources consists of nodes, and the next round merges it.
      have goesOn (found : List (Nat × Nat)) (foundBelow : Below count (entryParts found)) :
          Keeps count (flatten steps number (merged ++ found)) fun _ => True :=
        ih number (by simp [below, foundBelow])
      dsimp only
      split
      · exact (ih value below_nil).bind fun _ _ => (entriesOf_keeps value).bind goesOn
      · refine Upholds.bind (show Keeps count _ fun parts =>
          ∀ entries ∈ parts, Below count (entryParts entries) from .mapM fun item _ => ?_) ?_
        · refine (node_keeps item).bind fun part _ => ?_
          split
          · exact (ih item below_nil).bind fun _ _ => entriesOf_keeps item
          · exact refuse_keeps _ _ _
        · exact fun parts each => goesOn _ (below_flatten (by simpa using each))
      · exact (refuse_keeps _ _ _).bind goesOn

theorem mappingEntries_keeps (number : Nat) :
    Keeps count (mappingEntries number) fun entries =>
      ∀ entry ∈ entries, entry.1.isScalar = true ∧ entry.2 < count := by
  refine (node_keeps number).bind fun found _ => ?_
  split
  · refine Upholds.get.bind fun state _ => ?_
    refine (flatten_keeps _ _ below_nil).bind fun _ _ => ?_
    refine (entriesOf_keeps number).bind fun entries parts => ?_
    refine Upholds.foldlM (fun entry member written below => ?_) (by simp)
    obtain ⟨-, inside⟩ := below_entryParts.mp parts entry member
    refine (construct_keeps _).bind fun _ _ => ?_
    refine (cell?_keeps _).bind fun cell fits => ?_
    split
    · next keyValue =>
      have plain : keyValue.isScalar = true := fits _ rfl
      exact (construct_keeps _).bind fun _ _ =>
        .pure (Entries.forall_entry_set (Value.isScalar · = true) (· < count) below ⟨plain, inside⟩)
    · exact (node_keeps _).bind fun key _ => refuse_keeps _ _ _
  · exact refuse_keeps _ _ _

theorem orderedEntry_keeps (activity : Activity) (owner : Mark) (number : Nat) :
    Keeps count (orderedEntry activity owner number) fun _ => True := by
  refine (node_keeps number).bind fun item _ => ?_
  split
  · exact (construct_keeps _).bind fun _ _ => (construct_keeps _).bind fun _ _ =>
      addCell_keeps _
  · exact refuse_keeps _ _ _
  · exact refuse_keeps _ _ _

theorem fill_keeps (number : Nat) : Keeps count (fill number) fun _ => True := by
  refine (node_keeps number).bind fun found _ => ?_
  have ordered (activity : Activity) (items : List Nat) :
      Keeps count (do setCell number (.list (← items.mapM (orderedEntry activity found.start))))
        fun _ => True :=
    (Upholds.mapM fun item _ => orderedEntry_keeps activity found.start item).bind fun _ _ =>
      setCell_keeps trivial
  dsimp only
  cases found.tag with
  | sequence =>
    cases found.content with
    | sequence items =>
      exact (Upholds.forM fun item _ => construct_keeps item).bind fun _ _ => setCell_keeps trivial
    | scalar | mapping => exact refuse_keeps _ _ _
  | orderedMap | pairs =>
    cases found.content with
    | sequence items => exact ordered _ items
    | scalar | mapping => exact refuse_keeps _ _ _
  | set =>
    refine (mappingEntries_keeps number).bind fun entries below => setCell_keeps ?_
    exact List.forall_mem_map.mpr fun entry member => (below entry member).1
  | _ => exact (mappingEntries_keeps number).bind fun entries below => setCell_keeps below

theorem fillFrom_keeps (steps position : Nat) :
    Keeps count (fillFrom steps position) fun _ => True := by
  induction steps generalizing position with
  | zero => exact .throw trivial
  | succ steps ih =>
    refine Upholds.get.bind fun state _ => ?_
    split
    · exact (fill_keeps _).bind fun _ _ => ih _
    · exact .pure trivial

theorem document_keeps (root : Nat) : Keeps count (document root) fun _ => True :=
  (construct_keeps root).bind fun _ _ => Upholds.get.bind fun _ _ => fillFrom_keeps _ _

end Construct

def Fitting (count : Nat) (graph : Graph) : Prop :=
  ∀ (number : Nat) (cell : Cell), graph[number]? = some cell → cell.Fits count number

theorem NodeTable.graph_fitting {table : NodeTable} {graph : Graph}
    (below : NodesBelow table.nodes.size table.nodes) (built : table.graph = .ok graph) :
    Fitting table.nodes.size graph := by
  obtain ⟨⟨_, final⟩, run, cells⟩ := bind_ok built
  cases cells
  have unfilled (number : Nat) (cell : Cell)
      (found : (Array.replicate table.nodes.size none)[number]? = some (some cell)) :
      cell.Fits table.nodes.size number := by
    rw [Array.getElem?_replicate] at found
    split at found <;> cases found
  have start : Construction.Sound table.nodes.size
      { nodes := table.nodes
        cells := Array.replicate table.nodes.size none
        rounds := Construct.flattenRounds table.nodes } :=
    ⟨below, by simp, unfilled⟩
  have ends := Construct.document_keeps table.root _ start
  rw [run] at ends
  have sound := ends.result.1
  intro number cell found
  obtain ⟨filled, here, rfl⟩ := Option.map_eq_some_iff.mp (Array.getElem?_map ▸ found)
  cases filled with
  | none => rfl
  | some cell => exact sound.cells number cell here

theorem load_fitting {chars : List Char} {graph : Graph} {root : Nat}
    (loaded : load chars = .ok (graph, root)) : ∃ count, Fitting count graph := by
  unfold load at loaded
  split at loaded
  · cases loaded
  obtain ⟨table, composed, rest⟩ := bind_ok loaded
  cases table with
  | none =>
    cases rest
    refine ⟨0, fun number cell found => ?_⟩
    cases number with
    | zero =>
      cases found
      rfl
    | succ number => cases found
  | some table =>
    obtain ⟨built, fromTable, here⟩ := bind_ok rest
    cases here
    exact ⟨_, table.graph_fitting (NodeTable.numbers_of_ofEvents composed).1 fromTable⟩

end Yaml

end FormCompiler
