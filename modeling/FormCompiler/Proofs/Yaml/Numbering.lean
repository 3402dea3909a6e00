import FormCompiler.Yaml.Node
import Mathlib.Data.List.Basic

set_option autoImplicit false

namespace FormCompiler.Yaml

theorem bind_ok {ε α β : Type} {attempt : Except ε α} {next : α → Except ε β} {result : β}
    (run : attempt >>= next = .ok result) :
    ∃ found, attempt = .ok found ∧ next found = .ok result := by
  cases attempt with
  | error failure => cases run
  | ok found => exact ⟨found, rfl, run⟩

def Below (count : Nat) (numbers : List Nat) : Prop := ∀ number ∈ numbers, number < count

section Below

variable {count more : Nat} {numbers others : List Nat}

theorem Below.mono (below : Below count numbers) (le : count ≤ more) : Below more numbers :=
  fun number member => Nat.lt_of_lt_of_le (below number member) le

@[simp] theorem below_nil : Below count [] := by simp [Below]

@[simp] theorem below_cons {number : Nat} :
    Below count (number :: numbers) ↔ number < count ∧ Below count numbers :=
  List.forall_mem_cons

@[simp] theorem below_append :
    Below count (numbers ++ others) ↔ Below count numbers ∧ Below count others :=
  List.forall_mem_append

@[simp] theorem below_reverse : Below count numbers.reverse ↔ Below count numbers := by
  simp [Below]

end Below

def entryParts (entries : List (Nat × Nat)) : List Nat :=
  entries.flatMap fun entry => [entry.1, entry.2]

@[simp] theorem entryParts_append (entries others : List (Nat × Nat)) :
    entryParts (entries ++ others) = entryParts entries ++ entryParts others :=
  List.flatMap_append

@[simp] theorem entryParts_cons (entry : Nat × Nat) (rest : List (Nat × Nat)) :
    entryParts (entry :: rest) = entry.1 :: entry.2 :: entryParts rest := rfl

theorem below_entryParts {count : Nat} {entries : List (Nat × Nat)} :
    Below count (entryParts entries) ↔
      ∀ entry ∈ entries, entry.1 < count ∧ entry.2 < count := by
  induction entries with
  | nil => simp [entryParts]
  | cons entry rest ih => simp [ih, and_assoc]

theorem below_flatten {count : Nat} {parts : List (List (Nat × Nat))}
    (each : ∀ part ∈ parts, Below count (entryParts part)) :
    Below count (entryParts parts.flatten) := by
  refine below_entryParts.mpr fun entry member => ?_
  obtain ⟨part, isPart, inside⟩ := List.mem_flatten.mp member
  exact below_entryParts.mp (each part isPart) entry inside

def NodeContent.parts : NodeContent → List Nat
  | .scalar _ => []
  | .sequence items => items
  | .mapping entries => entryParts entries

def NodesBelow (count : Nat) (nodes : Array Node) : Prop :=
  ∀ (number : Nat) (node : Node), nodes[number]? = some node → Below count node.content.parts

theorem NodesBelow.mono {count more : Nat} {nodes : Array Node} (below : NodesBelow count nodes)
    (le : count ≤ more) : NodesBelow more nodes :=
  fun number node found => (below number node found).mono le

theorem NodesBelow.push {count : Nat} {nodes : Array Node} {node : Node}
    (below : NodesBelow count nodes) (parts : Below count node.content.parts) :
    NodesBelow count (nodes.push node) := by
  intro number other found
  rw [Array.getElem?_push] at found
  split at found
  · cases found
    exact parts
  · exact below number other found

theorem NodesBelow.modify {count changed : Nat} {nodes : Array Node} {change : Node → Node}
    (below : NodesBelow count nodes)
    (parts : ∀ node, Below count node.content.parts → Below count (change node).content.parts) :
    NodesBelow count (nodes.modify changed change) := by
  intro number node found
  rw [Array.getElem?_modify] at found
  split at found
  · obtain ⟨before, here, rfl⟩ := Option.map_eq_some_iff.mp found
    exact parts before (below number before here)
  · exact below number node found

def OpenNode.numbers : OpenNode → List Nat
  | .sequence number items => number :: items
  | .mapping number entries key => number :: key.toList ++ entryParts entries

namespace Composition

structure Numbered (composition : Composition) : Prop where
  nodes : NodesBelow composition.nodes.size composition.nodes
  anchors : ∀ anchor ∈ composition.anchors, anchor.2 < composition.nodes.size
  openNodes : ∀ openNode ∈ composition.openNodes, Below composition.nodes.size openNode.numbers
  root : Below composition.nodes.size composition.root.toList

theorem Numbered.place {composition : Composition} (numbered : composition.Numbered) {number : Nat}
    (inside : number < composition.nodes.size) : (composition.place number).Numbered := by
  obtain ⟨nodes, anchors, openNodes, root⟩ := numbered
  unfold Composition.place
  split
  · exact ⟨nodes, anchors, openNodes, by simpa using inside⟩
  all_goals
    -- Only the innermost open collection gets the number.
    next found =>
    rw [found, List.forall_mem_cons] at openNodes
    obtain ⟨innermost, others⟩ := openNodes
    refine ⟨nodes, anchors, List.forall_mem_cons.mpr ⟨?_, others⟩, root⟩
    simp_all [OpenNode.numbers, entryParts]

theorem Numbered.addNode {composition grown : Composition} (numbered : composition.Numbered)
    {anchor : Option String} {node : Node} {number : Nat}
    (parts : Below composition.nodes.size node.content.parts)
    (added : composition.addNode anchor node = .ok (grown, number)) :
    grown.Numbered ∧ number < grown.nodes.size := by
  obtain ⟨nodes, anchors, openNodes, root⟩ := numbered
  have le : composition.nodes.size ≤ (composition.nodes.push node).size := by simp
  have more : NodesBelow (composition.nodes.push node).size (composition.nodes.push node) :=
    (nodes.push parts).mono le
  have anchored : ∀ anchor ∈ composition.anchors, anchor.2 < (composition.nodes.push node).size :=
    fun anchor member => Nat.lt_of_lt_of_le (anchors anchor member) le
  have stillOpen : ∀ openNode ∈ composition.openNodes,
      Below (composition.nodes.push node).size openNode.numbers :=
    fun openNode member => (openNodes openNode member).mono le
  have inside : composition.nodes.size < (composition.nodes.push node).size := by simp
  unfold Composition.addNode at added
  split at added
  · cases added
    exact ⟨⟨more, anchored, stillOpen, root.mono le⟩, inside⟩
  · split at added
    · cases added
    · cases added
      refine ⟨⟨more, ?_, stillOpen, root.mono le⟩, inside⟩
      exact Entries.forall_set (· < (composition.nodes.push node).size) anchored inside

theorem Numbered.fill {composition : Composition} (numbered : composition.Numbered) {number : Nat}
    {content : NodeContent} {rest : List OpenNode}
    (parts : Below composition.nodes.size content.parts) (left : rest ⊆ composition.openNodes) :
    Numbered { composition with
      nodes := composition.nodes.modify number fun node => { node with content }
      openNodes := rest } := by
  obtain ⟨nodes, anchors, openNodes, root⟩ := numbered
  have filled : NodesBelow composition.nodes.size
      (composition.nodes.modify number fun node => { node with content }) :=
    nodes.modify fun _ _ => parts
  constructor
  · simpa using filled
  · simpa using anchors
  · simpa using fun openNode member => openNodes openNode (left member)
  · simpa using root

theorem Numbered.close {composition : Composition} (numbered : composition.Numbered) :
    composition.close.Numbered := by
  unfold Composition.close
  split
  · exact numbered
  · next openNode rest found =>
    have innermost := numbered.openNodes openNode (by simp [found])
    have left : rest ⊆ composition.openNodes := by simp [found]
    cases openNode with
    | sequence number items =>
      obtain ⟨inside, parts⟩ := below_cons.mp innermost
      have content : Below composition.nodes.size (NodeContent.sequence items.reverse).parts :=
        below_reverse.mpr parts
      exact (numbered.fill content left).place (by simpa using inside)
    | mapping number entries key =>
      obtain ⟨inside, parts⟩ := below_cons.mp innermost
      have content : Below composition.nodes.size (NodeContent.mapping entries.reverse).parts :=
        below_entryParts.mpr fun entry member =>
          below_entryParts.mp (below_append.mp parts).2 entry (List.mem_reverse.mp member)
      exact (numbered.fill content left).place (by simpa using inside)

theorem Numbered.opened {composition : Composition} (numbered : composition.Numbered)
    {openNode : OpenNode} (numbers : Below composition.nodes.size openNode.numbers) :
    Numbered { composition with openNodes := openNode :: composition.openNodes } :=
  ⟨numbered.nodes, numbered.anchors,
    List.forall_mem_cons.mpr ⟨numbers, numbered.openNodes⟩, numbered.root⟩

theorem Numbered.step {composition next : Composition} (numbered : composition.Numbered)
    {event : Event} (stepped : composition.step event = .ok next) : next.Numbered := by
  obtain ⟨body, start⟩ := event
  unfold Composition.step at stepped
  cases body with
  | streamStart =>
    cases stepped
    exact numbered
  | streamEnd =>
    cases stepped
    exact ⟨numbered.nodes, numbered.anchors, numbered.openNodes, numbered.root⟩
  | documentStart =>
    dsimp only at stepped
    split at stepped
    · cases stepped
    · cases stepped
      exact numbered
  | documentEnd =>
    cases stepped
    exact ⟨numbered.nodes, by simp, numbered.openNodes, numbered.root⟩
  | «alias» name =>
    dsimp only at stepped
    split at stepped
    · next number found =>
      cases stepped
      exact numbered.place (numbered.anchors _ (Entries.mem_of_get? found))
    · cases stepped
  | scalar anchor tag resolvable chars =>
    obtain ⟨⟨grown, number⟩, added, here⟩ := bind_ok stepped
    cases here
    obtain ⟨still, inside⟩ := numbered.addNode below_nil added
    exact still.place inside
  -- A new collection has no parts yet; it gets them when it is closed.
  | sequenceStart anchor tag =>
    obtain ⟨⟨grown, number⟩, added, here⟩ := bind_ok stepped
    cases here
    obtain ⟨still, inside⟩ := numbered.addNode below_nil added
    exact still.opened (by simpa [OpenNode.numbers] using inside)
  | mappingStart anchor tag =>
    obtain ⟨⟨grown, number⟩, added, here⟩ := bind_ok stepped
    cases here
    obtain ⟨still, inside⟩ := numbered.addNode below_nil added
    exact still.opened (by simpa [OpenNode.numbers, entryParts] using inside)
  | sequenceEnd | mappingEnd =>
    cases stepped
    exact numbered.close

theorem Numbered.foldlM {composition final : Composition} (numbered : composition.Numbered)
    {events : List Event} (run : events.foldlM Composition.step composition = .ok final) :
    final.Numbered := by
  induction events generalizing composition with
  | nil =>
    cases run
    exact numbered
  | cons event rest ih =>
    obtain ⟨next, stepped, later⟩ := bind_ok run
    exact ih (numbered.step stepped) later

end Composition

theorem NodeTable.numbers_of_ofEvents {events : Stream Event} {table : NodeTable}
    (composed : NodeTable.ofEvents events = .ok (some table)) :
    NodesBelow table.nodes.size table.nodes ∧ table.root < table.nodes.size := by
  obtain ⟨final, run, ends⟩ := bind_ok composed
  have numbered : final.Numbered := Composition.Numbered.foldlM (by
    constructor <;> simp [NodesBelow]) run
  split at ends
  · simp only [pure, Except.pure, Except.ok.injEq, Option.map_eq_some_iff] at ends
    obtain ⟨root, found, rfl⟩ := ends
    exact ⟨numbered.nodes, numbered.root root (by simp [found])⟩
  · cases ends

end FormCompiler.Yaml
