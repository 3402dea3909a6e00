import FormCompiler.Yaml.Event
import FormCompiler.Yaml.Tag

set_option autoImplicit false

namespace FormCompiler.Yaml

inductive NodeContent where
  | scalar (chars : String)
  | sequence (items : List Nat)
  | mapping (entries : List (Nat × Nat))
deriving Repr

structure Node where
  tag : Tag
  content : NodeContent
  start : Mark
deriving Repr

def NodeContent.shape : NodeContent → NodeShape
  | .scalar _ => .scalar
  | .sequence _ => .sequence
  | .mapping _ => .mapping

/-- The node of a document's whole content, and all nodes by number. -/
structure NodeTable where
  nodes : Array Node
  root : Nat

inductive OpenNode where
  | sequence (number : Nat) (items : List Nat)
  | mapping (number : Nat) (entries : List (Nat × Nat)) (key : Option Nat)

structure Composition where
  nodes : Array Node := #[]
  anchors : Entries String Nat := []
  openNodes : List OpenNode := []
  root : Option Nat := none
  ended : Bool := false
  finished : Bool := false

namespace Composition

def refuse {α : Type} (context : Option (Activity × Mark)) (problem : Problem) (place : Mark) :
    Attempt α :=
  .error (.malformed .nodes (context.map Prod.fst) (context.map Prod.snd) problem place)

def startOf (composition : Composition) (number : Nat) : Mark :=
  match composition.nodes[number]? with
  | some node => node.start
  | none => ⟨0, 0, 0⟩

def place (composition : Composition) (number : Nat) : Composition :=
  match composition.openNodes with
  | [] => { composition with root := some number }
  | .sequence owner items :: rest =>
    { composition with openNodes := .sequence owner (number :: items) :: rest }
  | .mapping owner entries none :: rest =>
    { composition with openNodes := .mapping owner entries (some number) :: rest }
  | .mapping owner entries (some key) :: rest =>
    { composition with openNodes := .mapping owner ((key, number) :: entries) none :: rest }

def addNode (composition : Composition) (anchor : Option String) (node : Node) :
    Attempt (Composition × Nat) :=
  let number := composition.nodes.size
  match anchor with
  | none => .ok ({ composition with nodes := composition.nodes.push node }, number)
  | some name =>
    match Entries.get? composition.anchors name with
    | some first =>
      refuse (some (.duplicateAnchor name, composition.startOf first)) .secondOccurrence node.start
    | none =>
      let anchors := Entries.set composition.anchors name number
      .ok ({ composition with nodes := composition.nodes.push node, anchors }, number)

def close (composition : Composition) : Composition :=
  match composition.openNodes with
  | [] => composition
  | openNode :: rest =>
    let (number, content) :=
      match openNode with
      | .sequence number items => (number, NodeContent.sequence items.reverse)
      | .mapping number entries _ => (number, NodeContent.mapping entries.reverse)
    let nodes := composition.nodes.modify number fun node => { node with content }
    { composition with nodes, openNodes := rest }.place number

def step (composition : Composition) (event : Event) : Attempt Composition := do
  match event.body with
  | .streamStart => return composition
  | .streamEnd => return { composition with finished := true }
  | .documentStart =>
    match composition.ended, composition.root with
    | true, some root =>
      refuse (some (.singleDocument, composition.startOf root)) .anotherDocument event.start
    | _, _ => return composition
  | .documentEnd => return { composition with ended := true, anchors := [] }
  | .alias name =>
    match Entries.get? composition.anchors name with
    | some number => return composition.place number
    | none => refuse none (.undefinedAlias name) event.start
  | .scalar anchor tag resolvable chars =>
    let tag :=
      match tag with
      | some name => Tag.ofName name
      | none => if resolvable then Tag.ofChars chars.toList else .text
    let (composition, number) ← composition.addNode anchor ⟨tag, .scalar chars, event.start⟩
    return composition.place number
  | .sequenceStart anchor tag =>
    let tag := (tag.map Tag.ofName).getD .sequence
    let (composition, number) ← composition.addNode anchor ⟨tag, .sequence [], event.start⟩
    return { composition with openNodes := .sequence number [] :: composition.openNodes }
  | .mappingStart anchor tag =>
    let tag := (tag.map Tag.ofName).getD .mapping
    let (composition, number) ← composition.addNode anchor ⟨tag, .mapping [], event.start⟩
    return { composition with openNodes := .mapping number [] none :: composition.openNodes }
  | .sequenceEnd | .mappingEnd => return composition.close

end Composition

def NodeTable.ofEvents (events : Stream Event) : Attempt (Option NodeTable) := do
  let composition ← events.items.foldlM Composition.step {}
  if composition.finished then
    return composition.root.map fun root => { nodes := composition.nodes, root }
  else throw events.stop

end FormCompiler.Yaml
