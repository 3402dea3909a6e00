import FormCompiler.Form.Parse

set_option autoImplicit false

namespace FormCompiler

/-- The cells of the properties and the layout of a component, and those of its children. -/
structure Origin where
  properties : Entries String Nat := []
  layout : Entries String Nat := []
  children : List Origin := []
deriving Repr, Inhabited

namespace Origin

def cells (graph : Graph) (index : Nat) : Entries String Nat :=
  Entries.ofList ((graph.entries index).map fun entry => (entry.1.render, entry.2))

def cellsUnder (graph : Graph) (fields : Entries String Nat) (key : String) : Entries String Nat :=
  match Entries.get? fields key with
  | some index => cells graph index
  | none => []

def ofList (graph : Graph) : Nat → Nat → List Origin
  | 0, _ => []
  | levels + 1, index =>
    (graph.items index).filterMap fun item =>
      match graph[item]? with
      | some (Cell.map _) =>
        let fields := cells graph item
        some {
          properties := cellsUnder graph fields "properties"
          layout := cellsUnder graph fields "layout_properties"
          children :=
            match Entries.get? fields "components" with
            | some list => ofList graph levels list
            | none => [] }
      | _ => none

def ofDocument (document : Document) : Origin :=
  let graph := document.graph
  let top := cells graph document.root
  let fields := cellsUnder graph top "container"
  let list? := (Entries.get? fields "components").or (Entries.get? top "components")
  { properties := cellsUnder graph fields "properties"
    layout := cellsUnder graph fields "layout_properties"
    children :=
      match list? with
      | some list => ofList graph (graph.size + 1) list
      | none => [] }

def at? (origin : Origin) : List Nat → Option Origin
  | [] => some origin
  | index :: rest => do
    let child ← origin.children[index]?
    child.at? rest

def valuesAt (graph : Graph) (cells : Entries String Nat) : Bag :=
  cells.map fun (key, index) => (key, graph.value index)

mutual

def refresh (graph : Graph) : Origin → Component → Component
  | ⟨properties, layout, origins⟩, component =>
    { component with
      properties := valuesAt graph properties
      layout := valuesAt graph layout
      children := refreshAll graph origins component.children }
termination_by structural origin => origin

def refreshAll (graph : Graph) : List Origin → List Component → List Component
  | origin :: origins, component :: components =>
    refresh graph origin component :: refreshAll graph origins components
  | _, components => components
termination_by structural origins => origins

end

end Origin

structure LiveForm where
  form : Form
  graph : Graph
  origin : Origin

namespace LiveForm

def ofParsed (parsed : ParsedForm) : LiveForm where
  form := parsed.form
  graph := parsed.document.graph
  origin := .ofDocument parsed.document

def addItem (live : LiveForm) (list : Nat) (item : Value) : LiveForm :=
  let graph := live.graph.addItem list item
  { live with
    form := { live.form with container := live.origin.refresh graph live.form.container }
    graph }

end LiveForm

end FormCompiler
