import FormCompiler.Form.Origin
import FormCompiler.Tree.Build

set_option autoImplicit false

namespace FormCompiler

namespace Properties

def sourceKey? (definition : Definition) (bag : Bag) (target : String) : Option String :=
  match definition.mapping with
  | none => if Entries.contains bag target then some target else none
  | some table =>
    (table.reverse.find? fun entry =>
      entry.2 == target && Entries.contains bag entry.1).map Prod.fst

end Properties

namespace Origin

def ofProps (definition : Definition) (component : Component) (cells : Entries String Nat)
    (props : Props) : Entries String Nat :=
  props.filterMap fun (key, value) => do
    let name ← key.text?
    if !value.isCollection then none
    let source ← Properties.sourceKey? definition component.properties name
    return (name, ← Entries.get? cells source)

def ofLayout (cells : Entries String Nat) (layout : Bag) : Entries String Nat :=
  layout.filterMap fun (directive, value) => do
    if !value.isCollection then none
    return (directive, ← Entries.get? cells (← Layout.copiedFrom? directive))

mutual

def ofTree (registry : Registry) : Origin → Component → Tree → Origin
  | ⟨properties, layout, origins⟩, component, tree =>
    match tree, registry.get? component.type with
    | .node _ _ props directives children, some definition =>
      { properties := ofProps definition component properties props
        layout := ofLayout layout (directives.getD [])
        children := ofTrees registry origins component.children children }
    | _, _ => {}
termination_by structural origin => origin

def ofTrees (registry : Registry) : List Origin → List Component → List Tree → List Origin
  | origin :: origins, component :: components, tree :: trees =>
    ofTree registry origin component tree :: ofTrees registry origins components trees
  | _, _, _ => []
termination_by structural origins => origins

end

mutual

def refreshTree (graph : Graph) : Origin → Tree → Tree
  | ⟨properties, layout, origins⟩, .node identity backend props directives children =>
    let current (cell? : Option Nat) (value : Value) : Value :=
      (cell?.map graph.value).getD value
    .node identity backend
      (props.map fun (key, value) =>
        (key, current (key.text?.bind (Entries.get? properties)) value))
      (directives.map fun bag => bag.map fun (key, value) =>
        (key, current (Entries.get? layout key) value))
      (refreshTrees graph origins children)
  | _, failure => failure
termination_by structural origin => origin

def refreshTrees (graph : Graph) : List Origin → List Tree → List Tree
  | origin :: origins, tree :: trees =>
    refreshTree graph origin tree :: refreshTrees graph origins trees
  | _, trees => trees
termination_by structural origins => origins

end

end Origin

/-- A tree whose lists can still grow. -/
structure LiveTree where
  root : Tree
  graph : Graph
  origin : Origin

namespace LiveTree

def ofForm (registry : Registry) (live : LiveForm) (root : Tree) : LiveTree where
  root
  graph := live.graph
  origin := live.origin.ofTree registry live.form.container root

def addItem (live : LiveTree) (list : Nat) (item : Value) : LiveTree :=
  let graph := live.graph.addItem list item
  { live with root := live.origin.refreshTree graph live.root, graph }

def cell? (live : LiveTree) (path : List Nat) (name : String) : Option Nat := do
  Entries.get? (← live.origin.at? path).properties name

end LiveTree

end FormCompiler
