import FormCompiler.Compiler
import FormCompiler.Event.Bridge
import FormCompiler.Tree.Origin

set_option autoImplicit false

namespace FormCompiler

namespace Tree

def withProps (tree : Tree) (props : Props) : Tree :=
  match tree with
  | .node identity backend _ layout children => .node identity backend props layout children
  | .failure identity errors _ => .failure identity errors props

def withChildren (tree : Tree) (children : List Tree) : Tree :=
  match tree with
  | .node identity backend props layout _ => .node identity backend props layout children
  | .failure identity errors props => .failure identity errors props

def modifyAt (tree : Tree) (change : Tree → Tree) : List Nat → Tree
  | [] => change tree
  | index :: rest =>
    match tree.children[index]? with
    | some child => tree.withChildren (tree.children.set index (child.modifyAt change rest))
    | none => tree

end Tree

inductive SessionFault where
  | noForm
  | noNode
  | noProperty
  | notHandler
  | notList (typeName : String)
deriving Repr, DecidableEq

def SessionFault.message : SessionFault → String
  | .noForm => "no template"
  | .noNode => "no node"
  | .noProperty => "no property"
  | .notHandler => "not a handler"
  | .notList typeName => "'" ++ typeName ++ "' object has no attribute 'append'"

structure Session where
  compiler : Compiler := {}
  bridge : Bridge := {}
  form : Option LiveForm := none
  tree : Option LiveTree := none
  current : Bool := false

namespace Session

def parse (session : Session) (options : Option FormOptions) (text : String) :
    Logged (Session × Except DocumentFailure ParsedForm) := do
  match ← session.compiler.parseForm options text with
  | .ok parsed =>
    return ({ session with form := some (.ofParsed parsed), current := false }, .ok parsed)
  | .error failure => return (session, .error failure)

def build (session : Session) (name : Option String) :
    Logged (Session × Except SessionFault TreeBuilder.FormOutcome) := do
  match session.form with
  | none => return (session, .error .noForm)
  | some live =>
    let outcome ← session.compiler.buildForm live.form name
    let tree := LiveTree.ofForm session.compiler.registry live outcome.root
    return ({ session with tree := some tree, current := true }, .ok outcome)

def propertyIn (tree : LiveTree) (path : List Nat) (name : String) : Except SessionFault Value :=
  match tree.root.at? path with
  | none => .error .noNode
  | some node =>
    match Entries.get? node.props (.text name) with
    | none => .error .noProperty
    | some value => .ok value

def property (session : Session) (path : List Nat) (name : String) :
    Except SessionFault Value :=
  match session.tree with
  | none => .error .noNode
  | some tree => propertyIn tree path name

def handler (session : Session) (path : List Nat) (name : String) :
    Except SessionFault Handler := do
  match ← session.property path name with
  | .handler target => .ok target
  | _ => .error .notHandler

def dispatch (session : Session) (call : EventCall) :
    Logged (Session × Except DispatchFailure EventReply) := do
  let (bridge, result) := session.bridge.dispatch call
  Logged.writeAll (Bridge.dispatchEntries call)
  return ({ session with bridge }, result)

def notify (session : Session) (call : EventCall) : Logged (Session × Option EventReply) := do
  let (bridge, reply) := session.bridge.notify call
  Logged.writeAll (session.bridge.notifyEntries call)
  return ({ session with bridge }, reply)

def fire (session : Session) (path : List Nat) (name : String) (data : Value) :
    Logged (Session × Except SessionFault (Option EventReply)) := do
  match session.handler path name with
  | .error fault => return (session, .error fault)
  | .ok handler =>
    let (session, reply) ← session.notify (.ofHandler handler data)
    return (session, .ok reply)

def withSink (session : Session) (sink : Option Sink) : Session :=
  { session with bridge := { session.bridge with sink } }

def clear (session : Session) : Session :=
  { session with bridge := session.bridge.clear }

def appendOwn (tree : LiveTree) (path : List Nat) (name : String) (items : Value) : LiveTree :=
  let change (node : Tree) : Tree := node.withProps (Entries.set node.props (.text name) items)
  { tree with root := tree.root.modifyAt change path }

def append (session : Session) (path : List Nat) (name : String) (item : Value) :
    Session × Except SessionFault Value :=
  match session.tree, session.property path name with
  | some tree, .ok (.list items) =>
    let items := Value.list (items ++ [item])
    match tree.cell? path name with
    | none => ({ session with tree := some (appendOwn tree path name items) }, .ok items)
    | some cell =>
      let form :=
        if session.current then session.form.map fun live => live.addItem cell item
        else session.form
      ({ session with tree := some (tree.addItem cell item), form }, .ok items)
  | _, .ok other => (session, .error (.notList other.fullTypeName))
  | _, .error fault => (session, .error fault)

end Session

end FormCompiler
