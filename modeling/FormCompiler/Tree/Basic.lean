import FormCompiler.Json.Export
import FormCompiler.Registry.Definition

set_option autoImplicit false

namespace FormCompiler

structure NodeIdentity where
  type : String
  name : Option String
  key : Value
deriving Repr, Inhabited

inductive Tree where
  | node (identity : NodeIdentity) (backend : Backend) (props : Props) (layout : Option Bag)
      (children : List Tree)
  | failure (identity : NodeIdentity) (errors : List String) (props : Props)
deriving Repr, Inhabited

namespace Tree

def identity : Tree → NodeIdentity
  | node identity _ _ _ _ => identity
  | failure identity _ _ => identity

def isFailure : Tree → Bool
  | node .. => false
  | failure .. => true

def props : Tree → Props
  | node _ _ props _ _ => props
  | failure _ _ props => props

def children : Tree → List Tree
  | node _ _ _ _ children => children
  | failure .. => []

/-- The tree at a position, which names a child by its index at each level. -/
def at? (tree : Tree) : List Nat → Option Tree
  | [] => some tree
  | index :: rest => do
    let child ← tree.children[index]?
    child.at? rest

def failureBackend : String := "ErrorComponent"

mutual

def preorder : Tree → List Tree
  | .node identity backend props layout children =>
    .node identity backend props layout children :: preorderAll children
  | .failure identity errors props => [.failure identity errors props]
termination_by structural tree => tree

def preorderAll : List Tree → List Tree
  | [] => []
  | tree :: rest => preorder tree ++ preorderAll rest
termination_by structural trees => trees

end

mutual

def toValue : Tree → Value
  | .node identity backend props layout children =>
    .ofBag [
      ("type", .text identity.type),
      ("name", .ofText? identity.name),
      ("key", identity.key),
      ("backend_ref", .text backend.name),
      ("props", .map props),
      ("layout", match layout with | some layout => .ofBag layout | none => .null),
      ("children", .list (toValues children))]
  | .failure identity errors props =>
    .ofBag [
      ("type", .text identity.type),
      ("name", .ofText? identity.name),
      ("key", identity.key),
      ("backend_ref", .text failureBackend),
      ("title", .text ("Error in " ++ identity.type ++ ":")),
      ("errors", .list (errors.map .text)),
      ("props", .map props)]
termination_by structural tree => tree

def toValues : List Tree → List Value
  | [] => []
  | tree :: rest => toValue tree :: toValues rest
termination_by structural trees => trees

end

def toJson (tree : Tree) (indent : Option String := none) : Except Json.ExportFault String :=
  tree.toValue.toJson indent

end Tree

end FormCompiler
