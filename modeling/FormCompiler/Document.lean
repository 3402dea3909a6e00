import FormCompiler.Diagnostic
import FormCompiler.Graph.Guard
import FormCompiler.Value.Access
import FormCompiler.Yaml.Load

set_option autoImplicit false

namespace FormCompiler

inductive ErrorOrigin where
  | unreadable
  | form (layer : Yaml.Layer)
  | limits
  | fault (kind : FaultKind)
deriving Repr, DecidableEq

/-- A document that is invalid in form or in structure. -/
structure DocumentError where
  file : String
  message : String
  line : Option Int := none
  column : Option Int := none
  origin : Option ErrorOrigin := none
  diagnostics : List Diagnostic := []
deriving Repr, DecidableEq

namespace DocumentError

def text (error : DocumentError) : String :=
  error.file ++ ": " ++ error.message

def diagnostic (error : DocumentError) : Diagnostic :=
  { message := error.message, file := some error.file, line := error.line, column := error.column }

def relocated (error : DocumentError) (file : String) : DocumentError :=
  { error with file }

end DocumentError

inductive DocumentFailure where
  | invalid (error : DocumentError)
  | fault (kind : FaultKind) (message : String)
deriving Repr, DecidableEq

def DocumentFailure.text : DocumentFailure → String
  | .invalid error => error.text
  | .fault _ message => message

/-- A mapping whose values may share their parts. -/
structure Document where
  graph : Graph
  root : Nat
deriving Repr, Inhabited

namespace Document

def value (document : Document) : Value :=
  document.graph.value document.root

def ofYamlFailure (file : String) (chars : List Char) (failure : Yaml.Failure) : DocumentFailure :=
  let invalid (origin : ErrorOrigin) : DocumentFailure :=
    let place := failure.place?
    .invalid
      { file
        message := "Invalid YAML: " ++ failure.text chars.toArray
        line := place.map fun mark => (mark.line : Int) + 1
        column := place.map fun mark => (mark.column : Int) + 1
        origin := some origin }
  match failure with
  | .content fault => .fault fault.kind fault.message
  | .unreadable .. => invalid .unreadable
  | .malformed layer .. => invalid (.form layer)
  | .exhausted => invalid (.form .tokens)

def rootTypeName : Option Cell → String
  | some (.scalar value) => value.typeName
  | some (.list _) => "list"
  | some (.map _) => "dict"
  | some (.tuple _) => "tuple"
  | some (.set _) => "set"
  | none => "NoneType"

def ofGraph (graph : Graph) (root : Nat) (file : String) (maxDepth : Int) :
    Except DocumentError Document :=
  match graph[root]? with
  | some (.map _) =>
    match graph.checkLimits root { depth := maxDepth } 0 with
    | .ok () => .ok ⟨graph, root⟩
    | .error fault => .error { file, message := fault.message, origin := some .limits }
  | other =>
    .error { file, message := "Expected a mapping at the top level, got " ++ rootTypeName other }

/-- The document that a text holds. -/
def read (text file : String) (maxDepth : Int) : Except DocumentFailure Document :=
  let chars := text.toList
  match Yaml.load chars with
  | .error failure => .error (ofYamlFailure file chars failure)
  | .ok (graph, root) => (ofGraph graph root file maxDepth).mapError .invalid

def load (text file : String) (maxDepth : Int) : Except DocumentFailure Value :=
  (read text file maxDepth).map value

end Document

end FormCompiler
