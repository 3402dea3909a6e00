import FormCompiler.TypeName
import FormCompiler.Value.Access

set_option autoImplicit false

namespace FormCompiler

inductive Backend where
  | named (name : String)
  | numbered (number : Int)
  | classNamed (name : String)
deriving Repr, DecidableEq

namespace Backend

def name : Backend → String
  | .named name => name
  | .numbered number => toString number
  | .classNamed name => name

def text : Backend → String
  | .classNamed name => "<class '__main__." ++ name ++ "'>"
  | backend => backend.name

end Backend

abbrev Transform := Value → Except String Value

abbrev PropertyCheck := Bag → Except String (List String)

structure Definition where
  backend : Backend
  defaults : Props := []
  mapping : Option (Entries String String) := none
  transforms : Option (Entries String Transform) := none
  layoutSupported : Bool := false
  check : Option PropertyCheck := none
  category : TypeCategory := .builtin

namespace Definition

def placeholderBackend : Backend := .named "UnresolvedComponent"

def isPlaceholder (definition : Definition) : Bool :=
  definition.backend == placeholderBackend

/-- Stands for a component of a dependency or a package that is not registered. -/
def placeholder (name source : String) (category : TypeCategory) : Definition :=
  let label := "Custom Component: " ++ name
  { backend := placeholderBackend
    defaults := [
      ("class_name", .text "anvil-custom-component"),
      ("component_name", .text name),
      ("source", .text source),
      ("label", .text (if source.isEmpty then label else label ++ " (" ++ source ++ ")"))]
    layoutSupported := true
    category }

end Definition

end FormCompiler
