import FormCompiler.Value.Render

set_option autoImplicit false

namespace FormCompiler

namespace Value

def asText (value : Value) (default : String) : String :=
  match value with
  | .text chars => if chars.isEmpty then default else chars
  | .bool _ | .int _ | .float _ | .set _ | .bytes _ | .date _ | .dateTime _ | .handler _ =>
    value.render
  | .null | .list _ | .tuple _ | .map _ | .knot .. => default

def asText? (value : Value) : Option String :=
  let found := value.asText ""
  if found.isEmpty then none else some found

def asItems : Value → List Value
  | .list items | .tuple items => items
  | _ => []

/-- The entries of a mapping under the texts of their keys; of equal texts the last value counts. -/
def asBag : Value → Bag
  | .map entries => Entries.ofList (entries.map fun entry => (entry.1.render, entry.2))
  | _ => []

def field (value : Value) (key : String) : Value :=
  match value with
  | .map entries => ((entries.find? fun entry => entry.1.isText && entry.1.render == key).map
      Prod.snd).getD .null
  | _ => .null

end Value

namespace Bag

def value (bag : Bag) (key : String) : Value :=
  (Entries.get? bag key).getD .null

def isPresent (bag : Bag) (key : String) : Bool :=
  !(value bag key).isNull

end Bag

def Double.compactText (x : Double) : String :=
  match x.toInt? with
  | some n => toString n
  | none => x.text

namespace Value

def numberText? : Value → Option String
  | .int n => some (toString n)
  | .float x => some x.compactText
  | _ => none

end Value

end FormCompiler
