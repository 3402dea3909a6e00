import FormCompiler.Entries
import FormCompiler.Number.Double
import FormCompiler.Calendar.Basic

set_option autoImplicit false

namespace FormCompiler

structure Handler where
  event : String
  componentType : String
  componentName : Option String
  formName : Option String
deriving Repr, DecidableEq

-- What stops the way through a value that leads back to itself when it is written as JSON: that it
-- comes back, or before that a key that has no text.
inductive Obstacle where
  | again
  | bytesKey
  | dateKey
  | dateTimeKey
deriving Repr, DecidableEq

inductive Value where
  | null
  | bool (flag : Bool)
  | int (number : Int)
  | float (number : Double)
  | text (chars : String)
  | list (items : List Value)
  | tuple (items : List Value)
  | map (entries : List (Value × Value))
  | set (items : List Value)
  | bytes (data : List UInt8)
  | date (day : Date)
  | dateTime (time : DateTime)
  | handler (target : Handler)
  -- A tuple that leads back to itself has no finite form. It is known by a number; such tuples of
  -- one document that compare as equal have the same.
  | knot (number : Nat) (obstacle : Obstacle)
deriving Repr, Inhabited

abbrev Bag := Entries String Value

abbrev Props := Entries Value Value

inductive ValueKind where
  | null
  | bool
  | number
  | text
  | list
  | mapping
  | other
deriving Repr, DecidableEq

def ValueKind.name : ValueKind → String
  | .null => "null"
  | .bool => "bool"
  | .number => "number"
  | .text => "string"
  | .list => "list"
  | .mapping => "mapping"
  | .other => "other"

def Bag.toProps (bag : Bag) : Props :=
  bag.map fun entry => (.text entry.1, entry.2)

namespace Value

instance : Coe String Value := ⟨text⟩

def ofBag (bag : Bag) : Value :=
  .map bag.toProps

def ofText? : Option String → Value
  | some chars => .text chars
  | none => .null

def ofInt? : Option Int → Value
  | some n => .int n
  | none => .null

def kind : Value → ValueKind
  | .null => .null
  | .bool _ => .bool
  | .int _ | .float _ => .number
  | .text _ => .text
  | .list _ | .tuple _ | .knot .. => .list
  | .map _ => .mapping
  | .set _ | .bytes _ | .date _ | .dateTime _ | .handler _ => .other

def typeName : Value → String
  | .null => "NoneType"
  | .bool _ => "bool"
  | .int _ => "int"
  | .float _ => "float"
  | .text _ => "str"
  | .list _ => "list"
  | .tuple _ | .knot .. => "tuple"
  | .map _ => "dict"
  | .set _ => "set"
  | .bytes _ => "bytes"
  | .date _ => "date"
  | .dateTime _ => "datetime"
  | .handler _ => "EventSubscription"

def fullTypeName : Value → String
  | .date _ => "datetime.date"
  | .dateTime _ => "datetime.datetime"
  | value => value.typeName

def text? : Value → Option String
  | .text chars => some chars
  | _ => none

def isNull : Value → Bool
  | .null => true
  | _ => false

def isCollection : Value → Bool
  | .list _ | .tuple _ | .map _ | .knot .. => true
  | _ => false

def isText (value : Value) : Bool := value.kind == .text
def isNumber (value : Value) : Bool := value.kind == .number
def isBool (value : Value) : Bool := value.kind == .bool
def isList (value : Value) : Bool := value.kind == .list
def isMapping (value : Value) : Bool := value.kind == .mapping

def truthy : Value → Bool
  | .null => false
  | .bool flag => flag
  | .int n => n != 0
  | .float x => !x.isZero
  | .text chars => !chars.isEmpty
  | .list items | .tuple items | .set items => !items.isEmpty
  | .map entries => !entries.isEmpty
  | .bytes data => !data.isEmpty
  | .date _ | .dateTime _ | .handler _ | .knot .. => true

end Value

end FormCompiler
