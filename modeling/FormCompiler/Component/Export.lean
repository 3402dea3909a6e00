import FormCompiler.Calendar.Iso
import FormCompiler.Component
import FormCompiler.Number.Shortest
import FormCompiler.Text.Utf8
import FormCompiler.Value.Render

set_option autoImplicit false

namespace FormCompiler

/-- Why a value has no plain form. -/
inductive PlainFault where
  | undecodable (fault : Text.Utf8Fault)
  | handler
  | circular
deriving Repr, DecidableEq

def PlainFault.message : PlainFault → String
  | .undecodable fault =>
    s!"'utf-8' codec can't decode {fault.placeText}: invalid utf-8"
  | .handler => "Unable to serialize unknown type: <class 'events.bridge.QueuedEventBridge'>"
  | .circular => "Circular reference detected (id repeated)"

namespace Value

def bytesText (data : List UInt8) : Except PlainFault String :=
  match Text.decodeUtf8 data with
  | .ok chars => .ok (String.ofList chars)
  | .error fault => .error (.undecodable fault)

mutual

-- The text of a key. The parts of a tuple are joined by commas, and a number that is none or has no
-- bound goes by the word for null.
def plainKey : Value → Except PlainFault String
  | .bool flag => .ok (if flag then "true" else "false")
  | .float (.finite negative mantissa exponent) =>
    .ok (Double.finite negative mantissa exponent).text
  | .float _ => .ok Value.null.render
  | .bytes data => bytesText data
  | .dateTime time => .ok time.stamp
  | .tuple parts => (plainKeys parts).map (",".intercalate ·)
  | key => .ok key.render
termination_by structural key => key

def plainKeys : List Value → Except PlainFault (List String)
  | [] => .ok []
  | key :: rest => do return (← plainKey key) :: (← plainKeys rest)
termination_by structural keys => keys

end

mutual

def plain : Value → Except PlainFault Value
  | .float (.finite negative mantissa exponent) => .ok (.float (.finite negative mantissa exponent))
  | .float _ => .ok .null
  | .bytes data => (bytesText data).map .text
  | .date day => .ok (.text day.text)
  | .dateTime time => .ok (.text time.stamp)
  | .handler _ => .error .handler
  | .knot .. => .error .circular
  | .list items => (plainItems items).map .list
  | .tuple items => (plainItems items).map .list
  | .set items => (plainItems items).map .list
  | .map entries => (plainEntries entries).map fun bag => ofBag (Entries.ofList bag)
  | .null => .ok .null
  | .bool flag => .ok (.bool flag)
  | .int n => .ok (.int n)
  | .text chars => .ok (.text chars)
termination_by structural value => value

def plainItems : List Value → Except PlainFault (List Value)
  | [] => .ok []
  | item :: rest => do return (← plain item) :: (← plainItems rest)
termination_by structural items => items

/-- Entries under the texts of their keys, which may agree. -/
def plainEntries : List (Value × Value) → Except PlainFault (List (String × Value))
  | [] => .ok []
  | (key, item) :: rest => do
    let key ← plainKey key
    let item ← plain item
    return (key, item) :: (← plainEntries rest)
termination_by structural entries => entries

end

end Value

namespace Component

def plainBag (bag : Bag) : Except PlainFault Value :=
  (Value.ofBag bag).plain

mutual

def toValue : Component → Except PlainFault Value
  | ⟨type, name, properties, layout, children⟩ => do
    let name ← name.plain
    let properties ← plainBag properties
    let layout ← plainBag layout
    let children ← toValues children
    return .ofBag [
      ("type", .text type),
      ("name", name),
      ("properties", properties),
      ("layout_properties", layout),
      ("components", .list children)]
termination_by structural component => component

def toValues : List Component → Except PlainFault (List Value)
  | [] => .ok []
  | component :: rest => do return (← toValue component) :: (← toValues rest)
termination_by structural components => components

end

end Component

end FormCompiler
