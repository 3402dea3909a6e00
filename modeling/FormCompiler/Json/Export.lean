import FormCompiler.Calendar.Iso
import FormCompiler.Json.Tree
import FormCompiler.Value.Render

set_option autoImplicit false

namespace FormCompiler

namespace Json

def textOrNull : Option String → Tree
  | some chars => .text chars
  | none => .null

def ofHandler (handler : Handler) : Tree :=
  .object [
    ("event", .text handler.event),
    ("component_type", .text handler.componentType),
    ("component_name", textOrNull handler.componentName),
    ("form_name", textOrNull handler.formName)]

def fitsCompact (n : Int) : Bool :=
  -Int.pow 2 63 ≤ n && n < Int.pow 2 64

def compactLevels : Nat := 254

mutual

-- A value in the compact form, if it has one with the given number of levels. Numbers without a
-- JSON form become null.
def compact? (levels : Nat) : Value → Option Tree
  | .null => some .null
  | .bool flag => some (.flag flag)
  | .int n => if fitsCompact n then some (.whole n) else none
  | .float (.finite negative mantissa exponent) =>
    some (.number (.finite negative mantissa exponent))
  | .float _ => some .null
  | .text chars => some (.text chars)
  | .list items => if levels = 0 then none else (compactItems? (levels - 1) items).map .array
  | .tuple items => (compactItems? levels items).map .array
  | .set items => if levels = 0 then none else (compactItems? (levels - 1) items).map .array
  | .map entries => if levels = 0 then none else (compactFields? (levels - 1) entries).map .object
  | .bytes data => some (.text (Value.bytes data).render)
  | .date day => some (.text day.text)
  | .dateTime time => some (.text time.roundedText)
  | .handler target => if levels = 0 then none else some (ofHandler target)
  | .knot .. => none
termination_by structural value => value

def compactItems? (levels : Nat) : List Value → Option (List Tree)
  | [] => some []
  | item :: rest => do
    let item ← compact? levels item
    let rest ← compactItems? levels rest
    return item :: rest
termination_by structural items => items

def compactFields? (levels : Nat) : List (Value × Value) → Option (List (String × Tree))
  | [] => some []
  | (key, value) :: rest =>
    match key with
    | .text key => do
      let item ← compact? levels value
      let rest ← compactFields? levels rest
      return (key, item) :: rest
    | _ => none
termination_by structural entries => entries

end

/-- Why a value has no JSON text. -/
inductive ExportFault where
  | key (typeName : String)
  | indent (typeName : String)
  | circular
deriving Repr, DecidableEq

def ExportFault.message : ExportFault → String
  | .key typeName => "keys must be str, int, float, bool or None, not " ++ typeName
  | .indent typeName => s!"can't multiply sequence by non-int of type '{typeName}'"
  | .circular => "Circular reference detected"

def keyTypeName (oneLine : Bool) (key : Value) : String :=
  if oneLine then key.fullTypeName else key.typeName

def obstacleFault (oneLine : Bool) : Obstacle → ExportFault
  | .again => .circular
  | .bytesKey => .key "bytes"
  | .dateKey => .key (if oneLine then "datetime.date" else "date")
  | .dateTimeKey => .key (if oneLine then "datetime.datetime" else "datetime")

def keyText (oneLine : Bool) : Value → Except ExportFault String
  | .text chars => .ok chars
  | .null => .ok "null"
  | .bool flag => .ok (if flag then "true" else "false")
  | .int n => .ok (toString n)
  | .float x => .ok (x.textIn Style.wideNumbers)
  | key => .error (.key (keyTypeName oneLine key))

mutual

/-- A value in the wide form. -/
def wide (oneLine : Bool) : Value → Except ExportFault Tree
  | .null => .ok .null
  | .bool flag => .ok (.flag flag)
  | .int n => .ok (.whole n)
  | .float x => .ok (.number x)
  | .text chars => .ok (.text chars)
  | .list items => (wideItems oneLine items).map .array
  | .tuple items => (wideItems oneLine items).map .array
  | .set items => (wideItems oneLine items).map .array
  | .map entries => (wideFields oneLine entries).map .object
  | .bytes data => .ok (.text (Value.bytes data).render)
  | .date day => .ok (.text day.text)
  | .dateTime time => .ok (.text time.text)
  | .handler target => .ok (ofHandler target)
  | .knot _ obstacle => .error (obstacleFault oneLine obstacle)
termination_by structural value => value

def wideItems (oneLine : Bool) : List Value → Except ExportFault (List Tree)
  | [] => .ok []
  | item :: rest => do
    let item ← wide oneLine item
    let rest ← wideItems oneLine rest
    return item :: rest
termination_by structural items => items

def wideFields (oneLine : Bool) : List (Value × Value) → Except ExportFault (List (String × Tree))
  | [] => .ok []
  | (key, value) :: rest => do
    let key ← keyText oneLine key
    let item ← wide oneLine value
    let rest ← wideFields oneLine rest
    return (key, item) :: rest
termination_by structural entries => entries

end

-- What a line is indented by: a number of blanks or a text. Values that count as false ask for no
-- lines.
def indentUnit : Value → Except ExportFault (Option String)
  | .int n => .ok (if n = 0 then none else some (String.ofList (List.replicate n.toNat ' ')))
  | .bool flag => .ok (if flag then some " " else none)
  | .text unit => .ok (if unit.isEmpty then none else some unit)
  | value => if value.truthy then .error (.indent value.fullTypeName) else .ok none

end Json

def Value.toJson (value : Value) (indent : Option String := none) :
    Except Json.ExportFault String :=
  match indent with
  | some unit => (Json.wide false value).map (Json.Tree.write (.indented unit))
  | none =>
    match Json.compact? Json.compactLevels value with
    | some tree => .ok (tree.write .compact)
    | none => (Json.wide true value).map (Json.Tree.write .spaced)

-- The JSON text of a value, with lines indented by another value. A text has no lines, and takes
-- anything there.
def Value.toJsonBy (value indent : Value) : Except Json.ExportFault String :=
  match Json.indentUnit indent with
  | .ok unit => value.toJson unit
  | .error fault => if value.isText then value.toJson (some "") else .error fault

end FormCompiler
