import FormCompiler.Value.Access
import FormCompiler.Number.Loose
import FormCompiler.Text.Utf8

set_option autoImplicit false

namespace FormCompiler

inductive IssueKind where
  | missing
  | notText
  | textUndecodable
  | notList
  | notMapping
  | notRecord
  | notFlag
  | flagUnreadable
  | notWhole
  | wholeUnreadable
  | wholeFraction
  | wholeTooLong
  | notFinite
  | tooSmall
  | tooLarge
  | severityUnknown
deriving Repr, DecidableEq

def IssueKind.code : IssueKind → String
  | .missing => "missing"
  | .notText => "string_type"
  | .textUndecodable => "string_unicode"
  | .notList => "list_type"
  | .notMapping => "dict_type"
  | .notRecord => "model_type"
  | .notFlag => "bool_type"
  | .flagUnreadable => "bool_parsing"
  | .notWhole => "int_type"
  | .wholeUnreadable => "int_parsing"
  | .wholeFraction => "int_from_float"
  | .wholeTooLong => "int_parsing_size"
  | .notFinite => "finite_number"
  | .tooSmall => "greater_than"
  | .tooLarge => "less_than_equal"
  | .severityUnknown => "enum"

structure Issue where
  path : List String
  kind : IssueKind
deriving Repr, DecidableEq

/-- A result, or the issues that stand in its way. -/
inductive Checked (α : Type) where
  | good (result : α)
  | bad (issues : List Issue)
deriving Repr

namespace Checked

variable {α β : Type}

def map (f : α → β) : Checked α → Checked β
  | .good a => .good (f a)
  | .bad issues => .bad issues

def ap (f : Checked (α → β)) (x : Checked α) : Checked β :=
  match f, x with
  | .good f, .good a => .good (f a)
  | .good _, .bad issues => .bad issues
  | .bad issues, .good _ => .bad issues
  | .bad first, .bad second => .bad (first ++ second)

instance : Functor Checked where
  map := map

instance : Seq Checked where
  seq f x := ap f (x ())

def fail (kind : IssueKind) : Checked α := .bad [⟨[], kind⟩]

def under (step : String) : Checked α → Checked α
  | .good a => .good a
  | .bad issues => .bad (issues.map fun issue => { issue with path := step :: issue.path })

def guard (kind : IssueKind) (fits : α → Bool) : Checked α → Checked α
  | .good a => if fits a then .good a else .fail kind
  | .bad issues => .bad issues

def toExcept : Checked α → Except (List Issue) α
  | .good a => .ok a
  | .bad issues => .error issues

end Checked

namespace Reading

def any (value : Value) : Checked Value := .good value

def text : Value → Checked String
  | .text chars => .good chars
  | .bytes data =>
    match Text.decodeUtf8 data with
    | .ok chars => .good (String.ofList chars)
    | .error _ => .fail .textUndecodable
  | _ => .fail .notText

def optional {α : Type} (read : Value → Checked α) : Value → Checked (Option α)
  | .null => .good none
  | value => (read value).map some

def flagWord? (word : String) : Option Bool :=
  let word := String.ofList (word.toList.map Char.toLower)
  if ["1", "true", "t", "yes", "y", "on"].contains word then some true
  else if ["0", "false", "f", "no", "n", "off"].contains word then some false
  else none

def fitsWord (n : Int) : Bool :=
  -Int.pow 2 63 ≤ n && n < Int.pow 2 63

def flagOfWhole (n : Int) : Checked Bool :=
  if !fitsWord n then .fail .notFlag
  else if n = 1 then .good true
  else if n = 0 then .good false
  else .fail .flagUnreadable

def wholeOfDouble (x : Double) : Checked Int :=
  match x.toInt? with
  | some n => if -Int.pow 2 63 < n && n < Int.pow 2 63 then .good n else .fail .wholeTooLong
  | none =>
    match x with
    | .finite .. => .fail .wholeFraction
    | _ => .fail .notFinite

def flag : Value → Checked Bool
  | .bool flag => .good flag
  | .text chars =>
    match flagWord? chars with
    | some flag => .good flag
    | none => .fail .flagUnreadable
  | .bytes data =>
    match (Text.decodeUtf8 data).toOption.bind fun chars => flagWord? (String.ofList chars) with
    | some flag => .good flag
    | none => .fail .flagUnreadable
  | .int n => flagOfWhole n
  | .float x =>
    match wholeOfDouble x with
    | .good n => flagOfWhole n
    | .bad _ => .fail .notFlag
  | _ => .fail .notFlag

def wholeOfText (chars : List Char) : Checked Int :=
  match Number.Loose.whole? chars with
  | some n => .good n
  | none => .fail .wholeUnreadable

def whole : Value → Checked Int
  | .int n => .good n
  | .bool flag => .good (if flag then 1 else 0)
  | .float x => wholeOfDouble x
  | .text chars => wholeOfText chars.toList
  | .bytes data =>
    match Text.decodeUtf8 data with
    | .ok chars => wholeOfText chars
    | .error _ => .fail .wholeUnreadable
  | _ => .fail .notWhole

def positive (value : Value) : Checked Int :=
  (whole value).guard .tooSmall fun n => 0 < n

def items? : Value → Option (List Value)
  | .list items | .tuple items | .set items => some items
  | _ => none

def listFrom {α : Type} (read : Value → Checked α) : Nat → List Value → Checked (List α)
  | _, [] => .good []
  | index, item :: rest =>
    List.cons <$> (read item).under (toString index) <*> listFrom read (index + 1) rest

def list {α : Type} (read : Value → Checked α) (value : Value) : Checked (List α) :=
  match items? value with
  | some items => listFrom read 0 items
  | none => .fail .notList

def keyStep : Value → String
  | .text chars => chars
  | .bool flag => if flag then "1" else "0"
  | key => key.quoted

def entriesFrom {α : Type} (read : Value → Checked α) :
    List (Value × Value) → Checked (List (String × α))
  | [] => .good []
  | (key, value) :: rest =>
    let step := keyStep key
    let entry := Prod.mk <$> ((text key).under "[key]").under step <*> (read value).under step
    List.cons <$> entry <*> entriesFrom read rest

def table {α : Type} (read : Value → Checked α) : Value → Checked (Entries String α)
  | .map entries => (entriesFrom read entries).map Entries.ofList
  | _ => .fail .notMapping

def bag : Value → Checked Bag := table any

def field? (entries : List (Value × Value)) (name : String) : Option Value :=
  match entries with
  | [] => none
  | (.text key, value) :: rest => if key = name then some value else field? rest name
  | _ :: rest => field? rest name

def required {α : Type} (entries : List (Value × Value)) (name : String)
    (read : Value → Checked α) : Checked α :=
  match field? entries name with
  | some value => (read value).under name
  | none => .bad [⟨[name], .missing⟩]

def withDefault {α : Type} (entries : List (Value × Value)) (name : String) (default : α)
    (read : Value → Checked α) : Checked α :=
  match field? entries name with
  | some value => (read value).under name
  | none => .good default

end Reading

end FormCompiler
