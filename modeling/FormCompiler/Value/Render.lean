import FormCompiler.Value.Basic
import FormCompiler.Number.Shortest
import FormCompiler.Text.Quoted

set_option autoImplicit false

namespace FormCompiler

def Handler.quoted (handler : Handler) : String :=
  let name? : Option String → String
    | some name => Text.quoted name
    | none => "None"
  "EventSubscription(event_type=" ++ Text.quoted handler.event
    ++ ", component_type=" ++ Text.quoted handler.componentType
    ++ ", component_name=" ++ name? handler.componentName
    ++ ", form_name=" ++ name? handler.formName ++ ")"

namespace Value

mutual

def quoted : Value → String
  | .null => "None"
  | .bool flag => if flag then "True" else "False"
  | .int n => toString n
  | .float x => x.text
  | .text chars => Text.quoted chars
  | .list items => "[" ++ ", ".intercalate (quotedItems items) ++ "]"
  | .tuple [item] => "(" ++ quoted item ++ ",)"
  | .tuple items => "(" ++ ", ".intercalate (quotedItems items) ++ ")"
  | .map entries => "\x7b" ++ ", ".intercalate (quotedEntries entries) ++ "\x7d"
  | .set [] => "set()"
  | .set items => "\x7b" ++ ", ".intercalate (quotedItems items) ++ "\x7d"
  | .bytes data => Text.quotedBytes data
  | .date day => day.quoted
  | .dateTime time => time.quoted
  | .handler target => target.quoted
  -- Only the dots that mark the second round of such a tuple, without its first.
  | .knot .. => "(...)"
termination_by structural a => a

def quotedItems : List Value → List String
  | [] => []
  | item :: rest => quoted item :: quotedItems rest
termination_by structural a => a

def quotedEntries : List (Value × Value) → List String
  | [] => []
  | (key, value) :: rest => (quoted key ++ ": " ++ quoted value) :: quotedEntries rest
termination_by structural a => a

end

def render : Value → String
  | .text chars => chars
  | .date day => day.text
  | .dateTime time => time.text
  | value => value.quoted

end Value

end FormCompiler
