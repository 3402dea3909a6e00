import FormCompiler.Registry.Definition
import FormCompiler.Value.Equality

set_option autoImplicit false

namespace FormCompiler

namespace Properties

def eventKeys : List String := ["click", "change", "submit", "focus", "blur", "hover", "select"]

def isEventKey (key : String) : Bool := eventKeys.contains key

structure Owner where
  type : Option String := none
  name : Option String := none
  form : Option String := none
deriving Repr, DecidableEq

def reportedType (owner : Owner) (definition : Definition) : String :=
  match owner.type with
  | some type => if type.isEmpty then definition.backend.text else type
  | none => definition.backend.text

def handlerFor (owner : Owner) (definition : Definition) (event : String) : Handler :=
  ⟨event, reportedType owner definition, owner.name, owner.form⟩

/-- What a present property becomes. -/
def converted (definition : Definition) (owner : Owner) (key : String) (value : Value) :
    Except String Value :=
  if isEventKey key then .ok (.handler (handlerFor owner definition key))
  else
    match (definition.transforms.bind fun transforms => Entries.get? transforms key) with
    | some transform => transform value
    | none => .ok value

def follow (definition : Definition) (owner : Owner) (props : Props) :
    Entries String String → Props → Except String Props
  | [], written => .ok written
  | (key, target) :: rest, written =>
    match Entries.get? props (.text key) with
    | none => follow definition owner props rest written
    | some value =>
      match converted definition owner key value with
      | .error message => .error message
      | .ok result =>
        follow definition owner props rest (Entries.set written (.text target) result)

-- The backend's properties, or the message of the first conversion that fails. Without a table all
-- properties are copied over the defaults.
def mapped (definition : Definition) (owner : Owner) (props : Props) : Except String Props :=
  match definition.mapping with
  | none => .ok (Entries.update definition.defaults props)
  | some table => follow definition owner props table definition.defaults

end Properties

end FormCompiler
