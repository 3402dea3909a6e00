import FormCompiler.Diagnostic
import FormCompiler.Form.Basic
import FormCompiler.Journal
import FormCompiler.Value.Access
import FormCompiler.Value.Render

set_option autoImplicit false

namespace FormCompiler

namespace Component

def unknownType : String := "Unknown"

mutual

def ofItems : List Value → List Component
  | [] => []
  | .map entries :: rest =>
    let source := Value.map entries
    let name := source.field "name"
    { type := (source.field "type").asText unknownType
      name := if name.isNull then .text "" else name
      properties := (source.field "properties").asBag
      layout := (source.field "layout_properties").asBag
      children := childrenOf entries } :: ofItems rest
  | _ :: rest => ofItems rest
termination_by structural items => items

def childrenOf : List (Value × Value) → List Component
  | [] => []
  | (key, value) :: rest =>
    match key with
    | .text "components" => ofList value
    | _ => childrenOf rest
termination_by structural entries => entries

def ofList : Value → List Component
  | .list items => ofItems items
  | .tuple items => ofItems items
  | _ => []
termination_by structural value => value

end

mutual

/-- The items of component lists that are no components, each before what lies in later ones. -/
def strayItems : List Value → List Value
  | [] => []
  | .map entries :: rest => strayChildren entries ++ strayItems rest
  | other :: rest => other :: strayItems rest
termination_by structural items => items

def strayChildren : List (Value × Value) → List Value
  | [] => []
  | (key, value) :: rest =>
    match key with
    | .text "components" => strayIn value
    | _ => strayChildren rest
termination_by structural entries => entries

def strayIn : Value → List Value
  | .list items => strayItems items
  | .tuple items => strayItems items
  | _ => []
termination_by structural value => value

end

end Component

namespace Form

def fileName : String := "form_template.yaml"

def defaultContainerType : String := "ColumnPanel"

/-- The container; its children are its own list if it has one, else the form's flat list. -/
def containerOf (source : Value) (components : List Component) : Component :=
  let fields := source.asBag
  let name := Bag.value fields "name"
  { type := (Bag.value fields "type").asText defaultContainerType
    name := if name.isNull then .text "" else name
    properties := (Bag.value fields "properties").asBag
    layout := (Bag.value fields "layout_properties").asBag
    children :=
      if Entries.contains fields "components" then
        Component.ofList (Bag.value fields "components")
      else components }

def eventBindingsOf (source : Value) : Entries String String :=
  source.asBag.filterMap fun entry =>
    match entry.2 with
    | .text handler => some (entry.1, handler)
    | _ => none

def unboundEvents (source : Value) : Bag :=
  source.asBag.filter fun entry => !entry.2.isText

def dataBindingOf? (source : Value) : Option DataBinding := do
  let fields := source.asBag
  let component ← (Bag.value fields "component").asText?
  let property ← (Bag.value fields "property").asText?
  let code ← (Bag.value fields "code").asText?
  return { component, property, code }

def parameterOf? (source : Value) : Option EventParameter := do
  let fields := source.asBag
  let name ← (Bag.value fields "name").asText?
  return { name, description := (Bag.value fields "description").asText? }

def customEventOf? (source : Value) : Option CustomEvent := do
  let fields := source.asBag
  let name ← (Bag.value fields "name").asText?
  return {
    name
    description := (Bag.value fields "description").asText?
    parameters := (Bag.value fields "parameters").asItems.filterMap parameterOf? }

def customEventsOf (source : Value) : Option (List CustomEvent) :=
  if source.truthy then some (source.asItems.filterMap customEventOf?) else none

def ofDocument (document : Value) : Form :=
  let components := Component.ofList (document.field "components")
  let metadata := (document.field "layout_metadata").asBag
  { container := containerOf (document.field "container") components
    components
    eventBindings := eventBindingsOf (document.field "event_bindings")
    dataBindings := (document.field "data_bindings").asItems.filterMap dataBindingOf?
    isPackage := (document.field "is_package").truthy
    customEvents := customEventsOf (document.field "custom_component_events")
    layoutMetadata := if metadata.isEmpty then none else some metadata }

end Form

/-- An entry of a document that no record has room for. -/
inductive Omission where
  | component (item : Value)
  | eventBinding (event : String) (handler : Value)
  | dataBinding (item : Value)
  | customEvent (item : Value)
  | dependency (item : Value)

namespace Omission

def excerpt (length : Nat) (value : Value) : Value :=
  .text (String.ofList (value.quoted.toList.take length))

def entry : Omission → LogEntry
  | .component item => ⟨.warning, "invalid_component", [("component", excerpt 100 item)]⟩
  | .eventBinding event handler =>
    ⟨.warning, "invalid_event_binding",
      [("event_name", .text event), ("got", .text handler.typeName)]⟩
  | .dataBinding item => ⟨.warning, "invalid_data_binding", [("binding", excerpt 200 item)]⟩
  | .customEvent item =>
    ⟨.warning, "invalid_custom_event", [("custom_event", excerpt 100 item)]⟩
  | .dependency item => ⟨.warning, "invalid_dependency", [("dependency", .text item.quoted)]⟩

def warning? : Omission → Option Diagnostic
  | .eventBinding event handler =>
    some
      { message := "Invalid event binding for '" ++ event ++ "': expected string, got "
          ++ handler.typeName
        severity := .warning
        file := some Form.fileName }
  | _ => none

end Omission

namespace Form

def strayEvents (source : Value) : List Value :=
  if source.truthy then source.asItems.filter fun item => (customEventOf? item).isNone else []

def omissions (document : Value) : List Omission :=
  let container := (document.field "container").asBag
  (Component.strayIn (document.field "components")).map .component
    ++ (Component.strayIn (Bag.value container "components")).map .component
    ++ (unboundEvents (document.field "event_bindings")).map (fun entry =>
      .eventBinding entry.1 entry.2)
    ++ ((document.field "data_bindings").asItems.filter fun item =>
      (dataBindingOf? item).isNone).map .dataBinding
    ++ (strayEvents (document.field "custom_component_events")).map .customEvent

end Form

end FormCompiler
