import FormCompiler.Diagnostic
import FormCompiler.Form.Basic
import FormCompiler.Registry.Basic
import FormCompiler.Value.Render

set_option autoImplicit false

namespace FormCompiler

namespace Diagnostic

def ofError (message : String) : Diagnostic := { message }

def ofWarning (message : String) : Diagnostic := { message, severity := .warning }

end Diagnostic

namespace Registry

/-- The findings on a component's type and properties, unknown types with the given severity. -/
def typeDiagnostics (registry : Registry) (unknown : Severity) (component : Component) :
    List Diagnostic :=
  if component.type.isEmpty then
    [⟨"Component '" ++ component.name.render ++ "' missing type", unknown, none, none, none⟩]
  else
    match registry.get? component.type with
    | none => [⟨"Unknown component type: " ++ component.type, unknown, none, none, none⟩]
    | some definition =>
      match definition.check with
      | none => []
      | some check =>
        match check component.properties with
        | .ok messages => messages.map .ofError
        | .error cause =>
          [.ofError ("Validation of " ++ component.type ++ " failed: " ++ cause)]

def nameDiagnostics (component : Component) : List Diagnostic :=
  let missing : List Diagnostic :=
    [.ofWarning ("Component of type '" ++ component.type ++ "' missing name")]
  match component.name with
  | .null => missing
  | .text name => if name.isEmpty then missing else []
  | _ => [.ofError "Component name must be a string"]

/-- The findings on one component, its children apart. -/
def nodeDiagnostics (registry : Registry) (component : Component) (checkName : Bool := true)
    (unknown : Severity := .error) : List Diagnostic :=
  registry.typeDiagnostics unknown component
    ++ (if checkName then nameDiagnostics component else [])

/-- The findings on a component and on all below it. -/
def treeDiagnostics (registry : Registry) (root : Component) (unknown : Severity := .error) :
    List Diagnostic :=
  root.preorder.flatMap fun component => registry.nodeDiagnostics component true unknown

def nodeEntries (registry : Registry) (component : Component) : List LogEntry :=
  if component.type.isEmpty then []
  else
    match (registry.get? component.type).bind (·.check) with
    | none => []
    | some check =>
      match check component.properties with
      | .ok _ => []
      | .error cause =>
        [⟨.error, "validator_failed", [("type", .text component.type), ("error", .text cause)]⟩]

def treeEntries (registry : Registry) (root : Component) : List LogEntry :=
  root.preorder.flatMap registry.nodeEntries

def containerDiagnostics (registry : Registry) (unknown : Severity) (container : Component) :
    List Diagnostic :=
  if container.type.isEmpty then [.ofError "Container type is required"]
  else registry.nodeDiagnostics container false unknown

end Registry

namespace Form

def handlerLead : String := "self."

def handlerWarnings (form : Form) : List Diagnostic :=
  form.eventBindings.filterMap fun (event, handler) =>
    if handlerLead.toList.isPrefixOf handler.toList then none
    else some (.ofWarning ("Event handler '" ++ handler ++ "' for '" ++ event
      ++ "' doesn't follow '" ++ handlerLead ++ "' convention"))

-- The names of all components of a form's trees that are texts, as they are found with a stack that
-- has the last tree on top.
def componentNames (form : Form) : List String :=
  (Component.visited form.trees.reverse).filterMap (·.textName?)

def bindingWarnings (form : Form) : List Diagnostic :=
  let names := form.componentNames
  form.dataBindings.filterMap fun binding =>
    if binding.component = "self" || names.contains binding.component then none
    else some (.ofWarning ("Data binding '" ++ binding.component ++ "." ++ binding.property
      ++ "' targets an unknown component"))

def unknownSeverity (options : FormOptions) : Severity :=
  if options.allowCustomComponents then .warning else .error

/-- The findings on the components of a form. -/
def componentDiagnostics (registry : Registry) (options : FormOptions) (form : Form) :
    List Diagnostic :=
  let unknown := unknownSeverity options
  registry.containerDiagnostics unknown form.container
    ++ form.trees.flatMap fun root => registry.treeDiagnostics root unknown

def validate (registry : Registry) (options : FormOptions) (form : Form) : Report :=
  Report.extend {} (form.componentDiagnostics registry options
    ++ (if options.checkEventBindings then form.handlerWarnings else [])
    ++ (if options.checkDataBindings then form.bindingWarnings else []))

def validationEntries (registry : Registry) (form : Form) : List LogEntry :=
  registry.nodeEntries form.container ++ form.trees.flatMap registry.treeEntries

end Form

end FormCompiler
