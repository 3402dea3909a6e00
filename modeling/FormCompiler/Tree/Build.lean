import FormCompiler.Form.OfDocument
import FormCompiler.Form.Record
import FormCompiler.Layout
import FormCompiler.Properties
import FormCompiler.Tree.Basic
import FormCompiler.Validation

set_option autoImplicit false

namespace FormCompiler

structure BuildOptions where
  debug : Bool := false
  validate : Bool := true
  maxDepth : Int := 64
deriving Repr, DecidableEq

def BuildOptions.read : Value → Checked BuildOptions :=
  Reading.record fun entries =>
    BuildOptions.mk <$> Reading.withDefault entries "debug" false Reading.flag
      <*> Reading.withDefault entries "validate_components" true Reading.flag
      <*> Reading.withDefault entries "max_depth" 64 Reading.positive

structure TreeBuilder where
  registry : Registry
  options : BuildOptions := {}

/-- The form and the depth that a component is built at, and the errors reported so far. -/
structure BuildContext where
  form : Option String := none
  depth : Int := 0
  errors : List String := []
deriving Repr, DecidableEq

namespace BuildContext

def below (context : BuildContext) : BuildContext :=
  { context with depth := context.depth + 1 }

end BuildContext

/-- What was built, all errors reported by then, and what was written meanwhile. -/
structure BuildOutcome (α : Type) where
  result : α
  errors : List String
  entries : List LogEntry

namespace TreeBuilder

inductive BuildFailure where
  | tooDeep (limit : Int)
  | invalid (messages : List String)
  | unresolved (type : String)
  | unmapped (cause : String)
deriving Repr, DecidableEq

def BuildFailure.messages : BuildFailure → List String
  | .tooDeep limit => [s!"Maximum component depth {limit} exceeded"]
  | .invalid messages => messages
  | .unresolved type => ["Unknown component type: " ++ type]
  | .unmapped cause => [cause]

def BuildFailure.reports (type : String) : BuildFailure → List String
  | .unmapped cause => ["Error creating component " ++ type ++ ": " ++ cause]
  | failure => failure.messages

def errorStyle : Bag := [
  ("border", .text "2px solid #ff4444"),
  ("border_radius", .text "4px"),
  ("padding", .text "16px"),
  ("margin", .text "8px"),
  ("background_color", .text "#ffeeee"),
  ("color", .text "#cc0000")]

def keyProps (key : Value) : Bag :=
  if key.isNull then [] else [("key", key), ("data-testid", key)]

def nameProps (name : Option String) (props : Props) : Bag :=
  match name with
  | some name =>
    let existing := ((Value.map props).field "class_name").asText ""
    [("class_name", .text (Text.trim (existing ++ " anvil-component-" ++ name)))]
  | none => []

def debugProps (component : Component) (depth : Int) : Bag := [
  ("data-anvil-type", .text component.type),
  ("data-anvil-name", .ofText? component.properName?),
  ("data-anvil-depth", .int depth)]

def errorDebugProps (component : Component) (errors : List String) : Bag :=
  let written := ((Value.list (errors.map .text)).toJson).toOption.getD ""
  [("data-anvil-type", .text component.type),
    ("data-anvil-name", .ofText? component.properName?),
    ("data-anvil-errors", .text written)]

def failureTree (builder : TreeBuilder) (component : Component) (key : Value)
    (errors : List String) : Tree :=
  let base : Bag :=
    [("class_name", .text "anvil-component-error"), ("style", .ofBag errorStyle)]
  let keyed := if key.isNull then base else Entries.set base "key" key
  let props :=
    if builder.options.debug then Entries.update keyed (errorDebugProps component errors)
    else keyed
  let type := if component.type.isEmpty then Component.unknownType else component.type
  .failure ⟨type, component.properName?, key⟩ errors (Bag.toProps props)

def findings (builder : TreeBuilder) (component : Component) : List String :=
  if builder.options.validate then
    ((builder.registry.nodeDiagnostics component).filter (·.isError)).map (·.message)
  else []

/-- A component without its children, ready to be joined with theirs. -/
structure Prepared where
  backend : Backend
  props : Props
  layout : Option Bag

def propsOf (builder : TreeBuilder) (component : Component) (definition : Definition)
    (form : Option String) (key : Value) (depth : Int) : Except String Props := do
  let owner : Properties.Owner := ⟨some component.type, component.properName?, form⟩
  let props ← Properties.mapped definition owner component.properties.toProps
  let props := Props.write props (keyProps key)
  let props := Props.write props (nameProps component.properName? props)
  return if builder.options.debug then Props.write props (debugProps component depth) else props

/-- Checks, resolves and maps one component. -/
def prepare (builder : TreeBuilder) (component : Component) (form : Option String) (key : Value)
    (depth : Int) : Except BuildFailure Prepared :=
  if builder.options.maxDepth < depth then .error (.tooDeep builder.options.maxDepth)
  else
    let errors := builder.findings component
    if !errors.isEmpty then .error (.invalid errors)
    else
      match builder.registry.get? component.type with
      | none => .error (.unresolved component.type)
      | some definition =>
        match builder.propsOf component definition form key depth with
        | .error cause => .error (.unmapped cause)
        | .ok props =>
          let layout :=
            if definition.layoutSupported && !component.layout.isEmpty then
              some (Layout.mapped component.layout)
            else none
          .ok ⟨definition.backend, props, layout⟩

def prepareEntries (builder : TreeBuilder) (component : Component) (form : Option String)
    (key : Value) (depth : Int) : List LogEntry :=
  let checks :=
    if builder.options.validate && depth ≤ builder.options.maxDepth then
      builder.registry.nodeEntries component
    else []
  match builder.prepare component form key depth with
  | .error (.invalid errors) =>
    if builder.options.debug then
      checks ++ [⟨.warning, "component_invalid",
        [("type", .text component.type), ("errors", .list (errors.map .text))]⟩]
    else checks
  | .error (.unmapped cause) =>
    checks ++ [⟨.error, "component_build_failed", [
      ("type", .text component.type),
      ("name", .ofText? component.properName?),
      ("error", .text cause),
      ("exc_info", .bool builder.options.debug)]⟩]
  | _ => checks

-- Assumed: calls may nest as deep as the component does, within the limit of the options.

mutual

def build (builder : TreeBuilder) (context : BuildContext) (key : Value) :
    Component → BuildOutcome Tree
  | ⟨type, name, properties, layout, children⟩ =>
    let component : Component := ⟨type, name, properties, layout, children⟩
    let entries := builder.prepareEntries component context.form key context.depth
    match builder.prepare component context.form key context.depth with
    -- The children of a component that fails are not built.
    | .error failure =>
      { result := builder.failureTree component key failure.messages
        errors := context.errors ++ failure.reports type
        entries }
    | .ok prepared =>
      let built := buildAll builder context.below 0 children
      { result := .node ⟨type, component.properName?, key⟩ prepared.backend prepared.props
          prepared.layout built.result
        errors := built.errors
        entries := entries ++ built.entries }
termination_by structural component => component

-- Builds components one after another, the first keyed by the given index. The errors of one are
-- there when the next is built.
def buildAll (builder : TreeBuilder) (context : BuildContext) (index : Nat) :
    List Component → BuildOutcome (List Tree)
  | [] => ⟨[], context.errors, []⟩
  | component :: rest =>
    let first := build builder context (.int index) component
    let others := buildAll builder { context with errors := first.errors } (index + 1) rest
    ⟨first.result :: others.result, others.errors, first.entries ++ others.entries⟩
termination_by structural components => components

end

/-- What is left of a value that is no component: its type and its name, if it has them. -/
def remnant (value : Value) : Component where
  type := (value.field "type").asText Component.unknownType
  name := .text ((value.field "name").asText "")

def buildValue (builder : TreeBuilder) (context : BuildContext) (key : Value) (value : Value) :
    BuildOutcome Tree :=
  match Component.read value with
  | .good component => builder.build context key component
  | .bad _ =>
    let message := "Invalid component definition: " ++ value.typeName
    ⟨builder.failureTree (remnant value) key [message], context.errors ++ [message], []⟩

def buildValues (builder : TreeBuilder) (context : BuildContext) (index : Nat) :
    List Value → BuildOutcome (List Tree)
  | [] => ⟨[], context.errors, []⟩
  | value :: rest =>
    let first := builder.buildValue context (.int index) value
    let others := buildValues builder { context with errors := first.errors } (index + 1) rest
    ⟨first.result :: others.result, others.errors, first.entries ++ others.entries⟩

structure FormOutcome where
  root : Tree
  errors : List String
  entries : List LogEntry

def FormOutcome.ok (outcome : FormOutcome) : Bool := outcome.errors.isEmpty

def containerKey : Value := .text "container"

def buildForm (builder : TreeBuilder) (form : Form) (name : Option String) : FormOutcome :=
  let outcome := builder.build { form := name } containerKey form.container
  let summary : LogEntry :=
    if outcome.errors.isEmpty then ⟨.debug, "form_built", [("form", .ofText? name)]⟩
    else ⟨.warning, "form_build_errors",
      [("form", .ofText? name), ("errors", .list (outcome.errors.map .text))]⟩
  ⟨outcome.result, outcome.errors, outcome.entries ++ [summary]⟩

end TreeBuilder

end FormCompiler
