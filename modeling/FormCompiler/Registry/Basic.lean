import FormCompiler.Journal
import FormCompiler.Registry.Definition

set_option autoImplicit false

namespace FormCompiler

structure Registry where
  builtins : Entries String Definition := []
  packages : Entries String (Entries String Definition) := []

namespace Registry

def themeComponents : Entries String String := [
  ("_Components.Button", "Button"),
  ("_Components.TextInput.TextArea", "TextArea"),
  ("_Components.TextField", "TextBox"),
  ("_Components.RadioButton", "RadioButton"),
  ("_Components.RadioGroupPanel", "ColumnPanel"),
  ("_Components.Checkbox", "CheckBox"),
  ("_Components.Switch", "CheckBox"),
  ("_Components.Slider", "Slider"),
  ("_Components.Dropdown", "DropDown"),
  ("_Components.Card", "ColumnPanel"),
  ("_Components.Navigation", "ColumnPanel")]

/-- Dependencies whose components stand for builtins. -/
def remaps : Entries String (Entries String String) := [
  ("dep_lin1x4oec0ytd", themeComponents)]

def remapped? (registry : Registry) (id name : String) : Option Definition := do
  let table ← Entries.get? remaps id
  let builtin ← Entries.get? table name
  Entries.get? registry.builtins builtin

def packaged? (registry : Registry) (scope name : String) : Option Definition := do
  let components ← Entries.get? registry.packages scope
  Entries.get? components name

/-- The definition that a type name resolves to. -/
def get? (registry : Registry) (type : String) : Option Definition :=
  match Entries.get? registry.builtins type with
  | some definition => some definition
  | none =>
    match TypeName.parse type with
    | .dependency id name =>
      some ((registry.remapped? id name).getD (.placeholder name id .dependency))
    | .package scope name =>
      some ((registry.packaged? scope name).getD (.placeholder name scope .package))
    | .builtin _ => none

def contains (registry : Registry) (type : String) : Bool :=
  (registry.get? type).isSome

def types (registry : Registry) : List String :=
  Entries.keys registry.builtins ++ registry.packages.flatMap fun (scope, components) =>
    (Entries.keys components).map fun name => scope ++ "." ++ name

def size (registry : Registry) : Nat :=
  registry.packages.foldl (fun count entry => count + entry.2.length) registry.builtins.length

def addBuiltin (registry : Registry) (type : String) (definition : Definition) : Registry :=
  { registry with
    builtins := Entries.set registry.builtins type { definition with category := .builtin } }

def addPackaged (registry : Registry) (scope name : String) (definition : Definition) :
    Registry :=
  let components := (Entries.get? registry.packages scope).getD []
  let components := Entries.set components name { definition with category := .package }
  { registry with packages := Entries.set registry.packages scope components }

def builtEntry (registry : Registry) : LogEntry :=
  ⟨.info, "registry_built",
    [("builtins", .int registry.builtins.length), ("packages", .int registry.packages.length)]⟩

end Registry

/-- Collects registrations; once built it takes no more. -/
structure RegistryBuilder where
  registry : Registry := {}
  built : Bool := false

namespace RegistryBuilder

def closedMessage : String := "Registry already built; register components before build()"

inductive Registration where
  | builtin (type : String) (definition : Definition)
  | packaged (scope name : String) (definition : Definition)

def add? (builder : RegistryBuilder) : Registration → Option RegistryBuilder
  | .builtin type definition =>
    if builder.built then none
    else some { builder with registry := builder.registry.addBuiltin type definition }
  | .packaged scope name definition =>
    if builder.built then none
    else some { builder with registry := builder.registry.addPackaged scope name definition }

def overwriteEntries (builder : RegistryBuilder) : Registration → List LogEntry
  | .builtin type _ =>
    if !builder.built && Entries.contains builder.registry.builtins type then
      [⟨.debug, "component_overwritten", [("type", .text type)]⟩]
    else []
  | .packaged .. => []

def build? (builder : RegistryBuilder) : Option (RegistryBuilder × Registry) :=
  if builder.built then none else some ({ builder with built := true }, builder.registry)

def addAll? (builder : RegistryBuilder) :
    List Registration → Logged (Option RegistryBuilder)
  | [] => return some builder
  | registration :: rest => do
    Logged.writeAll (builder.overwriteEntries registration)
    match builder.add? registration with
    | some builder => addAll? builder rest
    | none => return none

end RegistryBuilder

end FormCompiler
