import FormCompiler.Form.Basic
import FormCompiler.Reading

set_option autoImplicit false

namespace FormCompiler

namespace Component

-- Assumed: a record nests less than 255 levels. The library that reads records refuses deeper ones.

mutual

def read : Value → Checked Component
  | .map entries =>
    Component.mk <$> Reading.withDefault entries "type" "" Reading.text
      <*> Reading.withDefault entries "name" (.text "") Reading.any
      <*> Reading.withDefault entries "properties" [] Reading.bag
      <*> Reading.withDefault entries "layout_properties" [] Reading.bag
      <*> readChildren entries
  | _ => .fail .notRecord
termination_by structural value => value

def readChildren : List (Value × Value) → Checked (List Component)
  | [] => .good []
  | (key, value) :: rest =>
    match key with
    | .text "components" => (readList value).under "components"
    | _ => readChildren rest
termination_by structural entries => entries

def readList : Value → Checked (List Component)
  | .list items => readItems 0 items
  | .tuple items => readItems 0 items
  | .set items => readItems 0 items
  | _ => .fail .notList
termination_by structural value => value

def readItems (index : Nat) : List Value → Checked (List Component)
  | [] => .good []
  | item :: rest =>
    List.cons <$> (read item).under (toString index) <*> readItems (index + 1) rest
termination_by structural items => items

end

end Component

namespace Reading

def record {α : Type} (read : List (Value × Value) → Checked α) : Value → Checked α
  | .map entries => read entries
  | _ => .fail .notRecord

end Reading

def DataBinding.read : Value → Checked DataBinding :=
  Reading.record fun entries =>
    DataBinding.mk <$> Reading.required entries "component" Reading.text
      <*> Reading.required entries "property" Reading.text
      <*> Reading.required entries "code" Reading.text

def EventParameter.read : Value → Checked EventParameter :=
  Reading.record fun entries =>
    EventParameter.mk <$> Reading.required entries "name" Reading.text
      <*> Reading.withDefault entries "description" none (Reading.optional Reading.text)

def CustomEvent.read : Value → Checked CustomEvent :=
  Reading.record fun entries =>
    CustomEvent.mk <$> Reading.required entries "name" Reading.text
      <*> Reading.withDefault entries "description" none (Reading.optional Reading.text)
      <*> Reading.withDefault entries "parameters" [] (Reading.list EventParameter.read)

def Form.read : Value → Checked Form :=
  Reading.record fun entries =>
    Form.mk <$> Reading.required entries "container" Component.read
      <*> Reading.withDefault entries "components" [] (Reading.list Component.read)
      <*> Reading.withDefault entries "event_bindings" [] (Reading.table Reading.text)
      <*> Reading.withDefault entries "data_bindings" [] (Reading.list DataBinding.read)
      <*> Reading.withDefault entries "is_package" false Reading.flag
      <*> Reading.withDefault entries "custom_component_events" none
        (Reading.optional (Reading.list CustomEvent.read))
      <*> Reading.withDefault entries "layout_metadata" none (Reading.optional Reading.bag)

def FormOptions.read : Value → Checked FormOptions :=
  Reading.record fun entries =>
    FormOptions.mk <$> Reading.withDefault entries "allow_custom_components" false Reading.flag
      <*> Reading.withDefault entries "validate_data_bindings" false Reading.flag
      <*> Reading.withDefault entries "validate_event_bindings" false Reading.flag

end FormCompiler
