import FormCompiler.Layout
import FormCompiler.Registry.Basic

set_option autoImplicit false

namespace FormCompiler

namespace Builtins

abbrev Check := Bag → Option String

def expect (key : String) (fits : Value → Bool) (message : String) : Check := fun bag =>
  if Bag.isPresent bag key && !fits (Bag.value bag key) then some message else none

def isText (key : String) : Check :=
  expect key Value.isText (key ++ " property must be a string")

def isFlag (key : String) : Check :=
  expect key Value.isBool (key ++ " property must be a boolean")

def isItems (key : String) : Check :=
  expect key Value.isList (key ++ " property must be an array")

def isOneOf (key : String) (choices : List String) : Check :=
  let among : Value → Bool
    | .text chars => choices.contains chars
    | _ => false
  expect key among (key ++ " must be one of: " ++ ", ".intercalate choices)

def isPositiveNumber : Value → Bool
  | .int n => 0 < n
  | .float x => x.isPositive
  | _ => false

def checkAll (checks : List Check) : PropertyCheck := fun bag =>
  .ok (checks.filterMap fun check => check bag)

def pixelSize : Transform := fun value =>
  .ok (match value.numberText? with
    | some text => .text (text ++ "px")
    | none => value)

def inputType : Transform := fun hidden =>
  .ok (.text (if hidden.truthy then "password" else "text"))

def buttonRoles : List String := [
  "primary-color", "secondary-color", "raised", "filled", "outlined", "filled-button",
  "outlined-button"]

def linkTargets : List String := ["_blank", "_self", "_parent", "_top"]

def notificationPositions : List String := [
  "top-left", "top-center", "top-right", "bottom-left", "bottom-center", "bottom-right"]

def definitions : List (String × Definition) := [
  ("HtmlPanel",
    { backend := .named "HtmlPanel"
      defaults := [("class_name", .text ""), ("style", .map [])]
      mapping := some [("html", "html")]
      layoutSupported := true
      check := some (checkAll [isText "html"]) }),
  ("GridPanel",
    { backend := .named "GridPanel"
      defaults := [("columns", .int 1), ("gap", .text "8px")]
      mapping := some [("spacing", "gap"), ("columns", "columns")]
      layoutSupported := true
      check := some (checkAll [
        expect "columns" (fun value => value.isNumber || value.isText)
          "columns property must be a number or string"]) }),
  ("ColumnPanel",
    { backend := .named "ColumnPanel"
      defaults := [("spacing", .text "8px"), ("align", .text "stretch")]
      mapping := some [("spacing", "spacing"), ("align", "align")]
      layoutSupported := true }),
  ("FlowPanel",
    { backend := .named "FlowPanel"
      defaults := [("direction", .text "row"), ("wrap", .bool true), ("spacing", .text "8px")]
      mapping := some [("spacing", "spacing"), ("align", "align"), ("justify", "justify")]
      layoutSupported := true }),
  ("LinearPanel",
    { backend := .named "LinearPanel"
      defaults := [
        ("orientation", .text "vertical"), ("spacing", .text "medium"),
        ("align", .text "stretch")]
      mapping := some [
        ("orientation", "orientation"), ("spacing", "spacing"), ("align", "align"),
        ("justify", "justify")]
      layoutSupported := true }),
  ("XYPanel",
    { backend := .named "XYPanel"
      defaults := [("width", .text "100%"), ("height", .text "400px")]
      mapping := some [("width", "width"), ("height", "height")]
      transforms := some [("width", pixelSize), ("height", pixelSize)]
      layoutSupported := true }),
  ("FormTemplate",
    { backend := .named "HtmlPanel"
      defaults := [
        ("class_name", .text "anvil-form-template"),
        ("style", .ofBag [
          ("width", .text "100%"), ("min_height", .text "100vh"), ("padding", .text "16px")])]
      layoutSupported := true }),
  ("HtmlTemplate",
    { backend := .named "HtmlPanel"
      defaults := [("class_name", .text "anvil-html-template"), ("style", .map [])]
      mapping := some [("html", "html"), ("properties", "properties")]
      layoutSupported := true }),
  ("Label",
    { backend := .named "Label"
      defaults := [("align", .text "left")]
      mapping := some [
        ("text", "text"), ("font_size", "font_size"), ("font_weight", "font_weight"),
        ("foreground", "color"), ("align", "align")]
      transforms := some [("font_size", pixelSize)]
      layoutSupported := true
      check := some (checkAll [isText "text"]) }),
  ("TextBox",
    { backend := .named "TextBox"
      defaults := [("text", .text ""), ("enabled", .bool true), ("multiline", .bool false)]
      mapping := some [
        ("text", "text"), ("placeholder", "placeholder"), ("enabled", "enabled"),
        ("multiline", "multiline"), ("type", "type"), ("hide_text", "type"),
        ("validate_regex", "pattern"), ("max_length", "max_length")]
      transforms := some [("hide_text", inputType)]
      layoutSupported := true
      check := some (checkAll [
        isText "text", isFlag "enabled",
        expect "max_length" isPositiveNumber "max_length must be a positive number"]) }),
  ("TextArea",
    { backend := .named "TextArea"
      defaults := [
        ("text", .text ""), ("enabled", .bool true), ("rows", .int 3),
        ("auto_resize", .bool true)]
      mapping := some [
        ("text", "text"), ("placeholder", "placeholder"), ("enabled", "enabled"),
        ("rows", "rows"), ("auto_expand", "auto_resize")]
      layoutSupported := true }),
  ("CheckBox",
    { backend := .named "CheckBox"
      defaults := [("checked", .bool false), ("enabled", .bool true)]
      mapping := some [
        ("checked", "checked"), ("text", "text"), ("enabled", "enabled"), ("change", "on_change")]
      layoutSupported := true
      check := some (checkAll [isFlag "checked", isFlag "enabled"]) }),
  ("RadioButton",
    { backend := .named "RadioButton"
      defaults := [("text", .text ""), ("checked", .bool false), ("enabled", .bool true)]
      mapping := some [
        ("text", "text"), ("selected", "checked"), ("enabled", "enabled"),
        ("group_name", "group_name"), ("value", "value"), ("change", "on_change")]
      layoutSupported := true }),
  ("DropDown",
    { backend := .named "DropDown"
      defaults := [
        ("items", .list []), ("selected_value", .null), ("enabled", .bool true),
        ("include_blank", .bool true)]
      mapping := some [
        ("items", "items"), ("selected_value", "selected_value"), ("placeholder", "placeholder"),
        ("enabled", "enabled"), ("include_placeholder", "include_blank"), ("change", "on_change")]
      layoutSupported := true
      check := some (checkAll [isItems "items"]) }),
  ("NumberBox",
    { backend := .named "NumberBox"
      defaults := [("value", .null), ("enabled", .bool true), ("step", .int 1)]
      mapping := some [
        ("value", "value"), ("minimum", "min"), ("maximum", "max"), ("step", "step"),
        ("format", "decimal_places"), ("enabled", "enabled")]
      layoutSupported := true }),
  ("DatePicker",
    { backend := .named "DatePicker"
      defaults := [("date", .null), ("enabled", .bool true)]
      mapping := some [
        ("date", "date"), ("format", "format"), ("min_date", "min_date"),
        ("max_date", "max_date"), ("enabled", "enabled"), ("placeholder", "placeholder"),
        ("change", "on_change")]
      layoutSupported := true }),
  ("Image",
    { backend := .named "Image"
      defaults := [
        ("display_mode", .text "original_size"), ("horizontal_align", .text "left"),
        ("vertical_align", .text "top")]
      mapping := some [
        ("source", "source"), ("height", "height"), ("width", "width"),
        ("display_mode", "display_mode"), ("horizontal_align", "horizontal_align"),
        ("vertical_align", "vertical_align")]
      transforms := some [("width", pixelSize), ("height", pixelSize)]
      layoutSupported := true }),
  ("Plot",
    { backend := .named "Plot"
      defaults := [("height", .int 400)]
      mapping := some [
        ("figure", "figure"), ("layout", "layout"), ("data", "data"), ("config", "config")]
      layoutSupported := true }),
  ("RichText",
    { backend := .named "RichText"
      defaults := [("enabled", .bool true), ("format", .text "html")]
      mapping := some [
        ("content", "content"), ("placeholder", "placeholder"), ("enabled", "enabled"),
        ("format", "format")]
      layoutSupported := true }),
  ("FileLoader",
    { backend := .named "FileLoader"
      defaults := [("multiple", .bool false), ("align", .text "center")]
      mapping := some [
        ("file", "file"), ("multiple", "multiple"), ("file_types", "file_types"),
        ("placeholder", "placeholder"), ("change", "on_change")]
      layoutSupported := true }),
  ("Button",
    { backend := .named "Button"
      defaults := [
        ("enabled", .bool true), ("role", .text "primary-color"), ("variant", .text "contained"),
        ("size", .text "medium"), ("loading", .bool false)]
      mapping := some [
        ("text", "text"), ("enabled", "enabled"), ("role", "role"), ("icon", "icon"),
        ("icon_align", "icon_align"), ("variant", "variant"), ("size", "size"),
        ("loading", "loading"), ("loading_text", "loading_text"), ("click", "on_click")]
      layoutSupported := true
      check := some (checkAll [
        isText "text", isFlag "enabled", isOneOf "role" buttonRoles,
        isOneOf "variant" ["contained", "outlined", "text"],
        isOneOf "size" ["small", "medium", "large"]]) }),
  ("Link",
    { backend := .named "Link"
      defaults := [
        ("target", .text "_self"), ("underline", .text "hover"), ("navigate", .bool false)]
      mapping := some [
        ("text", "text"), ("url", "url"), ("target", "target"), ("form_name", "form_name"),
        ("navigate", "navigate"), ("underline", "underline"), ("click", "on_click")]
      layoutSupported := true
      check := some (checkAll [
        isOneOf "target" linkTargets, isOneOf "underline" ["none", "hover", "always"]]) }),
  ("Timer",
    { backend := .named "Timer"
      defaults := [("interval", .int 1000), ("enabled", .bool true), ("auto_start", .bool false)]
      mapping := some [
        ("interval", "interval"), ("enabled", "enabled"), ("auto_start", "auto_start")]
      layoutSupported := true
      check := some (checkAll [
        expect "interval" isPositiveNumber "interval must be a positive number"]) }),
  ("Notification",
    { backend := .named "Notification"
      defaults := [
        ("type", .text "info"), ("dismissible", .bool true), ("auto_hide", .bool false),
        ("duration", .int 5000), ("position", .text "top-right")]
      mapping := some [
        ("type", "type"), ("title", "title"), ("message", "message"),
        ("dismissible", "dismissible"), ("auto_hide", "auto_hide"), ("duration", "duration"),
        ("position", "position")]
      layoutSupported := true
      check := some (checkAll [
        isOneOf "type" ["info", "success", "warning", "error"],
        isOneOf "position" notificationPositions]) }),
  ("RepeatingPanel",
    { backend := .named "RepeatingPanel"
      defaults := [("items", .list [])]
      mapping := some [("items", "items"), ("item_template", "item_template")]
      layoutSupported := true
      check := some (checkAll [isItems "items"]) }),
  ("DataRowPanel",
    { backend := .named "DataRowPanel"
      defaults := [("selected", .bool false)]
      mapping := some [("selected", "selected"), ("select", "on_select")]
      layoutSupported := true
      check := some (checkAll [isFlag "selected"]) }),
  ("DataGrid",
    { backend := .named "DataGrid"
      defaults := [
        ("columns", .list []), ("rows", .list []), ("selected_rows", .list []),
        ("sort_order", .text "asc"), ("filterable", .bool false), ("paginated", .bool false),
        ("page_size", .int 10), ("current_page", .int 1)]
      mapping := some [
        ("columns", "columns"), ("rows", "rows"), ("selected_rows", "selected_rows"),
        ("sort_by", "sort_by"), ("sort_order", "sort_order"), ("filterable", "filterable"),
        ("paginated", "paginated"), ("page_size", "page_size"), ("current_page", "current_page")]
      layoutSupported := true
      check := some (checkAll [
        expect "columns" Value.isList "columns must be an array",
        expect "rows" Value.isList "rows must be an array",
        isOneOf "sort_order" ["asc", "desc"]]) })]

def registrations : List RegistryBuilder.Registration :=
  definitions.map fun (type, definition) => .builtin type definition

end Builtins

def Registry.standard : Registry :=
  Builtins.definitions.foldl
    (fun registry (type, definition) => registry.addBuiltin type definition) {}

end FormCompiler
