import FormCompiler.Form.Basic
import FormCompiler.Reading
import FormCompiler.Text.Case
import FormCompiler.Tree.Build

set_option autoImplicit false

namespace FormCompiler

structure Settings where
  logLevel : String := "INFO"
  jsonLogs : Bool := false
  debug : Bool := false
  validateComponents : Bool := true
  maxTreeDepth : Int := 64
  allowCustomComponents : Bool := true
  checkEventBindings : Bool := true
  checkDataBindings : Bool := true
deriving Repr, DecidableEq

namespace Settings

def variableLead : List Char := "anvil_".toList

def ofVariables (environment : Entries String String) : List (Value × Value) :=
  (environment.filterMap fun (name, value) =>
    let name := (Text.lower name).toList
    if variableLead.isPrefixOf name then
      some (.text (String.ofList (name.drop variableLead.length)), .text value)
    else none).reverse

def deepestTree : Int := 512

def treeDepth (value : Value) : Checked Int :=
  (Reading.positive value).guard .tooLarge fun depth => depth ≤ deepestTree

def ofFields (fields : List (Value × Value)) : Checked Settings :=
  Settings.mk <$> Reading.withDefault fields "log_level" "INFO" Reading.text
    <*> Reading.withDefault fields "json_logs" false Reading.flag
    <*> Reading.withDefault fields "debug" false Reading.flag
    <*> Reading.withDefault fields "validate_components" true Reading.flag
    <*> Reading.withDefault fields "max_tree_depth" 64 treeDepth
    <*> Reading.withDefault fields "allow_custom_components" true Reading.flag
    <*> Reading.withDefault fields "validate_event_bindings" true Reading.flag
    <*> Reading.withDefault fields "validate_data_bindings" true Reading.flag

def read (environment : Entries String String) (arguments : List (Value × Value)) :
    Checked Settings :=
  ofFields (arguments ++ ofVariables environment)

/-- The checks that forms undergo. -/
def formOptions (settings : Settings) : FormOptions where
  allowCustomComponents := settings.allowCustomComponents
  checkDataBindings := settings.checkDataBindings
  checkEventBindings := settings.checkEventBindings

def buildOptions (settings : Settings) : BuildOptions where
  debug := settings.debug
  validate := settings.validateComponents
  maxDepth := settings.maxTreeDepth

end Settings

end FormCompiler
