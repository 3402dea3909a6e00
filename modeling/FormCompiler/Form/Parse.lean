import FormCompiler.Document
import FormCompiler.Form.OfDocument
import FormCompiler.Validation

set_option autoImplicit false

namespace FormCompiler

structure ParsedForm where
  form : Form
  warnings : List Diagnostic
  document : Document
deriving Repr

namespace Form

def noRegistryMessage : String := "parse_form_template requires a ComponentValidator"

/-- The warnings about a document: what was lost while reading, and what the checks found. -/
def documentWarnings (document : Value) (report : Report) : List Diagnostic :=
  (omissions document).filterMap Omission.warning? ++ report.warnings

def rejection (errors : List Diagnostic) : DocumentError :=
  { file := fileName
    message := "Form template validation errors: " ++ ", ".intercalate (errors.map (·.message))
    diagnostics := errors }

def endlessComparisonMessage : String := "maximum recursion depth exceeded in comparison"

-- No result if parts of the document keep the comparison of the two lists from an end.
def compareLists? (form : Form) (graph : Graph) : Option Bool :=
  some (form.components.length == form.container.children.length)
    <&&> Component.compareAll? graph.compareKnots? form.components form.container.children

/-- The form of a document, or the errors that the checks find in it; neither of them where the
comparison of the two component lists has no end. -/
def accept (registry : Registry) (options : FormOptions) (document : Document) :
    Except DocumentFailure ParsedForm :=
  let form := ofDocument document.value
  let report := form.validate registry options
  match form.compareLists? document.graph with
  | none => .error (.fault .recursion endlessComparisonMessage)
  | some _ =>
    if report.valid then .ok ⟨form, documentWarnings document.value report, document⟩
    else .error (.invalid (rejection report.errors))

def warningEntries (warnings : List Diagnostic) : List LogEntry :=
  if warnings.isEmpty then []
  else
    let messages := warnings.map fun warning => Value.text warning.message
    [⟨.warning, "form_template_warnings",
      [("count", .int warnings.length), ("warnings", .list messages)]⟩]

def errorEntries (errors : List Diagnostic) : List LogEntry :=
  if errors.isEmpty then []
  else
    let messages := errors.map fun error => Value.text error.message
    [⟨.error, "form_template_invalid", [("errors", .list messages)]⟩]

def parseEntries (registry : Registry) (options : FormOptions) (document : Document) :
    List LogEntry :=
  let form := ofDocument document.value
  let report := form.validate registry options
  (omissions document.value).map Omission.entry ++
    match form.compareLists? document.graph with
    | none => registry.nodeEntries form.container
    | some _ =>
      form.validationEntries registry
        ++ warningEntries (documentWarnings document.value report) ++ errorEntries report.errors

/-- Parses a text within the scope of its file. -/
def parse (registry : Option Registry) (options : FormOptions) (maxDepth : Int) (text : String) :
    Logged (Except DocumentFailure ParsedForm) :=
  match registry with
  | none => return .error (.fault .runtime noRegistryMessage)
  | some registry =>
    Logged.within [("file", .text fileName)] do
      match Document.read text fileName maxDepth with
      | .error failure => return .error failure
      | .ok document =>
        Logged.writeAll (parseEntries registry options document)
        return accept registry options document

end Form

end FormCompiler
