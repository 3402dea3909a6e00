import FormCompiler.Value.Basic

set_option autoImplicit false

namespace FormCompiler

inductive Severity where
  | error
  | warning
deriving Repr, DecidableEq

def Severity.name : Severity → String
  | .error => "error"
  | .warning => "warning"

structure Diagnostic where
  message : String
  severity : Severity := .error
  file : Option String := none
  line : Option Int := none
  column : Option Int := none
deriving Repr, DecidableEq

namespace Diagnostic

def isError (diagnostic : Diagnostic) : Bool := diagnostic.severity == .error

def text (diagnostic : Diagnostic) : String :=
  match diagnostic.file with
  | none => diagnostic.message
  | some file =>
    let place :=
      match diagnostic.line, diagnostic.column with
      | none, _ => file
      | some line, none => s!"{file}:{line}"
      | some line, some column => s!"{file}:{line}:{column}"
    place ++ ": " ++ diagnostic.message

def toBag (diagnostic : Diagnostic) : Bag := [
  ("message", .text diagnostic.message),
  ("severity", .text diagnostic.severity.name),
  ("file", .ofText? diagnostic.file),
  ("line", .ofInt? diagnostic.line),
  ("column", .ofInt? diagnostic.column)]

end Diagnostic

/-- Errors and warnings of one document or tree, each in the order found. -/
structure Report where
  errors : List Diagnostic := []
  warnings : List Diagnostic := []
deriving Repr, DecidableEq

namespace Report

def valid (report : Report) : Bool := report.errors.isEmpty

def add (report : Report) (diagnostic : Diagnostic) : Report :=
  if diagnostic.isError then { report with errors := report.errors ++ [diagnostic] }
  else { report with warnings := report.warnings ++ [diagnostic] }

def extend (report : Report) (diagnostics : List Diagnostic) : Report :=
  diagnostics.foldl add report

def errorMessages (report : Report) : List String := report.errors.map (·.message)
def warningMessages (report : Report) : List String := report.warnings.map (·.message)

theorem extend_eq (report : Report) (diagnostics : List Diagnostic) :
    report.extend diagnostics =
      { errors := report.errors ++ diagnostics.filter (·.isError)
        warnings := report.warnings ++ diagnostics.filter (!·.isError) } := by
  unfold extend
  induction diagnostics generalizing report with
  | nil => simp
  | cons diagnostic rest ih =>
    rw [List.foldl_cons, ih]
    cases h : diagnostic.isError <;> simp [add, h]

end Report

end FormCompiler
