import FormCompiler.Proofs.Form.Comparison
import FormCompiler.Proofs.Form.Targets
import FormCompiler.Proofs.Value.Text

set_option autoImplicit false

namespace FormCompiler

theorem Diagnostic.severity_of_not_error {diagnostic : Diagnostic}
    (harmless : diagnostic.isError = false) : diagnostic.severity = .warning := by
  cases severity : diagnostic.severity with
  | warning => rfl
  | error => simp [isError, severity] at harmless

namespace Form

/-- The container's children, and the flat list where it is not equal to them. -/
def checkedTrees (form : Form) : List Component :=
  form.container.children ++
    if Component.sameAll form.components form.container.children then [] else form.components

-- The findings on the container, whose name is not looked at, and those on every component of the
-- checked trees.
def findings (registry : Registry) (options : FormOptions) (form : Form) : List Diagnostic :=
  let unknown := unknownSeverity options
  registry.nodeDiagnostics form.container false unknown ++
    (Component.placedAll 0 form.checkedTrees).flatMap fun entry =>
      registry.nodeDiagnostics entry.2 true unknown

def lostHandler (entry : String × Value) : Diagnostic where
  message := "Invalid event binding for '" ++ entry.1 ++ "': expected string, got "
    ++ entry.2.typeName
  severity := .warning
  file := some fileName

/-- One warning for each event of a document whose handler is no text. -/
def lostHandlers (document : Value) : List Diagnostic :=
  ((document.field "event_bindings").asBag.filter fun entry => !entry.2.isText).map lostHandler

theorem trees_eq_checkedTrees (form : Form) : form.trees = form.checkedTrees := by
  simp only [trees, checkedTrees]
  split <;> simp

theorem container_typed (document : Value) :
    (ofDocument document).container.type.isEmpty = false := by
  have named : defaultContainerType ≠ "" := by decide
  simpa [ofDocument, containerOf] using Value.asText_ne_empty _ named

theorem treeDiagnostics_eq_placed (registry : Registry) (unknown : Severity)
    (trees : List Component) :
    (trees.flatMap fun root => registry.treeDiagnostics root unknown) =
      (Component.placedAll 0 trees).flatMap fun entry =>
        registry.nodeDiagnostics entry.2 true unknown := by
  have walked := Component.placedAll_map_snd 0 trees
  rw [Component.preorderAll_eq_flatMap] at walked
  have mapped := congrArg
    (List.flatMap fun component => registry.nodeDiagnostics component true unknown) walked
  rw [List.flatMap_map, List.flatMap_assoc] at mapped
  exact mapped.symm

-- A form of a document always has a typed container, so that all its findings are those on single
-- components.
theorem componentDiagnostics_of_document (registry : Registry) (options : FormOptions)
    (document : Value) :
    (ofDocument document).componentDiagnostics registry options =
      (ofDocument document).findings registry options := by
  simp [componentDiagnostics, findings, Registry.containerDiagnostics, container_typed,
    treeDiagnostics_eq_placed, trees_eq_checkedTrees]

theorem omissions_warnings (document : Value) :
    (omissions document).filterMap Omission.warning? = lostHandlers document := by
  have silent (kind : Value → Omission) (quiet : ∀ item, (kind item).warning? = none)
      (items : List Value) : (items.map kind).filterMap Omission.warning? = [] := by
    simp [List.filterMap_map, quiet]
  have loud (entries : Bag) : (entries.map fun entry =>
      Omission.eventBinding entry.1 entry.2).filterMap Omission.warning? =
        entries.map lostHandler := by
    rw [List.filterMap_map, ← List.filterMap_eq_map]
    rfl
  simp only [omissions, List.filterMap_append, loud,
    silent .component fun _ => rfl, silent .dataBinding fun _ => rfl,
    silent .customEvent fun _ => rfl]
  simp [unboundEvents, lostHandlers]

theorem eventBindings_length (document : Value) :
    (ofDocument document).eventBindings.length + (lostHandlers document).length =
      (document.field "event_bindings").asBag.length := by
  simp only [ofDocument, eventBindingsOf, lostHandlers, List.length_map]
  induction (document.field "event_bindings").asBag with
  | nil => rfl
  | cons entry rest ih =>
    obtain ⟨event, handler⟩ := entry
    cases handler <;>
      simp [Value.isText, Value.kind, ← ih] <;> omega

theorem lostHandlers_severity {document : Value} {warning : Diagnostic}
    (lost : warning ∈ lostHandlers document) : warning.severity = .warning := by
  obtain ⟨entry, -, rfl⟩ := List.mem_map.mp lost
  rfl

section Report

variable (registry : Registry) (options : FormOptions) (document : Value)

theorem validate_of_document :
    (ofDocument document).validate registry options =
      { errors := ((ofDocument document).findings registry options).filter (·.isError)
        warnings := ((ofDocument document).findings registry options).filter (!·.isError)
          ++ (if options.checkEventBindings then (ofDocument document).handlerWarnings else [])
          ++ (if options.checkDataBindings then (ofDocument document).bindingWarnings else []) } := by
  rw [validate_eq, componentDiagnostics_of_document]

theorem documentWarnings_of_document :
    documentWarnings document ((ofDocument document).validate registry options) =
      lostHandlers document
        ++ ((ofDocument document).findings registry options).filter (!·.isError)
        ++ (if options.checkEventBindings then (ofDocument document).handlerWarnings else [])
        ++ (if options.checkDataBindings then (ofDocument document).bindingWarnings else []) := by
  simp [documentWarnings, validate_of_document, omissions_warnings]

theorem documentWarnings_severity {warning : Diagnostic}
    (member : warning ∈
      documentWarnings document ((ofDocument document).validate registry options)) :
    warning.severity = .warning := by
  rw [documentWarnings_of_document] at member
  simp only [List.mem_append, List.mem_filter, Bool.not_eq_true'] at member
  rcases member with ((lost | ⟨-, harmless⟩) | handler) | binding
  · exact lostHandlers_severity lost
  · exact Diagnostic.severity_of_not_error harmless
  · split at handler
    · exact Diagnostic.severity_of_not_error (handlerWarnings_not_errors handler)
    · cases handler
  · split at binding
    · exact Diagnostic.severity_of_not_error (bindingWarnings_not_errors binding)
    · cases binding

end Report

-- A handler that is no text, one that breaks the convention, and a component of an unknown type.
def gaugeText : String :=
  "event_bindings: {show: 1, hide: leave}\ncontainer:\n  components:\n  - type: Gauge\n"

-- Each list holds a component with a pair that leads back to the list around it.
def knottedText : String :=
  "components:\n- properties:\n    v: &x !!pairs [k: *x]\n"
    ++ "container:\n  components:\n  - properties:\n      v: &y !!pairs [k: *y]\n"

end Form

end FormCompiler
