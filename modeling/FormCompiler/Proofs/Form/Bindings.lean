import FormCompiler.Proofs.Form.Accepted

set_option autoImplicit false

namespace FormCompiler.Form

def breaksConvention (binding : String × String) : Bool :=
  !handlerLead.toList.isPrefixOf binding.2.toList

theorem breaksConvention_eq_false_iff (binding : String × String) :
    breaksConvention binding = false ↔ ∃ rest, binding.2 = handlerLead ++ rest := by
  rw [breaksConvention, Bool.not_eq_false', List.isPrefixOf_iff_prefix]
  constructor
  · rintro ⟨rest, parts⟩
    refine ⟨String.ofList rest, String.toList_injective ?_⟩
    rw [← parts, String.toList_append, String.toList_ofList]
  · rintro ⟨rest, parts⟩
    exact ⟨rest.toList, by rw [parts, String.toList_append]⟩

def offConvention (binding : String × String) : Diagnostic where
  message := "Event handler '" ++ binding.2 ++ "' for '" ++ binding.1
    ++ "' doesn't follow '" ++ handlerLead ++ "' convention"
  severity := .warning

theorem handlerWarnings_eq (form : Form) :
    form.handlerWarnings = (form.eventBindings.filter breaksConvention).map offConvention := by
  have warning (event handler : String) :
      Diagnostic.ofWarning ("Event handler '" ++ handler ++ "' for '" ++ event
        ++ "' doesn't follow '" ++ handlerLead ++ "' convention") =
        offConvention (event, handler) := rfl
  simp only [handlerWarnings, warning]
  induction form.eventBindings with
  | nil => rfl
  | cons binding rest ih =>
    rw [List.filterMap_cons, List.filter_cons, ih]
    cases follows : handlerLead.toList.isPrefixOf binding.2.toList <;>
      simp [breaksConvention, follows]

theorem handlerWarnings_filter (form : Form) :
    form.handlerWarnings.filter (·.isError) = [] ∧
      form.handlerWarnings.filter (!·.isError) = form.handlerWarnings := by
  rw [List.filter_eq_nil_iff, List.filter_eq_self]
  constructor
  · intro diagnostic found
    simp [handlerWarnings_not_errors found]
  · intro diagnostic found
    simp [handlerWarnings_not_errors found]

theorem bindingWarnings_filter (form : Form) :
    form.bindingWarnings.filter (·.isError) = [] ∧
      form.bindingWarnings.filter (!·.isError) = form.bindingWarnings := by
  rw [List.filter_eq_nil_iff, List.filter_eq_self]
  constructor
  · intro diagnostic found
    simp [bindingWarnings_not_errors found]
  · intro diagnostic found
    simp [bindingWarnings_not_errors found]

-- The bindings add to the warnings of the components and never to their errors.
theorem validate_eq (registry : Registry) (options : FormOptions) (form : Form) :
    form.validate registry options =
      { errors := (form.componentDiagnostics registry options).filter (·.isError)
        warnings := (form.componentDiagnostics registry options).filter (!·.isError)
          ++ (if options.checkEventBindings then form.handlerWarnings else [])
          ++ (if options.checkDataBindings then form.bindingWarnings else []) } := by
  obtain ⟨handlerErrors, handlers⟩ := form.handlerWarnings_filter
  obtain ⟨bindingErrors, bindings⟩ := form.bindingWarnings_filter
  rw [validate, Report.extend_eq]
  cases options.checkEventBindings <;> cases options.checkDataBindings <;>
    simp [handlerErrors, handlers, bindingErrors, bindings]

end FormCompiler.Form
