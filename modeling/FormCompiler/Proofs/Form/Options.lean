import FormCompiler.Proofs.Form.Outcome

set_option autoImplicit false

namespace FormCompiler

-- A finding as it is while unknown types count as errors, and whether it is one that options can
-- make a mere warning: that the type of a component is missing or unknown.
structure Finding where
  diagnostic : Diagnostic
  untyped : Bool

namespace Finding

def under (unknown : Severity) (finding : Finding) : Diagnostic :=
  if finding.untyped then { finding.diagnostic with severity := unknown } else finding.diagnostic

end Finding

namespace Registry

variable (registry : Registry) (component : Component)

def missingType : Diagnostic :=
  .ofError ("Component '" ++ component.name.render ++ "' missing type")

def unknownType : Diagnostic :=
  .ofError ("Unknown component type: " ++ component.type)

def isUntyped : Bool :=
  component.type.isEmpty || (registry.get? component.type).isNone

def nodeFindings : List Finding :=
  (registry.typeDiagnostics .error component).map (⟨·, registry.isUntyped component⟩)
    ++ (nameDiagnostics component).map (⟨·, false⟩)

def rootFindings : List Finding :=
  if component.type.isEmpty then [⟨.ofError "Container type is required", false⟩]
  else (registry.typeDiagnostics .error component).map (⟨·, registry.isUntyped component⟩)

variable {registry component}

theorem typeDiagnostics_of_empty (missing : component.type.isEmpty = true) (unknown : Severity) :
    registry.typeDiagnostics unknown component =
      [{ missingType component with severity := unknown }] := by
  simp [typeDiagnostics, missing, missingType, Diagnostic.ofError]

theorem typeDiagnostics_of_unknown (given : component.type.isEmpty = false)
    (nowhere : registry.get? component.type = none) (unknown : Severity) :
    registry.typeDiagnostics unknown component =
      [{ unknownType component with severity := unknown }] := by
  simp [typeDiagnostics, given, nowhere, unknownType, Diagnostic.ofError]

theorem typeDiagnostics_of_typed (typed : registry.isUntyped component = false)
    (unknown : Severity) :
    registry.typeDiagnostics unknown component = registry.typeDiagnostics .error component := by
  simp only [isUntyped, Bool.or_eq_false_iff, Option.isNone_eq_false_iff] at typed
  obtain ⟨given, found⟩ := typed
  obtain ⟨definition, found⟩ := Option.isSome_iff_exists.mp found
  simp [typeDiagnostics, given, found]

variable (registry component)

theorem typeDiagnostics_under (unknown : Severity) :
    ((registry.typeDiagnostics .error component).map
        fun diagnostic => Finding.under unknown ⟨diagnostic, registry.isUntyped component⟩) =
      registry.typeDiagnostics unknown component := by
  cases untyped : registry.isUntyped component with
  | false => simp [Finding.under, typeDiagnostics_of_typed untyped unknown]
  | true =>
    by_cases missing : component.type.isEmpty = true
    · simp [Finding.under, typeDiagnostics_of_empty missing]
    · have nowhere : registry.get? component.type = none := by
        simpa [isUntyped, missing] using untyped
      have given : component.type.isEmpty = false := by simpa using missing
      simp [Finding.under, typeDiagnostics_of_unknown given nowhere]

theorem nodeFindings_under (unknown : Severity) :
    (registry.nodeFindings component).map (Finding.under unknown) =
      registry.nodeDiagnostics component true unknown := by
  have names : (nameDiagnostics component).map (fun diagnostic =>
      Finding.under unknown ⟨diagnostic, false⟩) = nameDiagnostics component := by
    simp [Finding.under]
  simp [nodeFindings, nodeDiagnostics, ← typeDiagnostics_under registry component unknown, names,
    Function.comp_def]

theorem rootFindings_under (unknown : Severity) :
    (registry.rootFindings component).map (Finding.under unknown) =
      registry.containerDiagnostics unknown component := by
  by_cases missing : component.type.isEmpty = true
  · simp [rootFindings, containerDiagnostics, missing, Finding.under]
  · simp [rootFindings, containerDiagnostics, missing, nodeDiagnostics,
      ← typeDiagnostics_under registry component unknown, Function.comp_def]

theorem typeFindings_untyped :
    ((registry.typeDiagnostics .error component).map
        fun diagnostic => (⟨diagnostic, registry.isUntyped component⟩ : Finding)).filter (·.untyped) =
      if component.type.isEmpty then [⟨missingType component, true⟩]
      else if (registry.get? component.type).isNone then [⟨unknownType component, true⟩]
      else [] := by
  by_cases missing : component.type.isEmpty = true
  · simp [typeDiagnostics_of_empty missing, isUntyped, missing, missingType, Diagnostic.ofError]
  · have given : component.type.isEmpty = false := by simpa using missing
    cases found : registry.get? component.type with
    | none => simp [typeDiagnostics_of_unknown given found, isUntyped, given, found, unknownType,
        Diagnostic.ofError]
    | some definition => simp [isUntyped, given, found]

theorem nodeFindings_untyped :
    (registry.nodeFindings component).filter (·.untyped) =
      if component.type.isEmpty then [⟨missingType component, true⟩]
      else if (registry.get? component.type).isNone then [⟨unknownType component, true⟩]
      else [] := by
  have names : ((nameDiagnostics component).map fun diagnostic =>
      (⟨diagnostic, false⟩ : Finding)).filter (·.untyped) = [] := by
    simp
  rw [nodeFindings, List.filter_append, typeFindings_untyped, names, List.append_nil]

theorem rootFindings_untyped :
    (registry.rootFindings component).filter (·.untyped) =
      if !component.type.isEmpty && (registry.get? component.type).isNone then
        [⟨unknownType component, true⟩]
      else [] := by
  by_cases missing : component.type.isEmpty = true
  · simp [rootFindings, missing]
  · rw [rootFindings, if_neg missing, typeFindings_untyped, if_neg missing]
    simp [missing]

end Registry

namespace Form

variable (registry : Registry) (form : Form)

def walkFindings : List Finding :=
  registry.rootFindings form.container ++
    (Component.placedAll 0 form.checkedTrees).flatMap fun entry => registry.nodeFindings entry.2

theorem walkFindings_under (options : FormOptions) :
    (form.walkFindings registry).map (Finding.under (unknownSeverity options)) =
      form.componentDiagnostics registry options := by
  simp only [walkFindings, componentDiagnostics, List.map_append, List.map_flatMap,
    Registry.rootFindings_under, Registry.nodeFindings_under, treeDiagnostics_eq_placed,
    trees_eq_checkedTrees]

theorem walkFindings_untyped_isError {finding : Finding}
    (member : finding ∈ form.walkFindings registry) (untyped : finding.untyped = true) :
    finding.diagnostic.isError = true := by
  have among : finding ∈ (form.walkFindings registry).filter (·.untyped) :=
    List.mem_filter.mpr ⟨member, untyped⟩
  simp only [walkFindings, List.filter_append, List.filter_flatMap,
    Registry.rootFindings_untyped, Registry.nodeFindings_untyped, List.mem_append,
    List.mem_flatMap] at among
  rcases among with root | ⟨entry, -, node⟩
  · split at root
    · cases List.mem_singleton.mp root
      rfl
    · cases root
  · split at node
    · cases List.mem_singleton.mp node
      rfl
    split at node
    · cases List.mem_singleton.mp node
      rfl
    · cases node

theorem validate_of_walk (options : FormOptions) :
    form.validate registry options =
      { errors := ((form.walkFindings registry).map
          (Finding.under (unknownSeverity options))).filter (·.isError)
        warnings := ((form.walkFindings registry).map
          (Finding.under (unknownSeverity options))).filter (!·.isError)
            ++ (if options.checkEventBindings then form.handlerWarnings else [])
            ++ (if options.checkDataBindings then form.bindingWarnings else []) } := by
  rw [validate_eq, walkFindings_under]

end Form

namespace Finding

variable (finding : Finding)

theorem under_error (errors : finding.untyped = true → finding.diagnostic.isError = true) :
    finding.under .error = finding.diagnostic := by
  cases untyped : finding.untyped with
  | false => simp [under, untyped]
  | true =>
    have isError := errors untyped
    simp only [Diagnostic.isError, beq_iff_eq] at isError
    simp [under, untyped, ← isError]

theorem under_warning_isError :
    (finding.under .warning).isError = (finding.diagnostic.isError && !finding.untyped) := by
  cases untyped : finding.untyped <;> simp [under, untyped, Diagnostic.isError]

theorem under_warning_of_typed (typed : finding.untyped = false) :
    finding.under .warning = finding.diagnostic := by
  simp [under, typed]

end Finding

namespace Form

section Reports

variable (registry : Registry) (form : Form) (handlers bindings : Bool)

def askedWarnings : List Diagnostic :=
  (if handlers then form.handlerWarnings else [])
    ++ (if bindings then form.bindingWarnings else [])

theorem validate_strict :
    form.validate registry
        { allowCustomComponents := false, checkEventBindings := handlers,
          checkDataBindings := bindings } =
      { errors := ((form.walkFindings registry).filter (·.diagnostic.isError)).map (·.diagnostic)
        warnings := ((form.walkFindings registry).filter (!·.diagnostic.isError)).map (·.diagnostic)
          ++ form.askedWarnings handlers bindings } := by
  -- What options can move is an error, so that it is found as what it counts as.
  have asFound : (form.walkFindings registry).map (Finding.under .error) =
      (form.walkFindings registry).map (·.diagnostic) := by
    apply List.map_congr_left
    intro finding member
    exact finding.under_error (walkFindings_untyped_isError registry form member)
  rw [validate_of_walk]
  simp only [unknownSeverity, Bool.false_eq_true, if_false, asFound, List.filter_map,
    askedWarnings, List.append_assoc, Function.comp_def]

theorem validate_lenient :
    form.validate registry
        { allowCustomComponents := true, checkEventBindings := handlers,
          checkDataBindings := bindings } =
      { errors := ((form.walkFindings registry).filter fun finding =>
          finding.diagnostic.isError && !finding.untyped).map (·.diagnostic)
        warnings := ((form.walkFindings registry).filter fun finding =>
          !finding.diagnostic.isError || finding.untyped).map (Finding.under .warning)
            ++ form.askedWarnings handlers bindings } := by
  -- An error stays an error only if it is not about a missing or unknown type.
  have kept : ((form.walkFindings registry).filter fun finding =>
        finding.diagnostic.isError && !finding.untyped).map (Finding.under .warning) =
      ((form.walkFindings registry).filter fun finding =>
        finding.diagnostic.isError && !finding.untyped).map (·.diagnostic) := by
    apply List.map_congr_left
    intro finding member
    have typed := (List.mem_filter.mp member).2
    exact finding.under_warning_of_typed (by simp_all)
  rw [validate_of_walk]
  simp only [unknownSeverity, if_true, List.filter_map, askedWarnings, List.append_assoc,
    Function.comp_def, Finding.under_warning_isError, Bool.not_and, Bool.not_not, kept]

theorem validate_lenient_of_valid
    (valid : (form.validate registry
      { allowCustomComponents := false, checkEventBindings := handlers,
        checkDataBindings := bindings }).valid = true) :
    form.validate registry
        { allowCustomComponents := true, checkEventBindings := handlers,
          checkDataBindings := bindings } =
      form.validate registry
        { allowCustomComponents := false, checkEventBindings := handlers,
          checkDataBindings := bindings } := by
  have harmless : ∀ finding ∈ form.walkFindings registry, finding.diagnostic.isError = false := by
    simpa [validate_strict, Report.valid, List.filter_eq_nil_iff] using valid
  have typed : ∀ finding ∈ form.walkFindings registry, finding.untyped = false := by
    intro finding member
    by_contra untyped
    have isError := walkFindings_untyped_isError registry form member (by simpa using untyped)
    rw [harmless finding member] at isError
    cases isError
  have same : (form.walkFindings registry).map (Finding.under .error) =
      (form.walkFindings registry).map (Finding.under .warning) := by
    apply List.map_congr_left
    intro finding member
    simp [Finding.under, typed finding member]
  rw [validate_of_walk, validate_of_walk]
  simp [unknownSeverity, same]

end Reports

/-- The reports on one form under all options. The checks of bindings only add their warnings behind
the others. Allowing custom components moves, out of the errors and into their places among the
warnings, the findings that a type below the container is missing or unknown, and that the container's
is unknown. So a form that is valid while unknown types are errors has the same report when they are
not. -/
theorem validate_by_options (registry : Registry) (form : Form) :
    let nodes := Component.placedAll 0 form.checkedTrees
    let walk := registry.rootFindings form.container ++
      nodes.flatMap fun entry => registry.nodeFindings entry.2
    ((nodes.map Prod.fst).Pairwise (· < ·) ∧
      ∀ position component, (position, component) ∈ nodes ↔
        Component.atAll? form.checkedTrees position = some component) ∧
    ((registry.rootFindings form.container).filter (·.untyped) =
      if !form.container.type.isEmpty && (registry.get? form.container.type).isNone then
        [⟨Registry.unknownType form.container, true⟩]
      else []) ∧
    (∀ component, (registry.nodeFindings component).filter (·.untyped) =
      if component.type.isEmpty then [⟨Registry.missingType component, true⟩]
      else if (registry.get? component.type).isNone then [⟨Registry.unknownType component, true⟩]
      else []) ∧
    ∀ handlers bindings,
      let strict := form.validate registry
        { allowCustomComponents := false, checkEventBindings := handlers,
          checkDataBindings := bindings }
      let lenient := form.validate registry
        { allowCustomComponents := true, checkEventBindings := handlers,
          checkDataBindings := bindings }
      let added := (if handlers then form.handlerWarnings else [])
        ++ (if bindings then form.bindingWarnings else [])
      strict.errors = (walk.filter (·.diagnostic.isError)).map (·.diagnostic) ∧
      strict.warnings = (walk.filter (!·.diagnostic.isError)).map (·.diagnostic) ++ added ∧
      lenient.errors =
        (walk.filter fun finding => finding.diagnostic.isError && !finding.untyped).map
          (·.diagnostic) ∧
      lenient.warnings =
        (walk.filter fun finding => !finding.diagnostic.isError || finding.untyped).map
          (Finding.under .warning) ++ added ∧
      (strict.valid = true → lenient.valid = true ∧ lenient.warnings = strict.warnings) := by
  intro nodes walk
  refine ⟨⟨Component.placedAll_sorted 0 _, Component.mem_placedAll_iff _⟩,
    registry.rootFindings_untyped _, registry.nodeFindings_untyped, ?_⟩
  intro handlers bindings strict lenient added
  have strictly := form.validate_strict registry handlers bindings
  have leniently := form.validate_lenient registry handlers bindings
  refine ⟨?_, ?_, ?_, ?_, ?_⟩
  · exact congrArg Report.errors strictly
  · exact congrArg Report.warnings strictly
  · exact congrArg Report.errors leniently
  · exact congrArg Report.warnings leniently
  · intro valid
    have same : lenient = strict := form.validate_lenient_of_valid registry handlers bindings valid
    exact ⟨same ▸ valid, same ▸ rfl⟩

def namelessForm : Form where
  container := { type := "ColumnPanel", children := [{ type := "Label" }] }
  eventBindings := [("show", "open")]

theorem validate_by_options_namelessForm :
    let strict := namelessForm.validate .standard { checkEventBindings := true }
    let lenient := namelessForm.validate .standard
      { allowCustomComponents := true, checkEventBindings := true }
    strict.valid = true ∧ lenient.valid = true ∧ lenient.warnings = strict.warnings ∧
      strict.warnings.map (·.message) = ["Component of type 'Label' missing name",
        "Event handler 'open' for 'show' doesn't follow 'self.' convention"] := by
  intro strict lenient
  have valid : strict.valid = true := by decide +kernel
  obtain ⟨-, -, -, reports⟩ := validate_by_options .standard namelessForm
  obtain ⟨-, -, -, -, same⟩ := reports true false
  exact ⟨valid, (same valid).1, (same valid).2, by decide +kernel⟩

end Form

end FormCompiler
