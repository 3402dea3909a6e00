import FormCompiler.Form.Parse
import FormCompiler.Proofs.Document.Reading
import FormCompiler.Proofs.Tree.Exposed

set_option autoImplicit false

namespace FormCompiler

namespace Form

theorem parse_run (registry : Registry) (options : FormOptions) (maxDepth : Int) (text : String)
    (journal : Journal) :
    ((parse (some registry) options maxDepth text).run journal).1 =
      match Document.read text fileName maxDepth with
      | .error failure => .error failure
      | .ok document => accept registry options document := by
  simp only [parse, Logged.within]
  cases Document.read text fileName maxDepth <;> rfl

theorem parsed_of_parse {registry : Registry} {options : FormOptions} {maxDepth : Int}
    {text : String} {journal : Journal} {parsed : ParsedForm}
    (parses : ((parse (some registry) options maxDepth text).run journal).1 = .ok parsed) :
    ∃ document, Document.read text fileName maxDepth = .ok document ∧
      ((ofDocument document.value).validate registry options).valid = true ∧
      parsed = ⟨ofDocument document.value,
        documentWarnings document.value ((ofDocument document.value).validate registry options),
        document⟩ := by
  rw [parse_run] at parses
  split at parses
  · cases parses
  next document found =>
  simp only [accept] at parses
  split at parses
  · cases parses
  · split at parses
    · next valid =>
      cases parses
      exact ⟨document, found, valid, rfl⟩
    · cases parses

theorem of_parse {registry : Registry} {options : FormOptions} {maxDepth : Int} {text : String}
    {journal : Journal} {parsed : ParsedForm}
    (parses : ((parse (some registry) options maxDepth text).run journal).1 = .ok parsed) :
    ∃ document, Document.read text fileName maxDepth = .ok document ∧
      parsed.form = ofDocument document.value ∧
      (parsed.form.validate registry options).valid = true := by
  obtain ⟨document, found, valid, rfl⟩ := parsed_of_parse parses
  exact ⟨document, found, rfl, valid⟩

theorem handlerWarnings_not_errors {form : Form} {diagnostic : Diagnostic}
    (found : diagnostic ∈ form.handlerWarnings) : diagnostic.isError = false := by
  obtain ⟨entry, -, given⟩ := List.mem_filterMap.mp found
  simp only at given
  split at given
  · cases given
  · cases given
    rfl

theorem bindingWarnings_not_errors {form : Form} {diagnostic : Diagnostic}
    (found : diagnostic ∈ form.bindingWarnings) : diagnostic.isError = false := by
  obtain ⟨entry, -, given⟩ := List.mem_filterMap.mp found
  split at given
  · cases given
  · cases given
    rfl

theorem validate_valid_iff (registry : Registry) (options : FormOptions) (form : Form) :
    (form.validate registry options).valid = true ↔
      ∀ diagnostic ∈ form.componentDiagnostics registry options, diagnostic.isError = false := by
  simp only [validate, Report.extend_eq, Report.valid, List.nil_append, List.isEmpty_iff,
    List.filter_eq_nil_iff, List.mem_append, Bool.not_eq_true]
  constructor
  · intro clean diagnostic found
    exact clean diagnostic (.inl (.inl found))
  · rintro clean diagnostic ((found | found) | found)
    · exact clean diagnostic found
    · split at found
      · exact handlerWarnings_not_errors found
      · cases found
    · split at found
      · exact bindingWarnings_not_errors found
      · cases found

theorem children_subset_trees (form : Form) : form.container.children ⊆ form.trees := by
  intro child member
  simp only [trees]
  split
  · exact member
  · exact List.mem_append_left _ member

theorem container_name_of_document (document : Value) :
    (ofDocument document).container.name.isNull = false := by
  simp only [ofDocument, containerOf]
  split
  · rfl
  · next named => simpa using named

structure Accepted (registry : Registry) (form : Form) : Prop where
  named : form.container.name.isNull = false
  rooted : (registry.containerDiagnostics .error form.container).all (!·.isError) = true
  below : ∀ child ∈ form.container.children, ∀ component ∈ child.preorder,
    registry.errorMessages component = []

theorem accepted_of_parse {registry : Registry} {options : FormOptions} {maxDepth : Int}
    {text : String} {journal : Journal} {parsed : ParsedForm}
    (strict : options.allowCustomComponents = false)
    (parses : ((parse (some registry) options maxDepth text).run journal).1 = .ok parsed) :
    parsed.form.Accepted registry ∧ 0 ≤ maxDepth := by
  obtain ⟨document, found, form, valid⟩ := of_parse parses
  -- Unknown types count as errors, as they do for a build.
  have severity : unknownSeverity options = .error := by simp [unknownSeverity, strict]
  have clean := (validate_valid_iff registry options _).mp valid
  simp only [componentDiagnostics, severity, List.mem_append, List.mem_flatMap] at clean
  refine ⟨⟨?_, ?_, ?_⟩, Document.limit_nonneg found⟩
  · rw [form]
    exact container_name_of_document _
  · simp only [List.all_eq_true, Bool.not_eq_true']
    exact fun diagnostic member => clean diagnostic (.inl member)
  · intro child member
    refine (registry.treeDiagnostics_clean_iff child).mp fun diagnostic inside => ?_
    exact clean diagnostic (.inr ⟨child, children_subset_trees _ member, inside⟩)

theorem nameDiagnostics_errors {component : Component} (named : component.name.isNull = false) :
    ((Registry.nameDiagnostics component).filter (·.isError)).map (·.message) =
      if component.name.isText then [] else ["Component name must be a string"] := by
  simp only [Registry.nameDiagnostics]
  cases name : component.name with
  | null => simp [name, Value.isNull] at named
  | text chars =>
    -- A missing name is a mere warning.
    dsimp only
    split <;> rfl
  | _ => rfl

theorem Accepted.errorMessages_container {registry : Registry} {form : Form}
    (accepted : form.Accepted registry) :
    registry.errorMessages form.container =
      if form.container.name.isText then [] else ["Component name must be a string"] := by
  obtain ⟨named, rooted, -⟩ := accepted
  have typed : form.container.type.isEmpty = false := by
    cases untyped : form.container.type.isEmpty with
    | false => rfl
    | true => simp [Registry.containerDiagnostics, untyped, Diagnostic.ofError,
        Diagnostic.isError] at rooted
  have clean : (registry.typeDiagnostics .error form.container).filter (·.isError) = [] := by
    simpa [Registry.containerDiagnostics, typed, Registry.nodeDiagnostics,
      List.filter_eq_nil_iff] using rooted
  simp only [Registry.errorMessages, Registry.nodeDiagnostics, if_true, List.filter_append, clean,
    List.nil_append]
  exact nameDiagnostics_errors named

end Form

namespace TreeBuilder

-- Whether a component was turned down by the checks or by the registry, and not for its depth or
-- its conversions.
def BuildFailure.isRejection : BuildFailure → Bool
  | .invalid _ | .unresolved _ => true
  | .tooDeep _ | .unmapped _ => false

/-- In the tree of a form, a failure node stands for a component that was turned down. -/
def Rejects (builder : TreeBuilder) (form : Form) (name : Option String) (position : List Nat) :
    Prop :=
  ∃ tree source failure,
    (builder.buildForm form name).root.at? position = some tree ∧ tree.isFailure = true ∧
      form.container.at? position = some source ∧
      builder.Prevented name position.length source failure ∧ failure.isRejection = true

theorem Prevented.errorMessages_of_rejection {builder : TreeBuilder} {form : Option String}
    {depth : Int} {component : Component} {failure : BuildFailure}
    (prevented : builder.Prevented form depth component failure)
    (rejection : failure.isRejection = true) :
    builder.registry.errorMessages component ≠ [] := by
  cases prevented with
  | tooDeep => cases rejection
  | invalid _ _ faulty => exact faulty
  | unresolved _ _ unknown => exact builder.registry.errorMessages_ne_nil_of_unresolved unknown
  | unmapped => cases rejection

/-- A form that was accepted while unknown types count as errors is built without a failure of the
checks or of the registry anywhere below its container. The container itself is turned down exactly
if it has a name that is no text: the parser lets such a name pass. -/
theorem accepted_rejects_iff (registry : Registry) (options : FormOptions) (maxDepth : Int)
    (text : String) (journal : Journal) (parsed : ParsedForm) (builder : TreeBuilder)
    (name : Option String) (strict : options.allowCustomComponents = false)
    (parses : ((Form.parse (some registry) options maxDepth text).run journal).1 = .ok parsed)
    (same : builder.registry = registry) (checked : builder.options.validate = true)
    (room : maxDepth ≤ builder.options.maxDepth) (position : List Nat) :
    (builder.Rejects parsed.form name position ↔
        position = [] ∧ parsed.form.container.name.isText = false) ∧
      (parsed.form.container.name.isText = false →
        (builder.buildForm parsed.form name).errors = ["Component name must be a string"]) := by
  subst same
  obtain ⟨accepted, nonneg⟩ := Form.accepted_of_parse strict parses
  have within : (0 : Int) ≤ builder.options.maxDepth := by omega
  have container := accepted.errorMessages_container
  have atRoot : parsed.form.container.name.isText = false →
      builder.Prevented name 0 parsed.form.container
        (.invalid ["Component name must be a string"]) := by
    intro untexted
    have shown : builder.registry.errorMessages parsed.form.container =
        ["Component name must be a string"] := by simpa [untexted] using container
    rw [← shown]
    exact .invalid within checked (by simp [shown])
  refine ⟨⟨?_, ?_⟩, ?_⟩
  · rintro ⟨-, source, failure, -, -, found, prevented, rejection⟩
    have faulty := prevented.errorMessages_of_rejection rejection
    cases position with
    | nil =>
      cases found
      refine ⟨rfl, ?_⟩
      by_contra texted
      simp [container, texted] at faulty
    | cons index rest =>
      -- Below the container the parser has checked the component in the same way.
      rw [Component.at?_cons, Option.bind_eq_some_iff] at found
      obtain ⟨child, isChild, below⟩ := found
      exact absurd (accepted.below child (List.mem_of_getElem? isChild) source
        (Component.mem_preorder_of_at? below)) faulty
  · rintro ⟨rfl, untexted⟩
    have prevented := atRoot untexted
    refine ⟨_, parsed.form.container, _, rfl, ?_, rfl, prevented, rfl⟩
    change (builder.tree name 0 containerKey parsed.form.container).isFailure = true
    rw [tree_eq, prevented.prepare_eq]
    rfl
  · intro untexted
    change builder.reports name 0 containerKey parsed.form.container = _
    rw [reports_eq, (atRoot untexted).prepare_eq]
    rfl

theorem accepted_rejects_numbered :
    ∃ parsed, ((Form.parse (some .standard) {} 64 "container:\n  name: 5\n").run {}).1 =
        .ok parsed ∧
      TreeBuilder.Rejects ⟨.standard, {}⟩ parsed.form none [] ∧
      (TreeBuilder.buildForm ⟨.standard, {}⟩ parsed.form none).errors =
        ["Component name must be a string"] := by
  have named : (((Form.parse (some .standard) {} 64 "container:\n  name: 5\n").run
      {}).1.toOption.map fun parsed => parsed.form.container.name.isText) = some false := by
    decide +kernel
  obtain ⟨parsed, parses, untexted⟩ := exists_ok_of_map named
  have rejected := accepted_rejects_iff .standard {} 64 _ {} parsed ⟨.standard, {}⟩ none rfl parses
    rfl rfl (by decide) []
  exact ⟨parsed, parses, rejected.1.mpr ⟨rfl, untexted⟩, rejected.2 untexted⟩

end TreeBuilder

end FormCompiler
