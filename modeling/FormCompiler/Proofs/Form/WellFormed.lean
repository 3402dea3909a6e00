import FormCompiler.Proofs.Form.Outcome
import FormCompiler.Proofs.Form.Coverage

set_option autoImplicit false

namespace FormCompiler

namespace Value

theorem asText?_ne_empty (value : Value) : value.asText? ≠ some "" := by
  intro empty
  simp only [asText?] at empty
  split at empty
  · cases empty
  next given =>
  have same : value.asText "" = "" := Option.some.inj empty
  simp [same] at given

theorem ne_empty_of_asText? {value : Value} {chars : String} (found : value.asText? = some chars) :
    chars ≠ "" := by
  rintro rfl
  exact value.asText?_ne_empty found

end Value

namespace Component

-- A name that is missing in the document is empty here, and is a text then.
structure Named (component : Component) : Prop where
  typed : component.type ≠ ""
  given : component.name.isNull = false

structure WellFormed (component : Component) : Prop where
  typed : component.type ≠ ""
  named : component.name.isText = true

theorem ofList_named : ∀ value : Value, ∀ component ∈ preorderAll (ofList value), Named component := by
  have cons {component : Component} {rest : List Component} (own : Named component)
      (children : ∀ below ∈ preorderAll component.children, Named below)
      (others : ∀ later ∈ preorderAll rest, Named later) :
      ∀ any ∈ preorderAll (component :: rest), Named any := by
    intro any member
    rw [preorderAll_cons, List.mem_cons, List.mem_append] at member
    rcases member with rfl | below | later
    · exact own
    · exact children any below
    · exact others any later
  have none : ∀ component ∈ preorderAll [], Named component := by simp [preorderAll]
  -- By the recursion of the reading: over items, over the entries of an item, and over a list.
  refine (ofItems.mutual_induct
    (fun items => ∀ component ∈ preorderAll (ofItems items), Named component)
    (fun entries => ∀ component ∈ preorderAll (childrenOf entries), Named component)
    (fun value => ∀ component ∈ preorderAll (ofList value), Named component)
    ?list ?tuple ?noList ?noItems ?component ?stray ?noEntries ?children ?otherKey).2.2
  case list => exact fun items ih => ih
  case tuple => exact fun items ih => ih
  case noList =>
    intro value notList notTuple
    cases value with
    | list items => exact absurd rfl (notList items)
    | tuple items => exact absurd rfl (notTuple items)
    | _ => exact none
  case noItems => exact none
  case component =>
    intro entries rest ihEntries ihRest
    refine cons ⟨?_, ?_⟩ ihEntries ihRest
    · exact Value.asText_ne_empty _ (by decide)
    · dsimp only
      split
      · rfl
      next given => simpa using given
  case stray =>
    intro head rest notMap ih
    have skipped : ofItems (head :: rest) = ofItems rest := by
      cases head with
      | map entries => exact absurd rfl (notMap entries)
      | _ => rfl
    rw [skipped]
    exact ih
  case noEntries => exact none
  case children => exact fun value rest ih => ih
  case otherKey =>
    intro key value rest otherKey ih
    simpa only [childrenOf] using ih

end Component

/-- What a reader of an accepted form can rely on without a look at the document. -/
structure Form.WellFormed (form : Form) : Prop where
  container : form.container.type ≠ ""
  below : ∀ component ∈ Component.preorderAll form.container.children, component.WellFormed
  listed : ∀ component ∈ Component.preorderAll form.components, component.WellFormed
  dataBindings : ∀ binding ∈ form.dataBindings,
    binding.component ≠ "" ∧ binding.property ≠ "" ∧ binding.code ≠ ""
  customEvents : ∀ events, form.customEvents = some events → ∀ event ∈ events,
    event.name ≠ "" ∧ ∀ parameter ∈ event.parameters, parameter.name ≠ ""

namespace Form

section Names

variable {registry : Registry} {options : FormOptions} {form : Form}
  (valid : (form.validate registry options).valid = true)

include valid

theorem named_of_mem_trees {roots : List Component} (checked : roots ⊆ form.trees)
    {component : Component} (inside : component ∈ Component.preorderAll roots) :
    component.name.isNull = true ∨ component.name.isText = true := by
  have sound := clean_of_mem_trees valid checked component inside
  rw [Registry.faulty_eq, Bool.or_eq_false_iff, Bool.not_eq_false', Bool.or_eq_true] at sound
  exact sound.2

theorem named_of_listed {component : Component}
    (inside : component ∈ Component.preorderAll form.components) :
    component.name.isNull = true ∨ component.name.isText = true := by
  -- A list that is passed over is loosely equal to one that is checked, and loosely equal names are
  -- texts both or neither.
  by_cases skipped : Component.sameAll form.components form.container.children = true
  · obtain ⟨position, found⟩ := Component.mem_preorderAll_iff.mp inside
    obtain ⟨twin, isTwin, same⟩ := Component.same_atAll? skipped found
    have named := named_of_mem_trees valid (children_subset_trees form)
      (Component.mem_preorderAll_iff.mpr ⟨position, isTwin⟩)
    rw [Component.same_eq] at same
    simp only [Bool.and_eq_true] at same
    obtain ⟨nulls, texts⟩ := Value.same_shape same.1.1.1.2
    rwa [nulls, texts]
  · have checked : form.components ⊆ form.trees := by
      simp [trees, skipped]
    exact named_of_mem_trees valid checked inside

end Names

theorem children_named (document : Value) :
    ∀ component ∈ Component.preorderAll (ofDocument document).container.children,
      component.Named := by
  simp only [ofDocument, containerOf]
  split
  · exact Component.ofList_named _
  · exact Component.ofList_named _

theorem dataBinding_parts {source : Value} {binding : DataBinding}
    (found : dataBindingOf? source = some binding) :
    binding.component ≠ "" ∧ binding.property ≠ "" ∧ binding.code ≠ "" := by
  simp only [dataBindingOf?, bind, pure, Option.bind_eq_some_iff] at found
  obtain ⟨component, isComponent, property, isProperty, code, isCode, same⟩ := found
  cases same
  exact ⟨Value.ne_empty_of_asText? isComponent, Value.ne_empty_of_asText? isProperty,
    Value.ne_empty_of_asText? isCode⟩

theorem parameter_named {source : Value} {parameter : EventParameter}
    (found : parameterOf? source = some parameter) : parameter.name ≠ "" := by
  simp only [parameterOf?, bind, pure, Option.bind_eq_some_iff] at found
  obtain ⟨name, isName, same⟩ := found
  cases same
  exact Value.ne_empty_of_asText? isName

theorem customEvent_named {source : Value} {event : CustomEvent}
    (found : customEventOf? source = some event) :
    event.name ≠ "" ∧ ∀ parameter ∈ event.parameters, parameter.name ≠ "" := by
  simp only [customEventOf?, bind, pure, Option.bind_eq_some_iff] at found
  obtain ⟨name, isName, same⟩ := found
  cases same
  refine ⟨Value.ne_empty_of_asText? isName, ?_⟩
  intro parameter member
  obtain ⟨item, -, given⟩ := List.mem_filterMap.mp member
  exact parameter_named given

theorem wellFormed_of_valid {registry : Registry} {options : FormOptions} {document : Value}
    (valid : ((ofDocument document).validate registry options).valid = true) :
    (ofDocument document).WellFormed := by
  have wellFormed {component : Component} (named : component.Named)
      (shape : component.name.isNull = true ∨ component.name.isText = true) :
      component.WellFormed := by
    refine ⟨named.typed, shape.resolve_left ?_⟩
    simp [named.given]
  constructor
  · simpa using container_typed document
  · intro component inside
    apply wellFormed (children_named document component inside)
    exact named_of_mem_trees valid (children_subset_trees _) inside
  · intro component inside
    apply wellFormed (Component.ofList_named _ component inside)
    exact named_of_listed valid inside
  · intro binding member
    obtain ⟨item, -, found⟩ := List.mem_filterMap.mp member
    exact dataBinding_parts found
  · intro events given event member
    simp only [ofDocument, customEventsOf] at given
    split at given
    · cases given
      obtain ⟨item, -, found⟩ := List.mem_filterMap.mp member
      exact customEvent_named found
    · cases given

def MissingType (message : String) : Prop :=
  ∃ name, message = "Component '" ++ name ++ "' missing type"

theorem not_missingType_of_lead {lead rest : String}
    (apart : ¬lead.toList <+: "Component '".toList ∧ ¬"Component '".toList <+: lead.toList) :
    ¬MissingType (lead ++ rest) := by
  rintro ⟨name, same⟩
  have chars := congrArg String.toList same
  rw [String.append_assoc, String.toList_append, String.toList_append] at chars
  have first : lead.toList <+: lead.toList ++ rest.toList := List.prefix_append _ _
  have second : "Component '".toList <+: lead.toList ++ rest.toList := by
    rw [chars]
    exact List.prefix_append _ _
  exact (List.prefix_or_prefix_of_prefix first second).elim apart.1 apart.2

theorem not_missingType_of_nodeDiagnostics {registry : Registry} {component : Component}
    {checkName : Bool} {unknown : Severity} (typed : component.type ≠ "") {warning : Diagnostic}
    (found : warning ∈ registry.nodeDiagnostics component checkName unknown)
    (harmless : warning.isError = false) : ¬MissingType warning.message := by
  rw [Registry.nodeDiagnostics, List.mem_append] at found
  rcases found with ofType | ofName
  · simp only [Registry.typeDiagnostics, String.isEmpty_iff, typed, if_false] at ofType
    split at ofType
    · cases List.mem_singleton.mp ofType
      exact not_missingType_of_lead (by decide)
    split at ofType
    · cases ofType
    -- A check of properties makes errors only.
    split at ofType
    · obtain ⟨message, -, rfl⟩ := List.mem_map.mp ofType
      cases harmless
    · cases List.mem_singleton.mp ofType
      cases harmless
  · split at ofName
    · simp only [Registry.nameDiagnostics] at ofName
      split at ofName
      · cases List.mem_singleton.mp ofName
        rw [Diagnostic.ofWarning, String.append_assoc]
        exact not_missingType_of_lead (by decide)
      · split at ofName
        · cases List.mem_singleton.mp ofName
          rw [Diagnostic.ofWarning, String.append_assoc]
          exact not_missingType_of_lead (by decide)
        · cases ofName
      · cases List.mem_singleton.mp ofName
        cases harmless
    · cases ofName

theorem checkedTrees_named (document : Value) :
    ∀ component ∈ Component.preorderAll (ofDocument document).checkedTrees, component.Named := by
  intro component inside
  have either : component ∈ Component.preorderAll (ofDocument document).container.children ∨
      component ∈ Component.preorderAll (ofDocument document).components := by
    simp only [checkedTrees, Component.preorderAll_eq_flatMap, List.flatMap_append,
      List.mem_append] at inside ⊢
    refine inside.imp_right fun listed => ?_
    split at listed
    · cases listed
    · exact listed
  rcases either with below | listed
  · exact children_named document component below
  · exact Component.ofList_named _ component listed

theorem not_missingType_of_findings {registry : Registry} {options : FormOptions}
    {document : Value} {warning : Diagnostic}
    (found : warning ∈ (ofDocument document).findings registry options)
    (harmless : warning.isError = false) : ¬MissingType warning.message := by
  simp only [findings, List.mem_append, List.mem_flatMap] at found
  rcases found with onContainer | ⟨entry, member, onNode⟩
  · have typed : (ofDocument document).container.type ≠ "" := by
      simpa using container_typed document
    exact not_missingType_of_nodeDiagnostics typed onContainer harmless
  · have inside : entry.2 ∈ Component.preorderAll (ofDocument document).checkedTrees := by
      rw [← Component.placedAll_map_snd 0]
      exact List.mem_map_of_mem member
    exact not_missingType_of_nodeDiagnostics (checkedTrees_named document _ inside).typed onNode
      harmless

theorem not_missingType_of_documentWarnings {registry : Registry} {options : FormOptions}
    {document : Value} {warning : Diagnostic}
    (member : warning ∈
      documentWarnings document ((ofDocument document).validate registry options)) :
    ¬MissingType warning.message := by
  rw [documentWarnings_of_document] at member
  simp only [List.mem_append, List.mem_filter, Bool.not_eq_true'] at member
  rcases member with ((lost | ⟨found, harmless⟩) | handler) | binding
  · obtain ⟨entry, -, rfl⟩ := List.mem_map.mp lost
    change ¬MissingType ("Invalid event binding for '" ++ entry.1 ++ "': expected string, got "
      ++ entry.2.typeName)
    rw [String.append_assoc, String.append_assoc]
    exact not_missingType_of_lead (by decide)
  · exact not_missingType_of_findings found harmless
  · split at handler
    · obtain ⟨entry, -, given⟩ := List.mem_filterMap.mp handler
      simp only at given
      split at given
      · cases given
      · cases given
        simp only [Diagnostic.ofWarning, String.append_assoc]
        exact not_missingType_of_lead (by decide)
    · cases handler
  · split at binding
    · obtain ⟨entry, -, given⟩ := List.mem_filterMap.mp binding
      split at given
      · cases given
      · cases given
        simp only [Diagnostic.ofWarning, String.append_assoc]
        exact not_missingType_of_lead (by decide)
    · cases binding

end Form

end FormCompiler
