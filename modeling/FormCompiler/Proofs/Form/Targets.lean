import FormCompiler.Proofs.Form.Bindings
import FormCompiler.Proofs.Form.Coverage

set_option autoImplicit false

namespace FormCompiler

theorem Value.text_same_iff (chars : String) (value : Value) :
    (Value.text chars).same value = true ↔ value = .text chars := by
  cases value with
  | text other =>
    simp only [Value.same, sameScalar, beq_iff_eq, Value.text.injEq]
    exact eq_comm
  | _ => simp [Value.same, sameScalar, quantity?]

namespace Component

theorem textName?_eq_some_iff (component : Component) (name : String) :
    component.textName? = some name ↔ component.name = .text name := by
  simp only [textName?]
  cases component.name <;> simp

theorem visited_perm (stack : List Component) : (visited stack).Perm (preorderAll stack) := by
  fun_induction visited stack with
  | case1 => exact .nil
  | case2 component rest ih =>
    rw [List.unattach_reverse, List.unattach_attach, preorderAll_append] at ih
    rw [preorderAll_cons]
    -- The stack reverses the children, and so only the order of the visits is another.
    exact (ih.trans ((preorderAll_reverse_perm _).append_right _)).cons component

theorem textNames_subset_of_sameAll {as bs : List Component} (same : sameAll as bs = true) :
    (preorderAll as).filterMap textName? ⊆ (preorderAll bs).filterMap textName? := by
  intro name listed
  obtain ⟨component, inside, named⟩ := List.mem_filterMap.mp listed
  obtain ⟨position, found⟩ := mem_preorderAll_iff.mp inside
  obtain ⟨twin, isTwin, alike⟩ := same_atAll? same found
  rw [textName?_eq_some_iff] at named
  rw [same_eq, named] at alike
  simp only [Bool.and_eq_true] at alike
  have twinNamed := (Value.text_same_iff name twin.name).mp alike.1.1.1.2
  exact List.mem_filterMap.mpr ⟨twin, mem_preorderAll_iff.mpr ⟨position, isTwin⟩,
    (textName?_eq_some_iff _ _).mpr twinNamed⟩

end Component

namespace Form

-- Both lists are walked here, also where the checks pass over the flat one.
def listedNames (form : Form) : List String :=
  (Component.preorderAll form.container.children
    ++ Component.preorderAll form.components).filterMap (·.textName?)

theorem mem_listedNames_iff (form : Form) (name : String) :
    name ∈ form.listedNames ↔ ∃ position component,
      (Component.atAll? form.container.children position = some component ∨
        Component.atAll? form.components position = some component) ∧
      component.name = .text name := by
  simp only [listedNames, List.mem_filterMap, List.mem_append, Component.mem_preorderAll_iff,
    Component.textName?_eq_some_iff]
  constructor
  · rintro ⟨component, ⟨position, found⟩ | ⟨position, found⟩, named⟩
    · exact ⟨position, component, .inl found, named⟩
    · exact ⟨position, component, .inr found, named⟩
  · rintro ⟨position, component, found | found, named⟩
    · exact ⟨component, .inl ⟨position, found⟩, named⟩
    · exact ⟨component, .inr ⟨position, found⟩, named⟩

theorem componentNames_perm (form : Form) :
    form.componentNames.Perm ((Component.preorderAll form.trees).filterMap (·.textName?)) := by
  have visits := Component.visited_perm form.trees.reverse
  exact (visits.trans (Component.preorderAll_reverse_perm _)).filterMap _

theorem mem_componentNames_iff (form : Form) (name : String) :
    name ∈ form.componentNames ↔ name ∈ form.listedNames := by
  rw [form.componentNames_perm.mem_iff, listedNames, List.filterMap_append, List.mem_append]
  cases skipped : Component.sameAll form.components form.container.children with
  | false => simp [trees, skipped, Component.preorderAll_append]
  | true =>
    have others := Component.textNames_subset_of_sameAll skipped
    simp only [trees, skipped, if_true]
    exact ⟨.inl, fun either => either.elim id fun listed => others listed⟩

def unknownTarget (binding : DataBinding) : Diagnostic where
  message := "Data binding '" ++ binding.component ++ "." ++ binding.property
    ++ "' targets an unknown component"
  severity := .warning

def lacksTarget (form : Form) (binding : DataBinding) : Bool :=
  binding.component != "self" && !form.listedNames.contains binding.component

theorem lacksTarget_iff (form : Form) (binding : DataBinding) :
    form.lacksTarget binding = true ↔
      binding.component ≠ "self" ∧ binding.component ∉ form.listedNames := by
  simp [lacksTarget]

theorem bindingWarnings_eq (form : Form) :
    form.bindingWarnings = (form.dataBindings.filter form.lacksTarget).map unknownTarget := by
  have names (name : String) :
      form.componentNames.contains name = form.listedNames.contains name := by
    rw [Bool.eq_iff_iff, List.contains_iff_mem, List.contains_iff_mem, mem_componentNames_iff]
  have warning (binding : DataBinding) :
      Diagnostic.ofWarning ("Data binding '" ++ binding.component ++ "." ++ binding.property
        ++ "' targets an unknown component") = unknownTarget binding := rfl
  simp only [bindingWarnings, names, warning]
  induction form.dataBindings with
  | nil => rfl
  | cons binding rest ih =>
    rw [List.filterMap_cons, List.filter_cons, ih]
    by_cases own : binding.component = "self"
    · simp [lacksTarget, own]
    · by_cases known : binding.component ∈ form.listedNames
      · simp [lacksTarget, known]
      · simp [lacksTarget, own, known]

/-- The check of data bindings adds no errors. Behind all other warnings it adds one for each binding,
in their order, whose component is neither `self` nor the text name of a component at any depth below
the container or in the flat list. The stack that collects the names visits each component of the
trees once and comes to an end, and its names are those of both lists, whether or not the flat list is
passed over. -/
theorem binding_warnings_exact (registry : Registry) (options : FormOptions) (form : Form) :
    let others := form.validate registry { options with checkDataBindings := false }
    let checked := form.validate registry { options with checkDataBindings := true }
    checked.errors = others.errors ∧
    checked.warnings = others.warnings ++
      (form.dataBindings.filter fun binding => binding.component != "self" &&
        !form.listedNames.contains binding.component).map unknownTarget ∧
    (∀ name, name ∈ form.listedNames ↔ ∃ position component,
      (Component.atAll? form.container.children position = some component ∨
        Component.atAll? form.components position = some component) ∧
      component.name = .text name) ∧
    (Component.visited form.trees.reverse).Perm (Component.preorderAll form.trees) ∧
    ∀ name, name ∈ form.componentNames ↔ name ∈ form.listedNames := by
  intro others checked
  have visits := Component.visited_perm form.trees.reverse
  refine ⟨?_, ?_, form.mem_listedNames_iff, visits.trans (Component.preorderAll_reverse_perm _),
    form.mem_componentNames_iff⟩
  · simp only [checked, others, validate_eq]
    rfl
  · simp only [checked, others, validate_eq, bindingWarnings_eq, if_true, Bool.false_eq_true,
      if_false, List.append_nil]
    rfl

end Form

end FormCompiler
