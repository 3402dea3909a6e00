import FormCompiler.Proofs.Entries.Occurrence
import FormCompiler.Proofs.Form.Coverage

set_option autoImplicit false

namespace FormCompiler

namespace Registry

variable {registry : Registry} {component : Component}

theorem contains_of_typeDiagnostics
    (clean : (registry.typeDiagnostics .error component).any (·.isError) = false) :
    registry.contains component.type = true := by
  by_cases untyped : component.type.isEmpty = true
  · simp [typeDiagnostics, untyped, Diagnostic.isError] at clean
  · cases known : registry.get? component.type with
    | none => simp [typeDiagnostics, untyped, known, Diagnostic.isError] at clean
    | some definition => simp [contains, known]

theorem contains_of_not_faulty (sound : registry.faulty .error component = false) :
    registry.contains component.type = true := by
  rw [faulty_eq, Bool.or_eq_false_iff] at sound
  exact contains_of_typeDiagnostics sound.1

theorem contains_of_containerDiagnostics
    (clean : ∀ diagnostic ∈ registry.containerDiagnostics .error component,
      diagnostic.isError = false) :
    registry.contains component.type = true := by
  by_cases untyped : component.type.isEmpty = true
  · simp [containerDiagnostics, untyped, Diagnostic.ofError, Diagnostic.isError] at clean
  · apply contains_of_typeDiagnostics
    rw [List.any_eq_false]
    intro diagnostic found
    simp only [containerDiagnostics, untyped, nodeDiagnostics] at clean
    simp [clean diagnostic (by simp [found])]

end Registry

namespace Form

def allTrees (form : Form) : List Component :=
  form.components ++ [form.container]

theorem mem_allTrees_iff (form : Form) (component : Component) :
    component ∈ Component.preorderAll form.allTrees ↔
      component ∈ Component.preorderAll form.components ∨ component = form.container ∨
        component ∈ Component.preorderAll form.container.children := by
  simp [allTrees, Component.preorderAll_eq_flatMap, form.container.preorder_eq]

theorem componentTypes_once (form : Form) :
    ListsOnce form.componentTypes
      ((Component.placedAll 0 form.allTrees).map fun entry => entry.2.type) := by
  have walked : (Component.placedAll 0 form.allTrees).map (fun entry => entry.2.type) =
      (Component.preorderAll form.components ++ form.container.preorder).map (·.type) := by
    have all : Component.preorderAll form.allTrees =
        Component.preorderAll form.components ++ form.container.preorder := by
      simp [allTrees, Component.preorderAll_eq_flatMap]
    rw [← all, ← Component.placedAll_map_snd 0, List.map_map]
    rfl
  rw [walked]
  simpa [componentTypes] using ListsOnce.nil.foldl
    ((Component.preorderAll form.components ++ form.container.preorder).map (·.type))

section Valid

variable {registry : Registry} {options : FormOptions} {form : Form}
  (strict : options.allowCustomComponents = false)
  (valid : (form.validate registry options).valid = true)

include strict valid

theorem contains_of_mem_trees {roots : List Component} (checked : roots ⊆ form.trees)
    {component : Component} (inside : component ∈ Component.preorderAll roots) :
    registry.contains component.type = true := by
  have sound := clean_of_mem_trees valid checked component inside
  rw [unknownSeverity, strict] at sound
  exact Registry.contains_of_not_faulty sound

theorem contains_of_valid {component : Component}
    (inside : component ∈ Component.preorderAll form.allTrees) :
    registry.contains component.type = true := by
  rw [mem_allTrees_iff] at inside
  rcases inside with listed | rfl | below
  · by_cases skipped : Component.sameAll form.components form.container.children = true
    · -- The list itself was not checked; what was checked has the same types.
      obtain ⟨position, found⟩ := Component.mem_preorderAll_iff.mp listed
      obtain ⟨twin, isTwin, same⟩ := Component.same_atAll? skipped found
      have twinType : component.type = twin.type := by
        rw [Component.same_eq] at same
        simp_all
      rw [twinType]
      apply contains_of_mem_trees strict valid (children_subset_trees form)
      exact Component.mem_preorderAll_iff.mpr ⟨position, isTwin⟩
    · have checked : form.components ⊆ form.trees := by
        simp [trees, skipped]
      exact contains_of_mem_trees strict valid checked listed
  · have clean := ((validate_valid_iff_clean registry options form).mp valid).1
    rw [unknownSeverity, strict] at clean
    exact Registry.contains_of_containerDiagnostics clean
  · exact contains_of_mem_trees strict valid (children_subset_trees form) below

end Valid

/-- The types of a form are those of all its components, each once, in the order in which they are
first met in the flat list and then in the container. If unknown types count as errors, the registry
resolves every type of an accepted form, also of a flat list that the checks have passed over. -/
theorem parsed_types_resolve (registry : Registry) (options : FormOptions) (maxDepth : Int)
    (text : String) (journal : Journal) (parsed : ParsedForm)
    (strict : options.allowCustomComponents = false)
    (parses : ((parse (some registry) options maxDepth text).run journal).1 = .ok parsed) :
    let roots := parsed.form.allTrees
    let nodes := Component.placedAll 0 roots
    let types := parsed.form.componentTypes
    ((nodes.map Prod.fst).Pairwise (· < ·) ∧
      ∀ position component, (position, component) ∈ nodes ↔
        Component.atAll? roots position = some component) ∧
    types.Nodup ∧ ListsOnce types (nodes.map fun entry => entry.2.type) ∧
    (∀ type ∈ types, registry.contains type = true) ∧
    ∀ component ∈ Component.preorderAll roots, registry.contains component.type = true := by
  intro roots nodes types
  obtain ⟨-, -, -, valid⟩ := of_parse parses
  have once : ListsOnce types (nodes.map fun entry => entry.2.type) :=
    componentTypes_once parsed.form
  have resolved : ∀ component ∈ Component.preorderAll roots,
      registry.contains component.type = true :=
    fun component inside => contains_of_valid strict valid inside
  refine ⟨⟨Component.placedAll_sorted 0 roots, Component.mem_placedAll_iff roots⟩, once.nodup, once,
    fun type listed => ?_, resolved⟩
  obtain ⟨entry, member, rfl⟩ := List.mem_map.mp ((once.mem_iff type).mp listed)
  apply resolved
  rw [← Component.placedAll_map_snd 0]
  exact List.mem_map_of_mem member

def twinListText : String :=
  "components: [\x7btype: a.K, properties: \x7ba: 1\x7d\x7d]\n" ++
  "container: \x7bcomponents: [\x7btype: a.K, properties: \x7ba: yes\x7d\x7d]\x7d\n"

theorem parsed_types_resolve_twinListText :
    ∃ parsed, ((parse (some .standard) {} 64 twinListText).run {}).1 = .ok parsed ∧
      Component.sameAll parsed.form.components parsed.form.container.children = true ∧
      parsed.form.componentTypes = ["a.K", "ColumnPanel"] ∧
      ∀ type ∈ parsed.form.componentTypes, Registry.standard.contains type = true := by
  have listed : (((parse (some .standard) {} 64 twinListText).run {}).1.toOption.map
      fun parsed => (parsed.form.componentTypes,
        Component.sameAll parsed.form.components parsed.form.container.children)) =
      some (["a.K", "ColumnPanel"], true) := by decide +kernel
  obtain ⟨parsed, parses, both⟩ := exists_ok_of_map listed
  obtain ⟨named, skipped⟩ := Prod.mk.inj both
  have types := parsed_types_resolve .standard {} 64 twinListText {} parsed rfl parses
  exact ⟨parsed, parses, skipped, named, types.2.2.2.1⟩

end Form

end FormCompiler
