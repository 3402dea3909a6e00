import FormCompiler.Proofs.Registry.Conversion
import FormCompiler.Proofs.Tree.Build

set_option autoImplicit false

namespace FormCompiler

namespace Component

mutual

def height : Component → Nat
  | ⟨_, _, _, _, children⟩ => heights children
termination_by structural component => component

def heights : List Component → Nat
  | [] => 0
  | component :: rest => max (height component + 1) (heights rest)
termination_by structural components => components

end

mutual

-- The component and all below it, each before its children and with all components above it, the
-- outermost first.
def lineages (above : List Component) : Component → List (List Component × Component)
  | ⟨type, name, properties, layout, children⟩ =>
    (above, ⟨type, name, properties, layout, children⟩) ::
      lineagesAll (above ++ [⟨type, name, properties, layout, children⟩]) children
termination_by structural component => component

def lineagesAll (above : List Component) : List Component → List (List Component × Component)
  | [] => []
  | component :: rest => lineages above component ++ lineagesAll above rest
termination_by structural components => components

end

theorem height_lt_of_child {component child : Component}
    (member : child ∈ component.children) : child.height < component.height := by
  obtain ⟨type, name, properties, layout, children⟩ := component
  rw [height]
  induction children with
  | nil => cases member
  | cons first rest ih =>
    rw [heights]
    rcases List.mem_cons.mp member with rfl | later
    · omega
    · have deeper := ih later
      omega

theorem lineagesAll_eq_flatMap (above : List Component) (components : List Component) :
    lineagesAll above components = components.flatMap (lineages above) := by
  induction components with
  | nil => rfl
  | cons component rest ih => simp [lineagesAll, ih]

theorem lineages_eq (above : List Component) (component : Component) :
    component.lineages above =
      (above, component) :: component.children.flatMap (lineages (above ++ [component])) := by
  cases component
  simp [lineages, lineagesAll_eq_flatMap]

theorem lineages_map_snd (above : List Component) (component : Component) :
    (component.lineages above).map Prod.snd = component.preorder := by
  induction component using Component.induct generalizing above with
  | step component ih =>
    rw [lineages_eq, preorder_eq, List.map_cons, List.map_flatMap]
    congr 1
    exact List.flatMap_congr fun child member => ih child member _

theorem subset_of_mem_lineages {above : List Component} {component : Component}
    {entry : List Component × Component} (inside : entry ∈ component.lineages above) :
    above ⊆ entry.1 := by
  induction component using Component.induct generalizing above with
  | step component ih =>
    rw [lineages_eq] at inside
    rcases List.mem_cons.mp inside with rfl | below
    · exact fun _ member => member
    · obtain ⟨child, member, deeper⟩ := List.mem_flatMap.mp below
      exact fun _ higher => ih child member deeper (List.mem_append_left _ higher)

end Component

namespace Registry

variable (registry : Registry)

def placedDiagnostics (above : List Component) (root : Component) :
    List (List Component × Diagnostic) :=
  (root.lineages above).flatMap fun entry =>
    (registry.nodeDiagnostics entry.2).map fun diagnostic => (entry.1, diagnostic)

def sound (component : Component) : Bool :=
  (registry.nodeDiagnostics component).all fun diagnostic => !diagnostic.isError

/-- The errors found on a tree, without those below a component that has errors itself. -/
def exposedErrors (above : List Component) (root : Component) :
    List (List Component × Diagnostic) :=
  (registry.placedDiagnostics above root).filter fun entry =>
    entry.2.isError && entry.1.all registry.sound

theorem sound_iff (component : Component) :
    registry.sound component = true ↔ registry.errorMessages component = [] := by
  simp [sound, errorMessages, List.filter_eq_nil_iff]

theorem placedDiagnostics_eq (above : List Component) (root : Component) :
    registry.placedDiagnostics above root =
      (registry.nodeDiagnostics root).map (fun diagnostic => (above, diagnostic)) ++
        root.children.flatMap (registry.placedDiagnostics (above ++ [root])) := by
  rw [placedDiagnostics, Component.lineages_eq, List.flatMap_cons, List.flatMap_assoc]
  rfl

theorem placedDiagnostics_map_snd (above : List Component) (root : Component) :
    (registry.placedDiagnostics above root).map Prod.snd = registry.treeDiagnostics root := by
  have order := root.lineages_map_snd above
  simp [placedDiagnostics, treeDiagnostics, ← order, List.map_flatMap, List.flatMap_map,
    Function.comp_def]

theorem exposedErrors_of_unsound {above : List Component}
    (unsound : above.all registry.sound = false) (root : Component) :
    registry.exposedErrors above root = [] := by
  rw [exposedErrors, List.filter_eq_nil_iff]
  intro entry member
  obtain ⟨lineage, inside, placed⟩ := List.mem_flatMap.mp member
  obtain ⟨diagnostic, -, rfl⟩ := List.mem_map.mp placed
  obtain ⟨faulty, higher, errors⟩ := List.all_eq_false.mp unsound
  -- The faulty component above the tree stands above everything in it.
  have hidden : lineage.1.all registry.sound = false :=
    List.all_eq_false.mpr ⟨faulty, Component.subset_of_mem_lineages inside higher, errors⟩
  simp [hidden]

theorem exposedErrors_eq {above : List Component} (sound : above.all registry.sound = true)
    (root : Component) :
    registry.exposedErrors above root =
      ((registry.nodeDiagnostics root).filter (·.isError)).map (fun error => (above, error)) ++
        root.children.flatMap (registry.exposedErrors (above ++ [root])) := by
  have own : (fun diagnostic : Diagnostic => diagnostic.isError && above.all registry.sound) =
      (·.isError) := by
    simp [sound]
  rw [exposedErrors, placedDiagnostics_eq, List.filter_append, List.filter_map,
    List.filter_flatMap, Function.comp_def, own]
  rfl

theorem exposedErrors_of_faulty {above : List Component}
    (sound : above.all registry.sound = true) {root : Component}
    (faulty : registry.errorMessages root ≠ []) :
    (registry.exposedErrors above root).map (·.2.message) = registry.errorMessages root := by
  have unsound : (above ++ [root]).all registry.sound = false := by
    simpa [sound, ← sound_iff] using faulty
  have hidden : root.children.flatMap (registry.exposedErrors (above ++ [root])) = [] :=
    List.flatMap_eq_nil_iff.mpr fun child _ => registry.exposedErrors_of_unsound unsound child
  rw [exposedErrors_eq registry sound, hidden]
  simp [errorMessages, Function.comp_def]

theorem exposedErrors_of_clean {above : List Component}
    (sound : above.all registry.sound = true) {root : Component}
    (clean : registry.errorMessages root = []) :
    registry.exposedErrors above root =
      root.children.flatMap (registry.exposedErrors (above ++ [root])) := by
  have none : (registry.nodeDiagnostics root).filter (·.isError) = [] := by
    simpa [errorMessages] using clean
  rw [exposedErrors_eq registry sound, none]
  simp

theorem exposedErrors_eq_nil_iff {above : List Component}
    (sound : above.all registry.sound = true) (root : Component) :
    registry.exposedErrors above root = [] ↔
      ∀ component ∈ root.preorder, registry.errorMessages component = [] := by
  induction root using Component.induct generalizing above with
  | step root ih =>
    rw [Component.preorder_eq]
    by_cases clean : registry.errorMessages root = []
    · have extended : (above ++ [root]).all registry.sound = true := by
        simp [sound, (registry.sound_iff root).mpr clean]
      rw [registry.exposedErrors_of_clean sound clean, List.flatMap_eq_nil_iff]
      simp only [List.forall_mem_cons, clean, true_and, List.mem_flatMap, forall_exists_index,
        and_imp]
      constructor
      · intro none component child member below
        exact (ih child member extended).mp (none child member) component below
      · intro none child member
        exact (ih child member extended).mpr fun component below =>
          none component child member below
    · -- The errors of the topmost component are exposed themselves.
      constructor
      · intro none
        have shown := registry.exposedErrors_of_faulty sound clean
        rw [none] at shown
        exact absurd shown.symm clean
      · intro none
        exact absurd (none root List.mem_cons_self) clean

theorem treeDiagnostics_clean_iff (root : Component) :
    (∀ diagnostic ∈ registry.treeDiagnostics root, diagnostic.isError = false) ↔
      ∀ component ∈ root.preorder, registry.errorMessages component = [] := by
  simp only [treeDiagnostics, errorMessages, List.mem_flatMap, List.map_eq_nil_iff,
    List.filter_eq_nil_iff, Bool.not_eq_true, forall_exists_index, and_imp]
  constructor
  · intro clean component member diagnostic found
    exact clean diagnostic component member found
  · intro clean diagnostic component member found
    exact clean component member diagnostic found

theorem errorMessages_ne_nil_of_unresolved {component : Component}
    (unknown : registry.get? component.type = none) : registry.errorMessages component ≠ [] := by
  cases untyped : component.type.isEmpty <;>
    simp [errorMessages, nodeDiagnostics, typeDiagnostics, untyped, unknown, Diagnostic.isError]

end Registry

namespace TreeBuilder

variable {builder : TreeBuilder}

theorem prepare_ne_unresolved (checked : builder.options.validate = true) (component : Component)
    (form : Option String) (key : Value) (depth : Int) (type : String) :
    builder.prepare component form key depth ≠ .error (.unresolved type) := by
  intro failed
  cases prevented_of_prepare failed with
  | unresolved _ valid unknown =>
    exact builder.registry.errorMessages_ne_nil_of_unresolved unknown (valid checked)

theorem prepare_of_clean (checked : builder.options.validate = true) {component : Component}
    {depth : Int} (within : depth ≤ builder.options.maxDepth)
    (clean : builder.registry.errorMessages component = [])
    (converts : ∀ definition, builder.registry.get? component.type = some definition →
      definition.Converts component.properties) (form : Option String) (key : Value) :
    ∃ prepared, builder.prepare component form key depth = .ok prepared := by
  cases outcome : builder.prepare component form key depth with
  | ok prepared => exact ⟨prepared, rfl⟩
  | error failure =>
    exfalso
    cases prevented_of_prepare outcome with
    | tooDeep deep => omega
    | invalid _ _ faulty => exact faulty clean
    | unresolved => exact prepare_ne_unresolved checked _ _ _ _ _ outcome
    | unmapped _ _ known raised =>
      obtain ⟨props, mapped⟩ := Properties.mapped_of_converts (converts _ known) _
      rw [mapped] at raised
      cases raised

theorem reportsAll_eq_flatMap {form : Option String} {depth : Int} {components : List Component}
    {texts : Component → List String}
    (each : ∀ component ∈ components, ∀ key,
      builder.reports form depth key component = texts component) (index : Nat) :
    builder.reportsAll form depth index components = components.flatMap texts := by
  induction components generalizing index with
  | nil => rfl
  | cons component rest ih =>
    rw [reportsAll_cons, each component List.mem_cons_self, List.flatMap_cons,
      ih fun other member => each other (List.mem_cons_of_mem _ member)]

theorem reports_eq_exposedErrors (checked : builder.options.validate = true)
    {component : Component} {depth : Int}
    (shallow : depth + component.height ≤ builder.options.maxDepth)
    (converts : ∀ inner ∈ component.preorder, ∀ definition,
      builder.registry.get? inner.type = some definition → definition.Converts inner.properties)
    {above : List Component} (sound : above.all builder.registry.sound = true)
    (form : Option String) (key : Value) :
    builder.reports form depth key component =
      (builder.registry.exposedErrors above component).map (·.2.message) := by
  induction component using Component.induct generalizing depth above key with
  | step component ih =>
    have within : depth ≤ builder.options.maxDepth := by omega
    by_cases clean : builder.registry.errorMessages component = []
    · obtain ⟨prepared, ready⟩ := prepare_of_clean checked within clean
        (converts component component.mem_preorder_self) form key
      have extended : (above ++ [component]).all builder.registry.sound = true := by
        simp [sound, (builder.registry.sound_iff component).mpr clean]
      rw [reports_eq, ready, builder.registry.exposedErrors_of_clean sound clean,
        List.map_flatMap]
      refine reportsAll_eq_flatMap (fun child member key => ?_) 0
      have lower := Component.height_lt_of_child member
      exact ih child member (by omega)
        (fun inner below => converts inner (Component.preorder_subset_of_child member below))
        extended key
    · -- The build stops here, and the errors below are not exposed.
      have faulty : builder.Prevented form depth component
          (.invalid (builder.registry.errorMessages component)) :=
        .invalid within checked clean
      rw [reports_eq, faulty.prepare_eq, builder.registry.exposedErrors_of_faulty sound clean]
      rfl

/-- A build and the checks of the whole tree find the same errors, below faulty components apart.
Every other reason to fail is excluded: the tree is not too deep, its conversions do not fail, as
those of the builtin components never do, and an unknown type is found by the checks. -/
theorem buildForm_errors_eq_exposedErrors (builder : TreeBuilder) (form : Form)
    (name : Option String) (checked : builder.options.validate = true)
    (shallow : form.container.height ≤ builder.options.maxDepth)
    (converts : ∀ component ∈ form.container.preorder, ∀ definition,
      builder.registry.get? component.type = some definition →
        definition.Converts component.properties) :
    let outcome := builder.buildForm form name
    let diagnostics := builder.registry.treeDiagnostics form.container
    outcome.errors =
        (builder.registry.exposedErrors [] form.container).map (·.2.message) ∧
      (builder.registry.placedDiagnostics [] form.container).map Prod.snd = diagnostics ∧
      (outcome.ok = true ↔ ∀ diagnostic ∈ diagnostics, diagnostic.isError = false) ∧
      (∀ component form key depth type,
        builder.prepare component form key depth ≠ .error (.unresolved type)) ∧
      ∀ type definition, Registry.standard.get? type = some definition → definition.Total := by
  intro outcome diagnostics
  have errors : outcome.errors =
      (builder.registry.exposedErrors [] form.container).map (·.2.message) :=
    reports_eq_exposedErrors checked (by omega) converts rfl name containerKey
  refine ⟨errors, builder.registry.placedDiagnostics_map_snd [] form.container, ?_,
    prepare_ne_unresolved checked, fun _ _ => Registry.standard_total⟩
  have nothing := builder.registry.exposedErrors_eq_nil_iff List.all_nil form.container
  rw [builder.registry.treeDiagnostics_clean_iff, ← nothing]
  simp [FormOutcome.ok, errors]

def faultyForm : Form where
  container :=
    { type := "ColumnPanel"
      children := [
        { type := "Label", name := .text "title", properties := [("text", .int 1)]
          children := [{ type := "Hidden", name := .text "inner" }] },
        { type := "Gauge", name := .text "gauge" }] }

theorem buildForm_faultyForm :
    let builder : TreeBuilder := ⟨.standard, {}⟩
    (builder.buildForm faultyForm none).errors =
        ["text property must be a string", "Unknown component type: Gauge"] ∧
      ((builder.registry.treeDiagnostics faultyForm.container).filter (·.isError)).map
          (·.message) =
        ["text property must be a string", "Unknown component type: Hidden",
          "Unknown component type: Gauge"] := by
  have agrees := buildForm_errors_eq_exposedErrors ⟨.standard, {}⟩ faultyForm none rfl (by decide)
    fun component _ _ found => (Registry.standard_total found).converts component.properties
  refine ⟨?_, by decide⟩
  rw [agrees.1]
  decide

end TreeBuilder

end FormCompiler
