import FormCompiler.Proofs.Form.Accepted
import FormCompiler.Proofs.Tree.Order

set_option autoImplicit false

namespace FormCompiler

namespace Value

theorem same_shape {a b : Value} (same : a.same b = true) :
    a.isNull = b.isNull ∧ a.isText = b.isText := by
  cases a <;> cases b <;> simp_all [Value.same, sameScalar, quantity?, isNull, isText, kind]

end Value

namespace Component

theorem same_eq (a b : Component) :
    a.same b = (a.type == b.type && a.name.same b.name && Bag.same a.properties b.properties
      && Bag.same a.layout b.layout && sameAll a.children b.children) := by
  cases a
  rfl

theorem same_of_sameAll {as bs : List Component} (same : sameAll as bs = true) {index : Nat}
    {a : Component} (found : as[index]? = some a) :
    ∃ b, bs[index]? = some b ∧ a.same b = true := by
  induction as generalizing bs index with
  | nil => cases found
  | cons first rest ih =>
    cases bs with
    | nil => cases same
    | cons other others =>
      simp only [sameAll, Bool.and_eq_true] at same
      cases index with
      | zero =>
        cases found
        exact ⟨other, rfl, same.1⟩
      | succ index => exact ih same.2 found

theorem same_at? {a b component : Component} (same : a.same b = true) {position : List Nat}
    (found : a.at? position = some component) :
    ∃ twin, b.at? position = some twin ∧ component.same twin = true := by
  induction position generalizing a b with
  | nil =>
    cases found
    exact ⟨b, rfl, same⟩
  | cons index rest ih =>
    rw [at?_cons, Option.bind_eq_some_iff] at found
    obtain ⟨child, isChild, below⟩ := found
    have children : sameAll a.children b.children = true := by
      rw [same_eq] at same
      simp_all
    obtain ⟨other, isOther, alike⟩ := same_of_sameAll children isChild
    obtain ⟨twin, inside, equal⟩ := ih alike below
    exact ⟨twin, by rw [at?_cons, isOther]; exact inside, equal⟩

theorem same_atAll? {as bs : List Component} (same : sameAll as bs = true) {position : List Nat}
    {component : Component} (found : atAll? as position = some component) :
    ∃ twin, atAll? bs position = some twin ∧ component.same twin = true := by
  cases position with
  | nil => cases found
  | cons index rest =>
    simp only [atAll?, Option.bind_eq_some_iff] at found
    obtain ⟨root, isRoot, below⟩ := found
    obtain ⟨other, isOther, alike⟩ := same_of_sameAll same isRoot
    obtain ⟨twin, inside, equal⟩ := same_at? alike below
    exact ⟨twin, by simp [atAll?, isOther, inside], equal⟩

end Component

def PropertyCheck.rejects (check : PropertyCheck) (properties : Bag) : Bool :=
  match check properties with
  | .ok messages => !messages.isEmpty
  | .error _ => true

namespace Registry

variable (registry : Registry)

def checkOf? (type : String) : Option PropertyCheck :=
  if type.isEmpty then none else (registry.get? type).bind (·.check)

/-- Whether an error is found on a component, unknown types counted with the given severity. -/
def faulty (unknown : Severity) (component : Component) : Bool :=
  (registry.nodeDiagnostics component true unknown).any (·.isError)

/-- Equal properties are rejected by none or by both of the checks of a type. -/
def Impartial : Prop :=
  ∀ type check, registry.checkOf? type = some check → ∀ a b, Bag.same a b = true →
    check.rejects a = check.rejects b

theorem typeDiagnostics_any_error (unknown : Severity) (component : Component) :
    (registry.typeDiagnostics unknown component).any (·.isError) =
      match registry.checkOf? component.type with
      | some check => check.rejects component.properties
      | none => unknown == .error &&
          (component.type.isEmpty || (registry.get? component.type).isNone) := by
  cases untyped : component.type.isEmpty with
  | true => simp [typeDiagnostics, checkOf?, untyped, Diagnostic.isError]
  | false =>
    cases known : registry.get? component.type with
    | none => simp [typeDiagnostics, checkOf?, untyped, known, Diagnostic.isError]
    | some definition =>
      cases checked : definition.check with
      | none => simp [typeDiagnostics, checkOf?, untyped, known, checked]
      | some check =>
        cases outcome : check component.properties with
        | ok messages =>
          cases messages <;>
            simp [typeDiagnostics, checkOf?, untyped, known, checked, outcome,
              PropertyCheck.rejects, Diagnostic.isError, Diagnostic.ofError]
        | error cause =>
          simp [typeDiagnostics, checkOf?, untyped, known, checked, outcome,
            PropertyCheck.rejects, Diagnostic.isError, Diagnostic.ofError]

theorem nameDiagnostics_any_error (component : Component) :
    (nameDiagnostics component).any (·.isError) =
      !(component.name.isNull || component.name.isText) := by
  simp only [nameDiagnostics]
  cases name : component.name with
  | text chars =>
    dsimp only
    split <;> rfl
  | _ => rfl

theorem faulty_eq (unknown : Severity) (component : Component) :
    registry.faulty unknown component =
      ((registry.typeDiagnostics unknown component).any (·.isError) ||
        !(component.name.isNull || component.name.isText)) := by
  simp [faulty, nodeDiagnostics, nameDiagnostics_any_error]

theorem faulty_iff_of_clean_twin {unknown : Severity} {component twin : Component}
    (same : component.same twin = true) (clean : registry.faulty unknown twin = false) :
    registry.faulty unknown component = true ↔
      ∃ check, registry.checkOf? component.type = some check ∧
        check.rejects component.properties = true ∧ check.rejects twin.properties = false := by
  rw [Component.same_eq] at same
  simp only [Bool.and_eq_true, beq_iff_eq] at same
  obtain ⟨⟨⟨⟨type, name⟩, -⟩, -⟩, -⟩ := same
  obtain ⟨nulls, texts⟩ := Value.same_shape name
  rw [faulty_eq, typeDiagnostics_any_error, Bool.or_eq_false_iff] at clean
  obtain ⟨typeClean, nameClean⟩ := clean
  rw [faulty_eq, typeDiagnostics_any_error, nulls, texts, type, nameClean, Bool.or_false]
  cases checked : registry.checkOf? twin.type with
  | none =>
    -- Without a check the type decides, and both have the same.
    simp only [checked] at typeClean
    simp [typeClean]
  | some check =>
    simp only [checked] at typeClean
    simp [typeClean]

end Registry

namespace Form

theorem validate_valid_iff_clean (registry : Registry) (options : FormOptions) (form : Form) :
    (form.validate registry options).valid = true ↔
      (∀ diagnostic ∈ registry.containerDiagnostics (unknownSeverity options) form.container,
        diagnostic.isError = false) ∧
      ∀ component ∈ Component.preorderAll form.trees,
        registry.faulty (unknownSeverity options) component = false := by
  rw [validate_valid_iff]
  simp only [componentDiagnostics, Registry.treeDiagnostics, Registry.faulty,
    Component.preorderAll_eq_flatMap, List.mem_append, List.mem_flatMap, List.any_eq_false,
    Bool.not_eq_true]
  constructor
  · intro clean
    refine ⟨fun diagnostic found => clean diagnostic (.inl found), ?_⟩
    rintro component ⟨root, isRoot, inside⟩ diagnostic found
    exact clean diagnostic (.inr ⟨root, isRoot, component, inside, found⟩)
  · rintro ⟨container, below⟩ diagnostic (found | ⟨root, isRoot, component, inside, found⟩)
    · exact container diagnostic found
    · exact below component ⟨root, isRoot, inside⟩ diagnostic found

section Valid

variable {registry : Registry} {options : FormOptions} {form : Form}
  (valid : (form.validate registry options).valid = true)

include valid

theorem clean_of_mem_trees {roots : List Component} (checked : roots ⊆ form.trees) :
    ∀ component ∈ Component.preorderAll roots,
      registry.faulty (unknownSeverity options) component = false := by
  intro component inside
  have clean := ((validate_valid_iff_clean registry options form).mp valid).2
  simp only [Component.preorderAll_eq_flatMap, List.mem_flatMap] at clean inside
  obtain ⟨root, isRoot, inTree⟩ := inside
  exact clean component ⟨root, checked isRoot, inTree⟩

theorem faulty_iff_of_atAll? {position : List Nat} {component : Component}
    (found : Component.atAll? form.components position = some component) :
    registry.faulty (unknownSeverity options) component = true ↔
      Component.sameAll form.components form.container.children = true ∧
        ∃ twin check, Component.atAll? form.container.children position = some twin ∧
          component.same twin = true ∧ registry.checkOf? component.type = some check ∧
          check.rejects component.properties = true ∧ check.rejects twin.properties = false := by
  cases skipped : Component.sameAll form.components form.container.children with
  | true =>
    obtain ⟨twin, isTwin, same⟩ := Component.same_atAll? skipped found
    have sound := clean_of_mem_trees valid (children_subset_trees form) twin
      (Component.mem_preorderAll_iff.mpr ⟨position, isTwin⟩)
    rw [registry.faulty_iff_of_clean_twin same sound]
    constructor
    · rintro ⟨check, checked, rejected, passed⟩
      exact ⟨rfl, twin, check, isTwin, same, checked, rejected, passed⟩
    · rintro ⟨-, other, check, isOther, -, checked, rejected, passed⟩
      cases isTwin.symm.trans isOther
      exact ⟨check, checked, rejected, passed⟩
  | false =>
    -- The flat list was checked itself.
    have listed : form.components ⊆ form.trees := by
      simp [trees, skipped]
    have sound := clean_of_mem_trees valid listed component
      (Component.mem_preorderAll_iff.mpr ⟨position, found⟩)
    simp [sound]

end Valid

/-- An accepted form has no faulty component below its container. In its flat list a component is
faulty exactly if the list was passed over as equal to the container's children and the check of
its type rejects its properties, but not the equal ones of the child in the same position. With
checks that treat equal properties alike, no faulty component is ever passed over. -/
theorem valid_hides_iff (registry : Registry) (options : FormOptions) (form : Form)
    (valid : (form.validate registry options).valid = true) :
    let faulty := registry.faulty (unknownSeverity options)
    let children := form.container.children
    (∀ component ∈ Component.preorderAll children, faulty component = false) ∧
    (∀ position component, Component.atAll? form.components position = some component →
      (faulty component = true ↔ Component.sameAll form.components children = true ∧
        ∃ twin check, Component.atAll? children position = some twin ∧
          component.same twin = true ∧ registry.checkOf? component.type = some check ∧
          check.rejects component.properties = true ∧ check.rejects twin.properties = false)) ∧
    (registry.Impartial → ∀ component ∈ Component.preorderAll form.components,
      faulty component = false) := by
  intro faulty children
  refine ⟨clean_of_mem_trees valid (children_subset_trees form),
    fun position component found => faulty_iff_of_atAll? valid found,
    fun impartial component inside => ?_⟩
  obtain ⟨position, found⟩ := Component.mem_preorderAll_iff.mp inside
  by_contra guilty
  obtain ⟨-, twin, check, -, same, checked, rejected, passed⟩ :=
    (faulty_iff_of_atAll? valid found).mp (by simpa [faulty] using guilty)
  rw [Component.same_eq] at same
  simp only [Bool.and_eq_true] at same
  have alike := impartial _ check checked _ _ same.1.1.2
  rw [rejected, passed] at alike
  cases alike

def flaggedForm : Form where
  container :=
    { type := "ColumnPanel"
      children := [
        { type := "Button", name := .text "go", properties := [("enabled", .bool true)] }] }
  components := [{ type := "Button", name := .text "go", properties := [("enabled", .int 1)] }]

theorem valid_hides_flagged :
    (flaggedForm.validate .standard {}).valid = true ∧
      ∃ component, Component.atAll? flaggedForm.components [0] = some component ∧
        Registry.standard.faulty .error component = true ∧
        ∃ twin, Component.atAll? flaggedForm.container.children [0] = some twin ∧
          component.same twin = true ∧ Registry.standard.faulty .error twin = false := by
  have valid : (flaggedForm.validate .standard {}).valid = true := by decide +kernel
  have hides := valid_hides_iff .standard {} flaggedForm valid
  have guilty : Registry.standard.faulty .error
      { type := "Button", name := .text "go", properties := [("enabled", .int 1)] } = true := by
    decide +kernel
  obtain ⟨-, twin, check, isTwin, same, -, -, -⟩ := (hides.2.1 [0] _ rfl).mp guilty
  exact ⟨valid, _, rfl, guilty, twin, isTwin, same,
    hides.1 twin (Component.mem_preorderAll_iff.mpr ⟨[0], isTwin⟩)⟩

end Form

end FormCompiler
