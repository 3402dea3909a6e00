import FormCompiler.Proofs.Tree.Position
import FormCompiler.Tree.Build
import Mathlib.Data.List.Forall2

set_option autoImplicit false

namespace FormCompiler

namespace Registry

def errorMessages (registry : Registry) (component : Component) : List String :=
  ((registry.nodeDiagnostics component).filter (·.isError)).map (·.message)

end Registry

namespace TreeBuilder

inductive Prevented (builder : TreeBuilder) (form : Option String) (depth : Int)
    (component : Component) : BuildFailure → Prop where
  | tooDeep (deep : builder.options.maxDepth < depth) :
    Prevented builder form depth component (.tooDeep builder.options.maxDepth)
  | invalid (within : depth ≤ builder.options.maxDepth)
    (checked : builder.options.validate = true)
    (faulty : builder.registry.errorMessages component ≠ []) :
    Prevented builder form depth component (.invalid (builder.registry.errorMessages component))
  | unresolved (within : depth ≤ builder.options.maxDepth)
    (valid : builder.options.validate = true → builder.registry.errorMessages component = [])
    (unknown : builder.registry.get? component.type = none) :
    Prevented builder form depth component (.unresolved component.type)
  | unmapped {definition : Definition} {cause : String}
    (within : depth ≤ builder.options.maxDepth)
    (valid : builder.options.validate = true → builder.registry.errorMessages component = [])
    (known : builder.registry.get? component.type = some definition)
    (raised : Properties.mapped definition ⟨some component.type, component.properName?, form⟩
      component.properties.toProps = .error cause) :
    Prevented builder form depth component (.unmapped cause)

theorem findings_eq_nil_iff (builder : TreeBuilder) (component : Component) :
    builder.findings component = [] ↔
      (builder.options.validate = true → builder.registry.errorMessages component = []) := by
  cases checked : builder.options.validate <;> simp [findings, checked, Registry.errorMessages]

theorem propsOf_eq_error_iff (builder : TreeBuilder) (component : Component)
    (definition : Definition) (form : Option String) (key : Value) (depth : Int) (cause : String) :
    builder.propsOf component definition form key depth = .error cause ↔
      Properties.mapped definition ⟨some component.type, component.properName?, form⟩
        component.properties.toProps = .error cause := by
  simp only [propsOf, bind, Except.bind, pure, Except.pure]
  cases Properties.mapped definition ⟨some component.type, component.properName?, form⟩
    component.properties.toProps <;> simp

theorem of_propsOf {builder : TreeBuilder} {component : Component} {definition : Definition}
    {form : Option String} {key : Value} {depth : Int} {props : Props}
    (done : builder.propsOf component definition form key depth = .ok props) :
    ∃ mapped, Properties.mapped definition ⟨some component.type, component.properName?, form⟩
        component.properties.toProps = .ok mapped ∧
      let keyed := mapped.write (keyProps key)
      let named := keyed.write (nameProps component.properName? keyed)
      props = if builder.options.debug then named.write (debugProps component depth) else named := by
  simp only [propsOf, bind, Except.bind, pure, Except.pure] at done
  split at done
  · cases done
  next mapped mapping =>
  exact ⟨mapped, mapping, (Except.ok.inj done).symm⟩

theorem Prevented.prepare_eq {builder : TreeBuilder} {form : Option String} {depth : Int}
    {component : Component} {failure : BuildFailure}
    (prevented : builder.Prevented form depth component failure) (key : Value) :
    builder.prepare component form key depth = .error failure := by
  cases prevented with
  | tooDeep deep => simp [TreeBuilder.prepare, deep]
  | invalid within checked faulty =>
    have found : builder.findings component = builder.registry.errorMessages component := by
      simp [findings, checked, Registry.errorMessages]
    simp [TreeBuilder.prepare, Int.not_lt.mpr within, found, faulty]
  | unresolved within valid unknown =>
    have clean := (builder.findings_eq_nil_iff component).mpr valid
    simp [TreeBuilder.prepare, Int.not_lt.mpr within, clean, unknown]
  | unmapped within valid known raised =>
    have clean := (builder.findings_eq_nil_iff component).mpr valid
    have failed := (builder.propsOf_eq_error_iff _ _ _ key depth _).mpr raised
    simp [TreeBuilder.prepare, Int.not_lt.mpr within, clean, known, failed]

theorem prevented_of_prepare {builder : TreeBuilder} {form : Option String} {key : Value}
    {depth : Int} {component : Component} {failure : BuildFailure}
    (failed : builder.prepare component form key depth = .error failure) :
    builder.Prevented form depth component failure := by
  simp only [prepare] at failed
  split at failed
  · next deep =>
    cases failed
    exact .tooDeep deep
  next shallow =>
  have within := Int.not_lt.mp shallow
  split at failed
  · next faulty =>
    have checked : builder.options.validate = true := by
      -- Unless components are validated there are no findings.
      by_contra unchecked
      simp [findings, unchecked] at faulty
    have found : builder.findings component = builder.registry.errorMessages component := by
      simp [findings, checked, Registry.errorMessages]
    cases failed
    rw [found] at faulty ⊢
    exact .invalid within checked (by simpa using faulty)
  next clean =>
  have valid := (builder.findings_eq_nil_iff component).mp (by simpa using clean)
  split at failed
  · next unknown =>
    cases failed
    exact .unresolved within valid unknown
  · next definition known =>
    split at failed
    · next cause raised =>
      cases failed
      exact .unmapped within valid known ((builder.propsOf_eq_error_iff _ _ _ _ _ _).mp raised)
    · cases failed

theorem of_prepare {builder : TreeBuilder} {form : Option String} {key : Value} {depth : Int}
    {component : Component} {prepared : Prepared}
    (done : builder.prepare component form key depth = .ok prepared) :
    ∃ definition props, builder.registry.get? component.type = some definition ∧
      builder.propsOf component definition form key depth = .ok props ∧
      prepared = ⟨definition.backend, props,
        if definition.layoutSupported && !component.layout.isEmpty then
          some (Layout.mapped component.layout)
        else none⟩ := by
  simp only [prepare] at done
  split at done
  · cases done
  split at done
  · cases done
  split at done
  · cases done
  next definition known =>
  split at done
  · cases done
  next props mapped =>
  exact ⟨definition, props, known, mapped, (Except.ok.inj done).symm⟩

theorem build_eq (builder : TreeBuilder) (context : BuildContext) (key : Value)
    (component : Component) :
    builder.build context key component =
      match builder.prepare component context.form key context.depth with
      | .error failure =>
        { result := builder.failureTree component key failure.messages
          errors := context.errors ++ failure.reports component.type
          entries := builder.prepareEntries component context.form key context.depth }
      | .ok prepared =>
        let built := builder.buildAll context.below 0 component.children
        { result := .node ⟨component.type, component.properName?, key⟩ prepared.backend
            prepared.props prepared.layout built.result
          errors := built.errors
          entries := builder.prepareEntries component context.form key context.depth
            ++ built.entries } := by
  obtain ⟨type, name, properties, layout, children⟩ := component
  cases prepared : builder.prepare ⟨type, name, properties, layout, children⟩ context.form key
    context.depth with
  | error failure => simp only [build, prepared]
  | ok ready => simp only [build, prepared]

def tree (builder : TreeBuilder) (form : Option String) (depth : Int) (key : Value)
    (component : Component) : Tree :=
  (builder.build { form, depth } key component).result

def trees (builder : TreeBuilder) (form : Option String) (depth : Int) (index : Nat)
    (components : List Component) : List Tree :=
  (builder.buildAll { form, depth } index components).result

def reports (builder : TreeBuilder) (form : Option String) (depth : Int) (key : Value)
    (component : Component) : List String :=
  (builder.build { form, depth } key component).errors

def reportsAll (builder : TreeBuilder) (form : Option String) (depth : Int) (index : Nat)
    (components : List Component) : List String :=
  (builder.buildAll { form, depth } index components).errors

def Frames (builder : TreeBuilder) (component : Component) : Prop :=
  ∀ (context : BuildContext) (key : Value),
    (builder.build context key component).result =
        builder.tree context.form context.depth key component ∧
      (builder.build context key component).errors =
        context.errors ++ builder.reports context.form context.depth key component

theorem buildAll_frames (builder : TreeBuilder) {components : List Component}
    (each : ∀ component ∈ components, builder.Frames component) (context : BuildContext)
    (index : Nat) :
    (builder.buildAll context index components).result =
        builder.trees context.form context.depth index components ∧
      (builder.buildAll context index components).errors =
        context.errors ++ builder.reportsAll context.form context.depth index components := by
  induction components generalizing context index with
  | nil => simp [trees, reportsAll, buildAll]
  | cons component rest ih =>
    -- The first component adds to the errors of the context, the others add to those.
    have first := each component (by simp)
    have later := ih fun other member => each other (List.mem_cons_of_mem _ member)
    simp only [trees, reportsAll, buildAll]
    rw [(later _ _).1, (later _ _).2, (first _ _).1, (first _ _).2, (later _ _).1, (later _ _).2,
      (first { form := context.form, depth := context.depth } _).1,
      (first { form := context.form, depth := context.depth } _).2]
    simp

theorem build_frames (builder : TreeBuilder) (component : Component) :
    builder.Frames component := by
  induction component using Component.induct with
  | step component ih =>
    intro context key
    have below := builder.buildAll_frames ih
    simp only [tree, reports, build_eq]
    cases builder.prepare component context.form key context.depth with
    | error failure => simp
    | ok prepared =>
      simp only [(below _ _).1, (below _ _).2, BuildContext.below]
      simp

section Equations

variable (builder : TreeBuilder) (form : Option String) (depth : Int)

theorem tree_eq (key : Value) (component : Component) :
    builder.tree form depth key component =
      match builder.prepare component form key depth with
      | .error failure => builder.failureTree component key failure.messages
      | .ok prepared =>
        .node ⟨component.type, component.properName?, key⟩ prepared.backend prepared.props
          prepared.layout (builder.trees form (depth + 1) 0 component.children) := by
  simp only [tree, build_eq]
  cases builder.prepare component form key depth <;> rfl

theorem reports_eq (key : Value) (component : Component) :
    builder.reports form depth key component =
      match builder.prepare component form key depth with
      | .error failure => failure.reports component.type
      | .ok _ => builder.reportsAll form (depth + 1) 0 component.children := by
  simp only [reports, build_eq]
  cases builder.prepare component form key depth with
  | error failure => simp
  | ok prepared => rfl

@[simp] theorem trees_nil (index : Nat) : builder.trees form depth index [] = [] := rfl

@[simp] theorem trees_cons (index : Nat) (component : Component) (rest : List Component) :
    builder.trees form depth index (component :: rest) =
      builder.tree form depth (.int index) component ::
        builder.trees form depth (index + 1) rest := by
  simp only [trees, buildAll]
  rw [(builder.buildAll_frames (fun _ _ => builder.build_frames _) _ _).1]
  rfl

@[simp] theorem reportsAll_nil (index : Nat) : builder.reportsAll form depth index [] = [] := rfl

@[simp] theorem reportsAll_cons (index : Nat) (component : Component) (rest : List Component) :
    builder.reportsAll form depth index (component :: rest) =
      builder.reports form depth (.int index) component ++
        builder.reportsAll form depth (index + 1) rest := by
  simp only [reportsAll, buildAll]
  rw [(builder.buildAll_frames (fun _ _ => builder.build_frames _) _ _).2]
  rfl

theorem trees_getElem? (start index : Nat) (components : List Component) :
    (builder.trees form depth start components)[index]? =
      (components[index]?).map (builder.tree form depth (.int (start + index : Nat))) := by
  induction components generalizing start index with
  | nil => simp
  | cons component rest ih =>
    cases index with
    | zero => simp
    | succ index => simp [ih, Nat.add_assoc, Nat.add_comm 1]

theorem trees_length (start : Nat) (components : List Component) :
    (builder.trees form depth start components).length = components.length := by
  induction components generalizing start with
  | nil => rfl
  | cons component rest ih => simp [ih]

end Equations

end TreeBuilder

end FormCompiler
