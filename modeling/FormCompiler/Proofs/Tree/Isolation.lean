import FormCompiler.Proofs.Tree.Mirror

set_option autoImplicit false

namespace FormCompiler

namespace Component

/-- The component with another one at a position; a position outside of it changes nothing. -/
def replace : Component → List Nat → Component → Component
  | _, [], other => other
  | component, index :: rest, other =>
    { component with children := component.children.modify index (·.replace rest other) }

theorem replace_cons (component : Component) (index : Nat) (rest : List Nat) (other : Component) :
    component.replace (index :: rest) other =
      { component with children := component.children.modify index (·.replace rest other) } := rfl

theorem at?_replace (component : Component) (position : List Nat) (other : Component) :
    (component.replace position other).at? position =
      (component.at? position).map fun _ => other := by
  induction position generalizing component with
  | nil => rfl
  | cons index rest ih =>
    rw [replace_cons, at?_cons, at?_cons]
    cases found : component.children[index]? with
    | none => simp [found]
    | some child => simp [found, ih]

end Component

namespace Tree

def childless : Tree → Tree
  | node identity backend props layout _ => node identity backend props layout []
  | failure identity errors props => failure identity errors props

/-- What a tree shows at its top: the node itself, and how many children it has. -/
def face (tree : Tree) : Tree × Nat := (tree.childless, tree.children.length)

end Tree

namespace TreeBuilder

section Replacement

variable (builder : TreeBuilder) (form : Option String)

theorem prepare_children (component : Component) (children : List Component) (key : Value)
    (depth : Int) :
    builder.prepare { component with children } form key depth =
      builder.prepare component form key depth := rfl

theorem failureTree_children (component : Component) (children : List Component) (key : Value)
    (errors : List String) :
    builder.failureTree { component with children } key errors =
      builder.failureTree component key errors := rfl

variable {form} {depth : Int} {key : Value} {component : Component}

theorem tree_of_failed {failure : BuildFailure}
    (failed : builder.prepare component form key depth = .error failure) :
    builder.tree form depth key component =
      builder.failureTree component key failure.messages := by
  rw [tree_eq, failed]

theorem tree_of_prepared {prepared : Prepared}
    (ready : builder.prepare component form key depth = .ok prepared) :
    builder.tree form depth key component =
      .node ⟨component.type, component.properName?, key⟩ prepared.backend prepared.props
        prepared.layout (builder.trees form (depth + 1) 0 component.children) := by
  rw [tree_eq, ready]

theorem tree_replace_of_failed {failure : BuildFailure}
    (failed : builder.prepare component form key depth = .error failure) (index : Nat)
    (rest : List Nat) (other : Component) :
    builder.tree form depth key (component.replace (index :: rest) other) =
      builder.failureTree component key failure.messages := by
  rw [Component.replace_cons, builder.tree_of_failed ((prepare_children ..).trans failed),
    failureTree_children]

theorem tree_replace_of_prepared {prepared : Prepared}
    (ready : builder.prepare component form key depth = .ok prepared) (index : Nat)
    (rest : List Nat) (other : Component) :
    builder.tree form depth key (component.replace (index :: rest) other) =
      .node ⟨component.type, component.properName?, key⟩ prepared.backend prepared.props
        prepared.layout
        (builder.trees form (depth + 1) 0
          (component.children.modify index (·.replace rest other))) := by
  rw [Component.replace_cons, builder.tree_of_prepared ((prepare_children ..).trans ready)]
  rfl

variable (form)

theorem face_of_replace (component : Component) (depth : Int) (key : Value)
    {position place : List Nat} (apart : ¬position <+: place) (other : Component) :
    ((builder.tree form depth key (component.replace position other)).at? place).map Tree.face =
      ((builder.tree form depth key component).at? place).map Tree.face := by
  induction position generalizing component depth key place with
  | nil => exact absurd List.nil_prefix apart
  | cons index rest ih =>
    cases prepared : builder.prepare component form key depth with
    | error failure =>
      rw [builder.tree_replace_of_failed prepared, builder.tree_of_failed prepared]
    | ok ready =>
      rw [builder.tree_replace_of_prepared prepared, builder.tree_of_prepared prepared]
      cases place with
      | nil => simp [Tree.at?, Tree.face, Tree.childless, Tree.children, trees_length]
      | cons first more =>
        simp only [Tree.at?_cons, Tree.children, trees_getElem?]
        by_cases same : index = first
        · subst same
          -- Below the child on the way the places are apart as well.
          have lower : ¬rest <+: more := fun inside =>
            apart (List.cons_prefix_cons.mpr ⟨rfl, inside⟩)
          cases found : component.children[index]? with
          | none => simp [found]
          | some child => simpa [found] using ih child _ _ lower
        · simp [List.getElem?_modify_ne _ _ same]

theorem at?_of_replace (component : Component) (depth : Int) (key : Value) (position : List Nat)
    (other : Component) :
    (builder.tree form depth key (component.replace position other)).at? position =
      ((builder.tree form depth key component).at? position).map fun _ =>
        builder.tree form (depth + position.length) (keyAt key position) other := by
  induction position generalizing component depth key with
  | nil => simp [Component.replace, Tree.at?, keyAt]
  | cons index rest ih =>
    cases prepared : builder.prepare component form key depth with
    | error failure =>
      -- Nothing stands below a failure.
      rw [builder.tree_replace_of_failed prepared, builder.tree_of_failed prepared]
      rfl
    | ok ready =>
      rw [builder.tree_replace_of_prepared prepared, builder.tree_of_prepared prepared]
      simp only [Tree.at?_cons, Tree.children, trees_getElem?]
      have level := level_cons depth index rest
      cases found : component.children[index]? with
      | none => simp [found]
      | some child => simpa [found, keyAt, level] using ih child (depth + 1) (.int index)

theorem reportsAll_modify (components : List Component) (depth : Int) (start index : Nat) :
    ∃ before after, ∀ change : Component → Component,
      builder.reportsAll form depth start (components.modify index change) =
        before ++ ((components[index]?).elim [] fun child =>
          builder.reports form depth (.int (start + index : Nat)) (change child)) ++ after := by
  induction components generalizing start index with
  | nil => exact ⟨[], [], fun change => by simp⟩
  | cons component rest ih =>
    cases index with
    | zero => exact ⟨[], builder.reportsAll form depth (start + 1) rest, fun change => by simp⟩
    | succ index =>
      obtain ⟨before, after, split⟩ := ih (start + 1) index
      have shift : start + 1 + index = start + (index + 1) := by omega
      refine ⟨builder.reports form depth (.int start) component ++ before, after,
        fun change => ?_⟩
      simp [split, shift]

theorem reports_of_replace (component : Component) (depth : Int) (key : Value)
    (position : List Nat) :
    ∃ before after, ∀ other,
      builder.reports form depth key (component.replace position other) =
        before ++ (((builder.tree form depth key component).at? position).elim [] fun _ =>
          builder.reports form (depth + position.length) (keyAt key position) other) ++ after := by
  induction position generalizing component depth key with
  | nil => exact ⟨[], [], fun other => by simp [Component.replace, Tree.at?, keyAt]⟩
  | cons index rest ih =>
    cases prepared : builder.prepare component form key depth with
    | error failure =>
      refine ⟨failure.reports component.type, [], fun other => ?_⟩
      rw [builder.tree_of_failed prepared, Component.replace_cons, reports_eq, prepare_children,
        prepared]
      simp [failureTree, Tree.at?_cons, Tree.children]
    | ok ready =>
      obtain ⟨before, after, split⟩ :=
        builder.reportsAll_modify form component.children (depth + 1) 0 index
      have level := level_cons depth index rest
      have own (other : Component) :
          builder.reports form depth key (component.replace (index :: rest) other) =
            builder.reportsAll form (depth + 1) 0
              (component.children.modify index (·.replace rest other)) := by
        rw [Component.replace_cons, reports_eq, prepare_children, prepared]
      rw [builder.tree_of_prepared prepared]
      simp only [Tree.at?_cons, Tree.children, trees_getElem?]
      cases found : component.children[index]? with
      | none => exact ⟨before, after, fun other => by simp [own, split, found]⟩
      | some child =>
        -- The reports of the child split around those at the position below it.
        obtain ⟨left, right, inner⟩ := ih child (depth + 1) (.int index)
        refine ⟨before ++ left, right ++ after, fun other => ?_⟩
        rw [own, split, found]
        simp [inner, keyAt, level]

end Replacement

/-- Whatever is put at a position, the build is the same at every place that is neither there nor
below, and the reports of what stands there lie between the same others. They are the reports of
what was put there built on its own, or none if something above the position fails. -/
theorem build_isolates (builder : TreeBuilder) (context : BuildContext) (key : Value)
    (component : Component) (position : List Nat) :
    let run (other : Component) := builder.build context key (component.replace position other)
    let alone (other : Component) :=
      builder.build { form := context.form, depth := context.depth + position.length }
        (keyAt key position) other
    let reached := ((builder.build context key component).result.at? position).isSome
    (∀ other, (component.replace position other).at? position =
      (component.at? position).map fun _ => other) ∧
    (∀ first second place, ¬position <+: place →
      ((run first).result.at? place).map Tree.face =
        ((run second).result.at? place).map Tree.face) ∧
    (∀ other, (run other).result.at? position =
      if reached then some (alone other).result else none) ∧
    ∃ before after, ∀ other, (run other).errors =
      context.errors ++ before ++ (if reached then (alone other).errors else []) ++ after := by
  intro run alone reached
  have result (source : Component) := (builder.build_frames source context key).1
  have errors (source : Component) := (builder.build_frames source context key).2
  have isReached : reached = ((builder.tree context.form context.depth key component).at?
      position).isSome := by
    simp only [reached, result]
  refine ⟨fun other => component.at?_replace position other, ?_, ?_, ?_⟩
  · intro first second place apart
    simp only [run, result]
    rw [builder.face_of_replace _ _ _ _ apart, builder.face_of_replace _ _ _ _ apart]
  · intro other
    simp only [run, result, builder.at?_of_replace, isReached]
    cases (builder.tree context.form context.depth key component).at? position <;> rfl
  · obtain ⟨before, after, split⟩ :=
      builder.reports_of_replace context.form component context.depth key position
    refine ⟨before, after, fun other => ?_⟩
    simp only [run, errors, split, isReached]
    cases (builder.tree context.form context.depth key component).at? position <;>
      simp [alone, reports]

theorem build_isolates_sampleRoot :
    let builder : TreeBuilder := ⟨sampleRegistry, {}⟩
    let run (other : Component) :=
      builder.build { depth := 3, errors := ["earlier"] } .null (sampleRoot.replace [1] other)
    (¬[1] <+: [0] ∧
      ((run { type := "Dial" }).result.at? [0]).map Tree.face =
        ((run { type := "Panel" }).result.at? [0]).map Tree.face) ∧
    (run { type := "Dial" }).errors =
      ["earlier", "Error creating component Gauge: boom", "Unknown component type: Dial"] ∧
    (run { type := "Panel" }).errors = ["earlier", "Error creating component Gauge: boom"] := by
  have apart : ¬[1] <+: [0] := by decide
  have isolates := build_isolates ⟨sampleRegistry, {}⟩ { depth := 3, errors := ["earlier"] } .null
    sampleRoot [1]
  exact ⟨⟨apart, isolates.2.1 { type := "Dial" } { type := "Panel" } [0] apart⟩, by decide,
    by decide⟩

end TreeBuilder

end FormCompiler
