import FormCompiler.Proofs.Tree.Handlers

set_option autoImplicit false

namespace FormCompiler

namespace Props

def without (keys : List String) (props : Props) : Props :=
  props.filter fun entry => !keys.any fun key => entry.1 == .text key

section Without

variable {keys : List String}

theorem without_set {key : String} (among : key ∈ keys) (props : Props) (value : Value) :
    without keys (Entries.set props (.text key) value) = without keys props := by
  have dropped : (keys.any fun other => (Value.text key : Value) == .text other) = true :=
    List.any_eq_true.mpr ⟨key, among, (Value.beq_text_iff _ key).mpr rfl⟩
  induction props with
  | nil => simp [Entries.set, without, dropped]
  | cons entry rest ih =>
    by_cases same : entry.1 = .text key
    · -- The entry that is written again keeps its key, and so it is dropped before and after.
      have written : Entries.set (entry :: rest) (.text key) value = (.text key, value) :: rest := by
        simp [Entries.set, same, Value.beq_text_iff]
      simp [written, without, same, dropped]
    · have written : Entries.set (entry :: rest) (.text key) value =
          entry :: Entries.set rest (.text key) value := by
        simp [Entries.set, Value.beq_text_iff, same]
      simp only [without] at ih
      simp [written, without, List.filter_cons, ih]

theorem without_write {bag : Bag} (among : Entries.keys bag ⊆ keys) (props : Props) :
    without keys (props.write bag) = without keys props := by
  induction bag generalizing props with
  | nil => rfl
  | cons entry rest ih =>
    obtain ⟨first, others⟩ := List.cons_subset.mp among
    have step : props.write (entry :: rest) =
        write (Entries.set props (.text entry.1) entry.2) rest := rfl
    rw [step, ih others, without_set first]

end Without

end Props

namespace Bag

theorem toProps_set (bag : Bag) (key : String) (value : Value) :
    toProps (Entries.set bag key value) = Entries.set bag.toProps (.text key) value := by
  induction bag with
  | nil => rfl
  | cons entry rest ih =>
    simp only [toProps] at ih
    by_cases same : entry.1 = key
    · simp [Entries.set, toProps, same, Value.beq_text_iff]
    · simp [Entries.set, toProps, same, Value.beq_text_iff, ih]

theorem toProps_update (base later : Bag) :
    toProps (Entries.update base later) = Props.write base.toProps later := by
  induction later generalizing base with
  | nil => rfl
  | cons entry rest ih =>
    have step := ih (Entries.set base entry.1 entry.2)
    rw [toProps_set] at step
    exact step

end Bag

namespace Tree

mutual

def without (keys : List String) : Tree → Tree
  | .node identity backend props layout children =>
    .node identity backend (props.without keys) layout (withoutAll keys children)
  | .failure identity errors props => .failure identity errors (props.without keys)
termination_by structural tree => tree

def withoutAll (keys : List String) : List Tree → List Tree
  | [] => []
  | tree :: rest => without keys tree :: withoutAll keys rest
termination_by structural trees => trees

end

end Tree

namespace TreeBuilder

def debugKeys : List String :=
  ["data-anvil-type", "data-anvil-name", "data-anvil-depth", "data-anvil-errors"]

def debugging (builder : TreeBuilder) (debug : Bool) : TreeBuilder :=
  { builder with options := { builder.options with debug } }

section Debugging

variable (builder : TreeBuilder) (component : Component) (form : Option String) (key : Value)

theorem propsOf_debugging (definition : Definition) (depth : Int) :
    (builder.debugging true).propsOf component definition form key depth =
      ((builder.debugging false).propsOf component definition form key depth).map
        (·.write (debugProps component depth)) := by
  simp only [propsOf, bind, Except.bind, pure, Except.pure]
  cases Properties.mapped definition ⟨some component.type, component.properName?, form⟩
    component.properties.toProps <;> rfl

theorem prepare_debugging (depth : Int) :
    (builder.debugging true).prepare component form key depth =
      ((builder.debugging false).prepare component form key depth).map fun prepared =>
        { prepared with props := prepared.props.write (debugProps component depth) } := by
  have limit : (builder.debugging true).options.maxDepth =
      (builder.debugging false).options.maxDepth := rfl
  have checks : (builder.debugging true).findings component =
      (builder.debugging false).findings component := rfl
  have registry : (builder.debugging true).registry = (builder.debugging false).registry := rfl
  simp only [prepare, limit, checks, registry, propsOf_debugging]
  by_cases deep : (builder.debugging false).options.maxDepth < depth
  · simp only [deep, if_true, Except.map]
  cases faulty : !((builder.debugging false).findings component).isEmpty with
  | true => simp only [deep, if_false, if_true, Except.map]
  | false =>
    simp only [deep, if_false, Bool.false_eq_true]
    cases (builder.debugging false).registry.get? component.type with
    | none => rfl
    | some definition =>
      cases mapped : (builder.debugging false).propsOf component definition form key depth with
      | error cause => simp only [mapped, Except.map]
      | ok props => simp only [mapped, Except.map]

theorem failureTree_debugging (errors : List String) :
    ((builder.debugging true).failureTree component key errors).without debugKeys =
      ((builder.debugging false).failureTree component key errors).without debugKeys := by
  have among : Entries.keys (errorDebugProps component errors) ⊆ debugKeys := by
    simp [errorDebugProps, Entries.keys, debugKeys]
  simp [failureTree, debugging, Tree.without, Bag.toProps_update, Props.without_write among]

-- The errors are shown as JSON, which a list of texts always has.
theorem failureTree_debugging_errors (errors : List String) :
    ∃ written, (Value.list (errors.map .text)).toJson = .ok written ∧
      Entries.get? ((builder.debugging true).failureTree component key errors).props
        (.text "data-anvil-errors") = some (.text written) := by
  refine ⟨_, Json.toJson_texts errors, ?_⟩
  simp only [failureTree, Tree.props, Bag.get?_toProps]
  simp [debugging, errorDebugProps, Json.toJson_texts, Except.toOption, Entries.update,
    Entries.get?_set]

-- Builds of one component at any depth, with and without the attributes.
def AlikeButDebug : Prop :=
  ∀ (depth : Int) (key : Value),
    ((builder.debugging true).tree form depth key component).without debugKeys =
        ((builder.debugging false).tree form depth key component).without debugKeys ∧
      (builder.debugging true).reports form depth key component =
        (builder.debugging false).reports form depth key component

variable {builder form} in
theorem alikeButDebug_all {components : List Component}
    (each : ∀ component ∈ components, builder.AlikeButDebug component form) (depth : Int)
    (index : Nat) :
    Tree.withoutAll debugKeys ((builder.debugging true).trees form depth index components) =
        Tree.withoutAll debugKeys ((builder.debugging false).trees form depth index components) ∧
      (builder.debugging true).reportsAll form depth index components =
        (builder.debugging false).reportsAll form depth index components := by
  induction components generalizing index with
  | nil => exact ⟨rfl, rfl⟩
  | cons component rest ih =>
    obtain ⟨tree, reports⟩ := each component List.mem_cons_self depth (.int index)
    obtain ⟨trees, reportsAll⟩ :=
      ih (fun other member => each other (List.mem_cons_of_mem _ member)) (index + 1)
    simp only [trees_cons, reportsAll_cons, Tree.withoutAll, tree, reports, trees, reportsAll,
      and_self]

theorem alikeButDebug : builder.AlikeButDebug component form := by
  induction component using Component.induct with
  | step component ih =>
    intro depth key
    rw [tree_eq, tree_eq, reports_eq, reports_eq, prepare_debugging]
    cases (builder.debugging false).prepare component form key depth with
    | error failure => exact ⟨builder.failureTree_debugging component key failure.messages, rfl⟩
    | ok prepared =>
      have among : Entries.keys (debugProps component depth) ⊆ debugKeys := by
        simp [debugProps, Entries.keys, debugKeys]
      obtain ⟨trees, reports⟩ := alikeButDebug_all ih (depth + 1) 0
      simp only [Except.map, Tree.without, Props.without_write among, trees, reports, and_self]

end Debugging

/-- A debug build that starts at the depth, against a plain build of the same input. -/
structure DebugOnlyAdds (debugged plain : BuildOutcome Tree) (depth : Int) : Prop where
  trees : debugged.result.without debugKeys = plain.result.without debugKeys
  errors : debugged.errors = plain.errors
  depths : ∀ position identity backend props layout children,
    debugged.result.at? position = some (.node identity backend props layout children) →
      Entries.get? props (.text "data-anvil-depth") = some (.int (depth + position.length))
  messages : ∀ position identity errors props,
    debugged.result.at? position = some (.failure identity errors props) →
      ∃ written, (Value.list (errors.map .text)).toJson = .ok written ∧
        Entries.get? props (.text "data-anvil-errors") = some (.text written)

theorem failure_of_at? {builder : TreeBuilder} {context : BuildContext} {key : Value}
    {root : Component} {position : List Nat} {identity : NodeIdentity} {errors : List String}
    {props : Props}
    (found : (builder.build context key root).result.at? position =
      some (.failure identity errors props)) :
    ∃ source, .failure identity errors props =
      builder.failureTree source (keyAt key position) errors := by
  rw [(builder.build_frames root context key).1] at found
  obtain ⟨source, -, same⟩ := builder.tree_of_at? context.form found
  rw [tree_eq] at same
  cases done : builder.prepare source context.form (keyAt key position)
      (context.depth + position.length) with
  | error failure =>
    rw [done] at same
    cases same
    exact ⟨source, rfl⟩
  | ok prepared =>
    rw [done] at same
    cases same

theorem build_debugOnlyAdds (builder : TreeBuilder) (context : BuildContext) (key : Value)
    (component : Component) :
    DebugOnlyAdds ((builder.debugging true).build context key component)
      ((builder.debugging false).build context key component) context.depth := by
  obtain ⟨debugTree, debugErrors⟩ := (builder.debugging true).build_frames component context key
  obtain ⟨plainTree, plainErrors⟩ := (builder.debugging false).build_frames component context key
  obtain ⟨trees, reports⟩ := builder.alikeButDebug component context.form context.depth key
  constructor
  · rw [debugTree, plainTree, trees]
  · rw [debugErrors, plainErrors, reports]
  · intro position identity backend props layout children found
    obtain ⟨source, definition, -, -, mapping⟩ := node_of_at? found
    rw [propsOf_debugging] at mapping
    cases plain : (builder.debugging false).propsOf source definition context.form
        (keyAt key position) (context.depth + position.length) with
    | error cause =>
      rw [plain] at mapping
      cases mapping
    | ok written =>
      rw [plain] at mapping
      cases mapping
      simp [Props.write, debugProps, Bag.toProps, Entries.update, Props.get?_set_text]
  · intro position identity errors props found
    obtain ⟨source, same⟩ := failure_of_at? found
    have shown := builder.failureTree_debugging_errors source (keyAt key position) errors
    rw [← same] at shown
    exact shown

/-- The debug option only adds attributes. Whatever is built, a component or a raw value, the trees
with and without it are the same once the attributes are left out, the same errors are reported, and
in the debug build every node shows its depth and every failure its errors. -/
theorem debug_only_adds (builder : TreeBuilder) (context : BuildContext) (key : Value) :
    (∀ component : Component,
      DebugOnlyAdds ((builder.debugging true).build context key component)
        ((builder.debugging false).build context key component) context.depth) ∧
    ∀ value : Value,
      DebugOnlyAdds ((builder.debugging true).buildValue context key value)
        ((builder.debugging false).buildValue context key value) context.depth := by
  constructor
  · exact builder.build_debugOnlyAdds context key
  · intro value
    simp only [buildValue]
    cases Component.read value with
    | good component => exact builder.build_debugOnlyAdds context key component
    | bad issues =>
      constructor
      · exact builder.failureTree_debugging (remnant value) key _
      · rfl
      · -- Neither a failure nor what is missing below it is a node.
        intro position identity backend props layout children found
        cases position with
        | nil => cases found
        | cons index rest => cases found
      · intro position identity errors props found
        cases position with
        | nil =>
          cases found
          exact builder.failureTree_debugging_errors (remnant value) key _
        | cons index rest => cases found

-- The panel has properties of its own under keys of the attributes, and the gauge fails.
def labelledRoot : Component where
  type := "Panel"
  properties := [("data-anvil-depth", .text "mine"), ("data-anvil-errors", .text "none")]
  children := [
    { type := "Gauge", name := .text "gauge", properties := [("size", .int 1)] },
    { type := "Panel", name := .text "inner" }]

theorem debug_only_adds_labelledRoot :
    let builder : TreeBuilder := ⟨sampleRegistry, {}⟩
    let debugged := (builder.debugging true).build { depth := 3 } .null labelledRoot
    let plain := (builder.debugging false).build { depth := 3 } .null labelledRoot
    debugged.result.without debugKeys = plain.result.without debugKeys ∧
    debugged.errors = plain.errors ∧ plain.errors = ["Error creating component Gauge: boom"] ∧
    (Entries.get? debugged.result.props (.text "data-anvil-depth") = some (.int 3) ∧
      Entries.get? plain.result.props (.text "data-anvil-depth") = some (.text "mine")) ∧
    (∃ inner, debugged.result.at? [1] = some inner ∧
      Entries.get? inner.props (.text "data-anvil-depth") = some (.int 4)) ∧
    ∃ gauge, debugged.result.at? [0] = some gauge ∧
      ∃ written, (Value.list [.text "boom"]).toJson = .ok written ∧
        Entries.get? gauge.props (.text "data-anvil-errors") = some (.text written) := by
  intro builder debugged plain
  obtain ⟨trees, errors, depths, messages⟩ :=
    (debug_only_adds builder { depth := 3 } .null).1 labelledRoot
  refine ⟨trees, errors, by decide, ⟨?_, rfl⟩, ?_, ?_⟩
  · exact depths [] _ _ _ _ _ rfl
  · exact ⟨_, rfl, depths [1] _ _ _ _ _ rfl⟩
  · exact ⟨_, rfl, messages [0] _ _ _ rfl⟩

end TreeBuilder

end FormCompiler
