import FormCompiler.Proofs.Tree.Build

set_option autoImplicit false

namespace FormCompiler

namespace Json

theorem compactItems?_texts (levels : Nat) (texts : List String) :
    compactItems? levels (texts.map .text) = some (texts.map .text) := by
  induction texts with
  | nil => rfl
  | cons text rest ih => simp [compactItems?, compact?, ih]

theorem toJson_texts (texts : List String) :
    (Value.list (texts.map .text)).toJson =
      .ok ((Tree.array (texts.map .text)).write .compact) := by
  simp [Value.toJson, compact?, compactLevels, compactItems?_texts]

end Json

namespace TreeBuilder

def keyAt (key : Value) : List Nat → Value
  | [] => key
  | index :: rest => keyAt (.int index) rest

-- What stands in the place of a component: a failure for the first reason against it, or a node
-- with its children keyed by their index if there is none.
inductive Stands (builder : TreeBuilder) (form : Option String) (depth : Int) (key : Value)
    (source : Component) : Tree → Prop where
  | failure {failure : BuildFailure} {props : Props}
    (prevented : builder.Prevented form depth source failure) :
    Stands builder form depth key source
      (.failure ⟨if source.type.isEmpty then Component.unknownType else source.type,
        source.properName?, key⟩ failure.messages props)
  | node {definition : Definition} {props : Props} {layout : Option Bag} {children : List Tree}
    (free : ∀ failure, ¬builder.Prevented form depth source failure)
    (resolved : builder.registry.get? source.type = some definition)
    (length_eq : children.length = source.children.length)
    (keyed : ∀ (index : Nat) (child : Tree),
      children[index]? = some child → child.identity.key = .int index) :
    Stands builder form depth key source
      (.node ⟨source.type, source.properName?, key⟩ definition.backend props layout children)

def Reported (builder : TreeBuilder) (form : Option String) (depth : Int) (root : Component)
    (entry : List Nat × Tree) (texts : List String) : Prop :=
  ∃ source failure, root.at? entry.1 = some source ∧
    builder.Prevented form (depth + entry.1.length) source failure ∧
    texts = failure.reports source.type

section Positions

variable (builder : TreeBuilder) (form : Option String)

theorem tree_key (depth : Int) (key : Value) (component : Component) :
    (builder.tree form depth key component).identity.key = key := by
  rw [tree_eq]
  cases builder.prepare component form key depth <;> rfl

theorem tree_stands (depth : Int) (key : Value) (component : Component) :
    builder.Stands form depth key component (builder.tree form depth key component) := by
  rw [tree_eq]
  cases prepared : builder.prepare component form key depth with
  | error failure => exact .failure (prevented_of_prepare prepared)
  | ok ready =>
    obtain ⟨definition, props, known, -, rfl⟩ := of_prepare prepared
    refine .node (fun failure prevented => ?_) known (builder.trees_length _ _ _ _) ?_
    · rw [prevented.prepare_eq] at prepared
      cases prepared
    · intro index child found
      rw [trees_getElem?, Option.map_eq_some_iff] at found
      obtain ⟨source, -, rfl⟩ := found
      simpa using builder.tree_key form (depth + 1) (.int (0 + index : Nat)) source

theorem tree_at?_cons {depth : Int} {key : Value} {component : Component}
    (built : (builder.tree form depth key component).isFailure = false) (index : Nat)
    (rest : List Nat) :
    (builder.tree form depth key component).at? (index :: rest) =
      (component.children[index]?).bind fun child =>
        (builder.tree form (depth + 1) (.int index) child).at? rest := by
  rw [tree_eq] at built ⊢
  cases prepared : builder.prepare component form key depth with
  | error failure => simp [prepared, failureTree, Tree.isFailure] at built
  | ok ready =>
    simp only [Tree.at?_cons, Tree.children, trees_getElem?, Nat.zero_add]
    cases component.children[index]? <;> rfl

theorem at?_of_built_above {component source : Component} (depth : Int) (key : Value)
    {position : List Nat} (found : component.at? position = some source)
    (above : ∀ higher, higher <+: position → higher ≠ position →
      ∃ built, (builder.tree form depth key component).at? higher = some built ∧
        built.isFailure = false) :
    ∃ tree, (builder.tree form depth key component).at? position = some tree ∧
      builder.Stands form (depth + position.length) (keyAt key position) source tree := by
  induction position generalizing component depth key with
  | nil =>
    cases found
    refine ⟨_, rfl, ?_⟩
    simpa [keyAt] using builder.tree_stands form depth key source
  | cons index rest ih =>
    -- The topmost component was built, so that the position goes on below one of its children.
    obtain ⟨root, isRoot, built⟩ := above [] (List.nil_prefix) (by simp)
    cases isRoot
    rw [Component.at?_cons, Option.bind_eq_some_iff] at found
    obtain ⟨child, isChild, below⟩ := found
    have down := builder.tree_at?_cons form built index
    simp only [isChild, Option.bind_some] at down
    obtain ⟨tree, placed, stands⟩ := ih (depth + 1) (.int index) below
      fun higher isPrefix differs => by
        have placed := above (index :: higher) (by simpa using isPrefix) (by simpa using differs)
        simpa [down] using placed
    refine ⟨tree, by rw [down, placed], ?_⟩
    have level := level_cons depth index rest
    simpa [keyAt, level] using stands

theorem tree_of_at? {component : Component} {depth : Int} {key : Value} {position : List Nat}
    {tree : Tree} (found : (builder.tree form depth key component).at? position = some tree) :
    ∃ source, component.at? position = some source ∧
      tree = builder.tree form (depth + position.length) (keyAt key position) source := by
  induction position generalizing component depth key with
  | nil =>
    cases found
    exact ⟨component, rfl, by simp [keyAt]⟩
  | cons index rest ih =>
    cases built : (builder.tree form depth key component).isFailure with
    | true =>
      -- Nothing stands below a failure.
      rw [Tree.at?_cons] at found
      cases shape : builder.tree form depth key component with
      | node => simp [shape, Tree.isFailure] at built
      | failure => simp [shape, Tree.children] at found
    | false =>
      rw [builder.tree_at?_cons form built, Option.bind_eq_some_iff] at found
      obtain ⟨child, isChild, below⟩ := found
      obtain ⟨source, reaches, same⟩ := ih below
      have level := level_cons depth index rest
      refine ⟨source, ?_, by rw [same, level, keyAt]⟩
      rw [Component.at?_cons, isChild]
      exact reaches

theorem source_of_at? {component : Component} {depth : Int} {key : Value} {position : List Nat}
    {tree : Tree} (found : (builder.tree form depth key component).at? position = some tree) :
    ∃ source, component.at? position = some source :=
  (builder.tree_of_at? form found).imp fun _ reached => reached.1

theorem Reported.cons {depth : Int} {root child : Component} {index : Nat}
    (isChild : root.children[index]? = some child) {entry : List Nat × Tree} {texts : List String}
    (reported : builder.Reported form (depth + 1) child entry texts) :
    builder.Reported form depth root (index :: entry.1, entry.2) texts := by
  obtain ⟨source, failure, found, prevented, rfl⟩ := reported
  refine ⟨source, failure, by rw [Component.at?_cons, isChild]; exact found, ?_, rfl⟩
  have level := level_cons depth index entry.1
  rwa [level] at prevented

/-- The reports of a build in parts, one for each failure that a walk over its tree meets. -/
def ReportsFailures (depth : Int) (component : Component) : Prop :=
  ∀ key, ∃ texts, builder.reports form depth key component = texts.flatten ∧
    List.Forall₂ (builder.Reported form depth component)
      ((builder.tree form depth key component).placed.filter (·.2.isFailure)) texts

theorem reportsAll_of_failures {depth : Int} {root : Component}
    (each : ∀ child ∈ root.children, builder.ReportsFailures form (depth + 1) child)
    (components : List Component) (start : Nat)
    (suffix : ∀ index, components[index]? = root.children[start + index]?) :
    ∃ texts, builder.reportsAll form (depth + 1) start components = texts.flatten ∧
      List.Forall₂ (builder.Reported form depth root)
        ((Tree.placedAll start (builder.trees form (depth + 1) start components)).filter
          (·.2.isFailure)) texts := by
  induction components generalizing start with
  | nil => exact ⟨[], rfl, by simp [Tree.placedAll]⟩
  | cons child rest ih =>
    have isChild : root.children[start]? = some child := by simpa using (suffix 0).symm
    obtain ⟨first, firstReports, firstFailures⟩ :=
      each child (List.mem_of_getElem? isChild) (.int start)
    obtain ⟨later, laterReports, laterFailures⟩ := ih (start + 1) fun index => by
      simpa [Nat.add_assoc, Nat.add_comm 1] using suffix (index + 1)
    -- The walk meets the failures below the first child before those below the others.
    refine ⟨first ++ later, ?_, ?_⟩
    · simp [firstReports, laterReports]
    · simp only [trees_cons, Tree.placedAll, List.filter_append, List.filter_map]
      refine List.rel_append ?_ laterFailures
      rw [List.forall₂_map_left_iff]
      exact firstFailures.imp fun _ _ reported => reported.cons builder form isChild

theorem reports_of_failures (component : Component) (depth : Int) :
    builder.ReportsFailures form depth component := by
  induction component using Component.induct generalizing depth with
  | step component ih =>
    intro key
    rw [tree_eq, reports_eq]
    cases prepared : builder.prepare component form key depth with
    | error failure =>
      refine ⟨[failure.reports component.type], by simp, ?_⟩
      simp only [failureTree, Tree.placed, Tree.isFailure, List.filter_cons_of_pos,
        List.filter_nil, List.forall₂_cons, List.Forall₂.nil, and_true]
      exact ⟨component, failure, rfl, by simpa using prevented_of_prepare prepared, rfl⟩
    | ok ready =>
      obtain ⟨texts, same, failures⟩ := builder.reportsAll_of_failures form
        (fun child member => ih child member (depth + 1)) component.children 0 (by simp)
      exact ⟨texts, same, by simpa [Tree.placed, Tree.isFailure] using failures⟩

end Positions

/-- A component whose ancestors were all built stands in its own place, and nothing stands anywhere
else. The errors of the context are followed by one report for each failure, in the order of a walk.
The only value that a failure node writes as JSON, its list of texts, always has a JSON text. -/
theorem build_mirrors_component (builder : TreeBuilder) (context : BuildContext) (key : Value)
    (component : Component) :
    let outcome := builder.build context key component
    (∀ position source, component.at? position = some source →
      (∀ higher, higher <+: position → higher ≠ position →
        ∃ built, outcome.result.at? higher = some built ∧ built.isFailure = false) →
      ∃ tree, outcome.result.at? position = some tree ∧
        builder.Stands context.form (context.depth + position.length) (keyAt key position) source
          tree) ∧
    (∀ position tree, outcome.result.at? position = some tree →
      (∃ source, component.at? position = some source) ∧
        (tree.isFailure = true → tree.children = [])) ∧
    (∃ texts, outcome.errors = context.errors ++ texts.flatten ∧
      List.Forall₂ (builder.Reported context.form context.depth component)
        (outcome.result.placed.filter (·.2.isFailure)) texts) ∧
    outcome.result.placed.map Prod.snd = outcome.result.preorder ∧
    ∀ texts : List String, ∃ written, (Value.list (texts.map .text)).toJson = .ok written := by
  obtain ⟨result, errors⟩ := builder.build_frames component context key
  simp only [result, errors]
  refine ⟨fun position source found above => builder.at?_of_built_above _ _ _ found above, ?_, ?_,
    Tree.placed_map_snd _, fun texts => ⟨_, Json.toJson_texts texts⟩⟩
  · intro position tree found
    refine ⟨builder.source_of_at? _ found, fun failed => ?_⟩
    cases tree with
    | node => cases failed
    | failure => rfl
  · obtain ⟨texts, same, failures⟩ :=
      builder.reports_of_failures context.form component context.depth key
    exact ⟨texts, by rw [same], failures⟩

def sampleRegistry : Registry where
  builtins := [
    ("Panel", { backend := .named "Panel" }),
    ("Gauge",
      { backend := .named "Gauge"
        mapping := some [("size", "size")]
        transforms := some [("size", fun _ => .error "boom")] })]

def sampleRoot : Component where
  type := "Panel"
  children := [
    { type := "Gauge", name := .text "gauge", properties := [("size", .int 1)] },
    { type := "Panel", name := .text "inner", children := [{ type := "Dial" }] }]

theorem build_sampleRoot :
    let builder : TreeBuilder := ⟨sampleRegistry, {}⟩
    let outcome := builder.build { depth := 3, errors := ["earlier"] } .null sampleRoot
    (∃ tree, outcome.result.at? [1, 0] = some tree ∧
      builder.Stands none 5 (.int 0) { type := "Dial" } tree) ∧
    outcome.errors =
      ["earlier", "Error creating component Gauge: boom", "Unknown component type: Dial"] := by
  refine ⟨?_, by decide⟩
  have mirrors := build_mirrors_component ⟨sampleRegistry, {}⟩ { depth := 3, errors := ["earlier"] }
    .null sampleRoot
  refine mirrors.1 [1, 0] { type := "Dial" } rfl fun higher isPrefix differs => ?_
  have among : higher = [] ∨ ∃ rest, higher = 1 :: rest ∧ (rest = [] ∨ rest = [0]) := by
    simpa [List.prefix_cons_iff] using isPrefix
  rcases among with rfl | ⟨rest, rfl, rfl | rfl⟩
  · exact ⟨_, rfl, by decide⟩
  · exact ⟨_, rfl, by decide⟩
  · exact absurd rfl differs

end TreeBuilder

end FormCompiler
