import FormCompiler.Proofs.Form.Usable
import FormCompiler.Proofs.Tree.Isolation

set_option autoImplicit false

namespace FormCompiler

theorem Tree.isFailure_childless (tree : Tree) : tree.childless.isFailure = tree.isFailure := by
  cases tree <;> rfl

namespace TreeBuilder

section Values

variable (builder : TreeBuilder)

def unusable (context : BuildContext) (key value : Value) : BuildOutcome Tree :=
  let message := "Invalid component definition: " ++ value.typeName
  ⟨builder.failureTree (remnant value) key [message], context.errors ++ [message], []⟩

theorem buildValue_of_read {value : Value} {component : Component}
    (reads : Component.read value = .good component) (context : BuildContext) (key : Value) :
    builder.buildValue context key value = builder.build context key component := by
  rw [buildValue, reads]

theorem buildValue_of_unusable {value : Value} (no : ¬Component.Usable value)
    (context : BuildContext) (key : Value) :
    builder.buildValue context key value = builder.unusable context key value := by
  rw [buildValue]
  cases reads : Component.read value with
  | good component => exact absurd ((Component.usable_iff value).mpr ⟨component, reads⟩) no
  | bad issues => rfl

theorem buildValues_of_read {items : List Value} {components : List Component}
    (each : List.Forall₂ (fun item component => Component.read item = .good component)
      items components) (context : BuildContext) (index : Nat) :
    builder.buildValues context index items = builder.buildAll context index components := by
  induction each generalizing context index with
  | nil => rfl
  | cons first _ ih => rw [buildValues, buildAll, builder.buildValue_of_read first, ih]

theorem buildValue_with_errors (context : BuildContext) (errors : List String)
    (key value : Value) :
    (builder.buildValue { context with errors } key value).result =
      (builder.buildValue context key value).result := by
  simp only [buildValue]
  cases Component.read value with
  | good component =>
    exact ((builder.build_frames component _ key).1).trans
      ((builder.build_frames component context key).1).symm
  | bad issues => rfl

theorem buildValues_result (items : List Value) (context : BuildContext) (start : Nat) :
    (builder.buildValues context start items).result =
      items.mapIdx fun index item =>
        (builder.buildValue context (.int (start + index : Nat)) item).result := by
  induction items generalizing context start with
  | nil => rfl
  | cons item rest ih =>
    have shift (index : Nat) : start + 1 + index = start + (index + 1) := by omega
    simp only [buildValues, ih, builder.buildValue_with_errors, List.mapIdx_cons, shift,
      Nat.add_zero]

theorem childless_build (context : BuildContext) (key : Value) (component : Component) :
    (builder.build context key component).result.childless =
      (builder.build context key { component with children := [] }).result := by
  rw [build_eq, build_eq, prepare_children]
  cases builder.prepare component context.form key context.depth with
  | error failure => rfl
  | ok prepared => rfl

theorem below_of_built {context : BuildContext} {key : Value} {component : Component}
    (built : (builder.build context key component).result.isFailure = false) :
    (builder.build context key component).result.children =
        (builder.buildAll context.below 0 component.children).result ∧
      (builder.build context key component).errors =
        (builder.buildAll context.below 0 component.children).errors := by
  rw [build_eq] at built ⊢
  cases prepared : builder.prepare component context.form key context.depth with
  | error failure =>
    rw [prepared] at built
    cases built
  | ok ready => exact ⟨rfl, rfl⟩

end Values

-- Failures in a mapping stay with what it lists: at the top it is what its own fields are built to,
-- with one child for each listed value, built as if it were given on its own.
structure Isolates (builder : TreeBuilder) (context : BuildContext) (key : Value)
    (entries : List (Value × Value)) (items : List Value) : Prop where
  top : (builder.buildValue context key (.map entries)).result.childless =
    (builder.buildValue context key (.map (Component.ownFields entries))).result
  children : (builder.buildValue context key (.map entries)).result.children =
    items.mapIdx fun index item =>
      (builder.buildValue context.below (.int index) item).result
  errors : (builder.buildValue context key (.map entries)).errors =
    (builder.buildValues context.below 0 items).errors

theorem isolates_of_usable {builder : TreeBuilder} {context : BuildContext} {key : Value}
    {entries : List (Value × Value)} {items : List Value}
    (listed : Component.listedChildren? entries = some items)
    (builds : (builder.buildValue context key
      (.map (Component.ownFields entries))).result.isFailure = false)
    (usable : Component.Usable (.map entries)) : builder.Isolates context key entries items := by
  obtain ⟨component, reads⟩ := (Component.usable_iff _).mp usable
  obtain ⟨own, areChildren⟩ := (Component.read_map_eq_good_iff entries component).mp reads
  obtain ⟨others, same, each⟩ := (Component.readChildren_eq_good_iff _ _).mp areChildren
  cases listed.symm.trans same
  -- The mapping and its own fields read as one component, with its children and without them.
  have whole := builder.buildValue_of_read reads context key
  have alone := builder.buildValue_of_read own context key
  have below := builder.buildValues_of_read each context.below 0
  have top : (builder.buildValue context key (.map entries)).result.childless =
      (builder.buildValue context key (.map (Component.ownFields entries))).result := by
    rw [whole, alone, childless_build]
  have built : (builder.build context key component).result.isFailure = false := by
    rw [← whole, ← Tree.isFailure_childless, top, builds]
  obtain ⟨children, errors⟩ := builder.below_of_built built
  constructor
  · exact top
  · rw [whole, children, ← below, buildValues_result]
    simp only [Nat.zero_add]
  · rw [whole, errors, below]

/-- If the own fields of a mapping build, failures stay with the listed values exactly if all of
these are components. A listed value that is none would fail alone, but the mapping fails for it. -/
theorem buildValue_isolates_iff (builder : TreeBuilder) (context : BuildContext) (key : Value)
    {entries : List (Value × Value)} {items : List Value}
    (listed : Component.listedChildren? entries = some items)
    (builds : (builder.buildValue context key
      (.map (Component.ownFields entries))).result.isFailure = false) :
    (builder.Isolates context key entries items ↔ ∀ item ∈ items, Component.Usable item) ∧
    ∀ item ∈ items, ¬Component.Usable item →
      builder.buildValue context key (.map entries) =
          builder.unusable context key (.map entries) ∧
        ∀ index : Nat, builder.buildValue context.below (.int index) item =
          builder.unusable context.below (.int index) item := by
  have fails {item : Value} (member : item ∈ items) (no : ¬Component.Usable item) :
      builder.buildValue context key (.map entries) =
        builder.unusable context key (.map entries) := by
    apply buildValue_of_unusable
    intro usable
    cases usable with
    | mapping own same each =>
      -- A mapping has one list of children only.
      cases listed.symm.trans same
      exact no (each item member)
  constructor
  · constructor
    · intro isolates item member
      by_contra no
      -- A failure has no children, but there is an item.
      have children := isolates.children
      rw [fails member no] at children
      have empty := congrArg List.length children
      rw [List.length_mapIdx] at empty
      exact List.not_mem_nil ((List.eq_nil_of_length_eq_zero empty.symm) ▸ member)
    · intro usable
      -- What builds to a node has been read.
      have own : ∃ head, Component.read (.map (Component.ownFields entries)) = .good head := by
        rw [← Component.usable_iff]
        by_contra no
        rw [builder.buildValue_of_unusable no] at builds
        cases builds
      obtain ⟨head, reads⟩ := own
      exact isolates_of_usable listed builds (.mapping reads listed usable)
  · intro item member no
    exact ⟨fails member no, fun index => builder.buildValue_of_unusable no _ _⟩

theorem buildValue_isolates_iff_strayNumber :
    let builder : TreeBuilder := ⟨sampleRegistry, {}⟩
    let panel (items : List Value) : List (Value × Value) :=
      [(.text "type", .text "Panel"), (.text "components", .list items)]
    let inner : Value := .map (panel [])
    builder.Isolates {} .null (panel [inner]) [inner] ∧
    ¬builder.Isolates {} .null (panel [inner, .int 5]) [inner, .int 5] ∧
    (builder.buildValue {} .null (.map (panel [inner, .int 5]))).errors =
      ["Invalid component definition: dict"] ∧
    (builder.buildValue { depth := 1 } (.int 0) inner).result.isFailure = false := by
  intro builder panel inner
  have isInner : Component.Usable inner := (Component.usable_iff inner).mpr ⟨_, rfl⟩
  have noNumber : ¬Component.Usable (.int 5) := nofun
  have listsInner : Component.listedChildren? (panel [inner]) = some [inner] := rfl
  have listsNumber : Component.listedChildren? (panel [inner, .int 5]) = some [inner, .int 5] := rfl
  have good := buildValue_isolates_iff builder {} .null listsInner (by decide)
  have stray := buildValue_isolates_iff builder {} .null listsNumber (by decide)
  constructor
  · exact good.1.mpr (by simpa using isInner)
  constructor
  · exact fun isolates => noNumber (stray.1.mp isolates (.int 5) (by simp))
  · exact ⟨by decide, by decide⟩

end TreeBuilder

end FormCompiler
