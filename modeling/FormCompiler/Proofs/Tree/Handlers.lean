import FormCompiler.Proofs.Event.Recording
import FormCompiler.Proofs.Properties.Following
import FormCompiler.Proofs.Tree.Mirror

set_option autoImplicit false

namespace FormCompiler

namespace TreeBuilder

def ownKeys : List String :=
  ["key", "data-testid", "class_name", "data-anvil-type", "data-anvil-name", "data-anvil-depth"]

section Own

variable {target : String} (free : target ∉ ownKeys)

include free

theorem notMem_keyProps (key : Value) : target ∉ Entries.keys (keyProps key) := by
  simp only [ownKeys, List.mem_cons] at free
  cases absent : key.isNull <;> simp_all [keyProps, Entries.keys]

theorem notMem_nameProps (name : Option String) (props : Props) :
    target ∉ Entries.keys (nameProps name props) := by
  simp only [ownKeys, List.mem_cons] at free
  cases name <;> simp_all [nameProps, Entries.keys]

theorem notMem_debugProps (component : Component) (depth : Int) :
    target ∉ Entries.keys (debugProps component depth) := by
  simp only [ownKeys, List.mem_cons] at free
  simp_all [debugProps, Entries.keys]

theorem get?_propsOf {builder : TreeBuilder} {component : Component} {definition : Definition}
    {form : Option String} {key : Value} {depth : Int} {props : Props}
    (done : builder.propsOf component definition form key depth = .ok props) :
    ∃ mapped, Properties.mapped definition ⟨some component.type, component.properName?, form⟩
        component.properties.toProps = .ok mapped ∧
      Entries.get? props (.text target) = Entries.get? mapped (.text target) := by
  obtain ⟨mapped, mapping, rfl⟩ := of_propsOf done
  refine ⟨mapped, mapping, ?_⟩
  -- Each of the bags that are written over the mapped properties has other keys.
  split
  · rw [Props.get?_write_of_notMem _ (notMem_debugProps free component depth),
      Props.get?_write_of_notMem _ (notMem_nameProps free _ _),
      Props.get?_write_of_notMem _ (notMem_keyProps free key)]
  · rw [Props.get?_write_of_notMem _ (notMem_nameProps free _ _),
      Props.get?_write_of_notMem _ (notMem_keyProps free key)]

end Own

theorem reportedType_of_typed {component : Component} (typed : component.type ≠ "")
    (name form : Option String) (definition : Definition) :
    Properties.reportedType ⟨some component.type, name, form⟩ definition = component.type := by
  simp [Properties.reportedType, typed]

theorem node_of_at? {builder : TreeBuilder} {context : BuildContext} {key : Value}
    {root : Component} {position : List Nat} {identity : NodeIdentity} {backend : Backend}
    {props : Props} {layout : Option Bag} {children : List Tree}
    (found : (builder.build context key root).result.at? position =
      some (.node identity backend props layout children)) :
    ∃ source definition, root.at? position = some source ∧
      builder.registry.get? source.type = some definition ∧
      builder.propsOf source definition context.form (keyAt key position)
        (context.depth + position.length) = .ok props := by
  rw [(builder.build_frames root context key).1] at found
  obtain ⟨source, reached, same⟩ := builder.tree_of_at? context.form found
  rw [tree_eq] at same
  cases done : builder.prepare source context.form (keyAt key position)
      (context.depth + position.length) with
  | error failure =>
    rw [done] at same
    cases same
  | ok prepared =>
    obtain ⟨definition, mapped, known, mapping, rfl⟩ := of_prepare done
    rw [done] at same
    cases same
    exact ⟨source, definition, reached, known, mapping⟩

/-- At a node whose definition has a table, a target that the build does not write itself holds a
handler exactly if the last entry for it whose property the component has binds an event. The handler
reports that event, the component's type as the document has it, its name and the form. Whatever data
it accepts, a call adds exactly one event to a bridge, which is told apart by these four. -/
theorem build_binds_events (builder : TreeBuilder) (context : BuildContext) (key : Value)
    (root : Component) (typed : ∀ component ∈ root.preorder, component.type ≠ "")
    (given : ∀ component ∈ root.preorder, ∀ entry ∈ component.properties,
      entry.2.isPlain = true)
    (plain : builder.registry.Plain) (position : List Nat) (identity : NodeIdentity)
    (backend : Backend) (props : Props) (layout : Option Bag) (children : List Tree)
    (found : (builder.build context key root).result.at? position =
      some (.node identity backend props layout children)) :
    ∃ source definition, root.at? position = some source ∧
      builder.registry.get? source.type = some definition ∧
      ∀ table, definition.mapping = some table → ∀ target, target ∉ ownKeys → ∀ handler,
        (Entries.get? props (.text target) = some (.handler handler) ↔
          ∃ event, Properties.Decides table source.properties target event ∧
            event ∈ Properties.eventKeys ∧
            handler = ⟨event, source.type, source.properName?, context.form⟩) ∧
        ∀ bridge data, EventCall.Accepts data → ∃ event, event.key = handler ∧
          (Bridge.notify bridge (.ofHandler handler data)).1.sent = bridge.sent ++ [event] := by
  obtain ⟨source, definition, reached, known, mapping⟩ := node_of_at? found
  have inside := Component.mem_preorder_of_at? reached
  refine ⟨source, definition, reached, known, fun table tabled target free handler => ⟨?_, ?_⟩⟩
  · obtain ⟨mapped, done, same⟩ := get?_propsOf free mapping
    rw [same, Properties.get?_mapped_handler_iff (plain source.type definition known)
      (given source inside) tabled done target handler]
    simp only [Properties.handlerFor, reportedType_of_typed (typed source inside)]
  · exact fun bridge data accepted => bridge.notify_ofHandler_sent handler accepted

def buttonRegistry : Registry :=
  (Registry.addBuiltin {} "Panel" { backend := .named "Panel" }).addBuiltin "Button"
    { backend := .named "Button"
      mapping := some [("text", "on"), ("click", "on"), ("change", "on")]
      transforms := some [("click", fun _ => .error "boom")] }

def buttonRoot : Component where
  type := "Panel"
  children := [
    { type := "form:dep_lin1x4oec0ytd:_Components.Button"
      name := .text "go"
      properties := [("click", .int 5), ("text", .text "Go")] }]

theorem buttonRegistry_plain : buttonRegistry.Plain := by
  apply Registry.plain_of_registered
  intro definition registered
  rcases Registry.registered_addBuiltin registered with rfl | registered
  · constructor
    · simp
    · rintro _ key transform ⟨rfl⟩ found value result - done
      cases Entries.mem_of_get? found with
      | head => cases done
      | tail _ member => cases member
  · rcases Registry.registered_addBuiltin registered with rfl | nothing
    · constructor
      · simp
      · rintro transforms key transform has
        cases has
    · cases nothing with
      | builtin type found => cases found
      | packaged scope name found => cases found

-- A button of the builtin table.
def standardRoot : Component where
  type := "ColumnPanel"
  children := [
    { type := "Button"
      name := .text "go"
      properties := [("click", .text "self.go_click"), ("text", .text "Go")] }]

theorem build_binds_events_buttonRoot :
    (let handler : Handler :=
      ⟨"click", "form:dep_lin1x4oec0ytd:_Components.Button", some "go", some "Main"⟩
    ∃ identity backend props layout children,
      (TreeBuilder.build ⟨buttonRegistry, {}⟩ { form := some "Main" } containerKey
        buttonRoot).result.at? [0] = some (.node identity backend props layout children) ∧
      Entries.get? props (.text "on") = some (.handler handler) ∧
      ∀ bridge : Bridge, ∃ event, event.key = handler ∧
        (bridge.notify (.ofHandler handler (.ofBag [("x", .int 1)]))).1.sent =
          bridge.sent ++ [event]) ∧
    ∃ identity backend props layout children,
      (TreeBuilder.build ⟨.standard, {}⟩ { form := some "Main" } containerKey
        standardRoot).result.at? [0] = some (.node identity backend props layout children) ∧
      Entries.get? props (.text "on_click") =
        some (.handler ⟨"click", "Button", some "go", some "Main"⟩) := by
  constructor
  · intro handler
    have built : ((TreeBuilder.build ⟨buttonRegistry, {}⟩ { form := some "Main" } containerKey
        buttonRoot).result.at? [0]).any (!·.isFailure) = true := by decide +kernel
    have tabled : (buttonRegistry.get? "form:dep_lin1x4oec0ytd:_Components.Button").bind
        (·.mapping) = some [("text", "on"), ("click", "on"), ("change", "on")] := by
      decide +kernel
    obtain ⟨tree, found, isNode⟩ := (Option.any_eq_true _ _).mp built
    cases tree with
    | failure => cases isNode
    | node identity backend props layout children =>
      obtain ⟨source, definition, reached, known, binds⟩ :=
        build_binds_events ⟨buttonRegistry, {}⟩ { form := some "Main" } containerKey buttonRoot
          (by decide) (by decide) buttonRegistry_plain [0] identity backend props layout children
          found
      cases reached
      simp only [known, Option.bind_some] at tabled
      obtain ⟨bound, sends⟩ := binds _ tabled "on" (by decide) handler
      refine ⟨identity, backend, props, layout, children, found,
        bound.mpr ⟨"click", ?_, ?_, rfl⟩, fun bridge => sends bridge _ (.inr ⟨[("x", .int 1)], rfl⟩)⟩
      -- The text comes first in the table, and there is no change.
      · exact ⟨[("text", "on")], [("change", "on")], rfl, by decide, by simp [Entries.keys]⟩
      · decide
  · have built : ((TreeBuilder.build ⟨.standard, {}⟩ { form := some "Main" } containerKey
        standardRoot).result.at? [0]).any (!·.isFailure) = true := by decide +kernel
    obtain ⟨table, tabled, last⟩ : ∃ table, (Registry.standard.get? "Button").bind (·.mapping) =
        some table ∧ table.getLast? = some ("click", "on_click") :=
      ⟨_, rfl, by decide⟩
    obtain ⟨tree, found, isNode⟩ := (Option.any_eq_true _ _).mp built
    cases tree with
    | failure => cases isNode
    | node identity backend props layout children =>
      obtain ⟨source, definition, reached, known, binds⟩ :=
        build_binds_events ⟨.standard, {}⟩ { form := some "Main" } containerKey standardRoot
          (by decide) (by decide) Registry.standard_plain [0] identity backend props layout children
          found
      cases reached
      simp only [known, Option.bind_some] at tabled
      obtain ⟨earlier, rfl⟩ := List.getLast?_eq_some_iff.mp last
      refine ⟨identity, backend, props, layout, children, found,
        (binds _ tabled "on_click" (by decide) _).1.mpr ⟨"click", ?_, by decide, rfl⟩⟩
      exact ⟨earlier, [], rfl, by decide, by simp⟩

end TreeBuilder

end FormCompiler
