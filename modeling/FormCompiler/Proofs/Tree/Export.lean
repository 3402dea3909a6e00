import FormCompiler.Proofs.Form.Depth
import FormCompiler.Proofs.Form.Refusals
import FormCompiler.Proofs.Layout.Sources
import FormCompiler.Proofs.Registry.Conversion

set_option autoImplicit false

namespace FormCompiler

open Json (Refusal)

def Props.RefusalsAmong (props : Props) (bound : List Refusal) : Prop :=
  ∀ entry ∈ props, entry.1.hasKeyText = true ∧ entry.2.refusals ⊆ bound

namespace Props.RefusalsAmong

variable {props : Props} {bound : List Refusal}

theorem refusals_subset (among : RefusalsAmong props bound) :
    (Value.map props).refusals ⊆ bound := by
  intro refusal refused
  obtain ⟨entry, member, ⟨rfl, textless⟩ | inside⟩ :=
    (Value.mem_refusals_map_iff props refusal).mp refused
  · rw [(among entry member).1] at textless
    cases textless
  · exact (among entry member).2 inside

theorem mono (among : RefusalsAmong props bound) {more : List Refusal} (le : bound ⊆ more) :
    RefusalsAmong props more :=
  fun entry member => ⟨(among entry member).1, List.Subset.trans (among entry member).2 le⟩

theorem ofBag {bag : Bag} (among : ∀ entry ∈ bag, entry.2.refusals ⊆ bound) :
    RefusalsAmong bag.toProps bound :=
  List.forall_mem_map.mpr fun entry member => ⟨rfl, among entry member⟩

theorem set (among : RefusalsAmong props bound) (target : String) {value : Value}
    (inside : value.refusals ⊆ bound) :
    RefusalsAmong (Entries.set props (.text target) value) bound :=
  Entries.forall_entry_set (Value.hasKeyText · = true) (Value.refusals · ⊆ bound) among
    ⟨rfl, inside⟩

theorem update (among : RefusalsAmong props bound) {later : Props} (added : RefusalsAmong later bound) :
    RefusalsAmong (Entries.update props later) bound :=
  Entries.forall_entry_update (Value.hasKeyText · = true) (Value.refusals · ⊆ bound) among added

theorem write (among : RefusalsAmong props bound) {bag : Bag}
    (plain : ∀ entry ∈ bag, entry.2.refusals = []) : RefusalsAmong (props.write bag) bound :=
  among.update (ofBag fun entry member => by simp [plain entry member])

end Props.RefusalsAmong

namespace Definition

structure Exports (definition : Definition) : Prop where
  defaults : definition.defaults.RefusalsAmong []
  transforms : ∀ table key transform, definition.transforms = some table →
    Entries.get? table key = some transform → ∀ value result, transform value = .ok result →
      result.refusals ⊆ value.refusals

theorem placeholder_exports (name source : String) (category : TypeCategory) :
    (placeholder name source category).Exports where
  defaults := by simp [placeholder, Props.RefusalsAmong, Value.hasKeyText, Value.refusals]
  transforms := by
    intro table key transform has
    cases has

end Definition

namespace Properties

variable {definition : Definition} {bound : List Refusal}

theorem converted_refusals (exports : definition.Exports) {owner : Owner} {key : String}
    {value result : Value} (conversion : converted definition owner key value = .ok result) :
    result.refusals ⊆ value.refusals := by
  simp only [converted] at conversion
  split at conversion
  · cases conversion
    exact List.nil_subset _
  split at conversion
  · next transform found =>
    obtain ⟨table, has, listed⟩ := Option.bind_eq_some_iff.mp found
    exact exports.transforms table key transform has listed value result conversion
  · cases conversion
    exact List.Subset.refl _

theorem follow_refusals (exports : definition.Exports) {owner : Owner} {props : Props}
    {table : Entries String String} (among : ∀ key value,
      Entries.get? props (.text key) = some value → value.refusals ⊆ bound)
    {written result : Props} (sofar : written.RefusalsAmong bound)
    (followed : follow definition owner props table written = .ok result) :
    result.RefusalsAmong bound := by
  induction table generalizing written with
  | nil =>
    cases followed
    exact sofar
  | cons entry rest ih =>
    simp only [follow] at followed
    split at followed
    · exact ih sofar followed
    · next value present =>
      split at followed
      · cases followed
      · next changed conversion =>
        have inside :=
          List.Subset.trans (converted_refusals exports conversion) (among entry.1 value present)
        exact ih (sofar.set entry.2 inside) followed

theorem mapped_refusals (exports : definition.Exports) {owner : Owner} {properties : Bag}
    (among : ∀ entry ∈ properties, entry.2.refusals ⊆ bound) {result : Props}
    (done : mapped definition owner properties.toProps = .ok result) : result.RefusalsAmong bound := by
  have defaults := exports.defaults.mono (List.nil_subset bound)
  simp only [mapped] at done
  split at done
  · cases done
    exact defaults.update (.ofBag among)
  · refine follow_refusals exports (fun key value present => ?_) defaults done
    rw [Bag.get?_toProps] at present
    exact among _ (Entries.mem_of_get? present)

end Properties

theorem Layout.mapped_refusals {layout : Bag} {bound : List Refusal}
    (among : ∀ entry ∈ layout, entry.2.refusals ⊆ bound) :
    ∀ entry ∈ Layout.mapped layout, entry.2.refusals ⊆ bound := by
  intro entry member
  obtain ⟨source, treatment, -, treated⟩ := (Layout.mem_mapped_iff layout entry).mp member
  have own : (Bag.value layout source).refusals ⊆ bound := by
    simp only [Bag.value]
    cases found : Entries.get? layout source with
    | none => exact List.nil_subset _
    | some given => exact among _ (Entries.mem_of_get? found)
  rcases Layout.Treatment.apply_cases treated with ⟨-, same, -⟩ | ⟨chars, same⟩
  · rw [same]
    exact own
  · rw [same]
    exact List.nil_subset _

namespace Builtins

theorem definitions_defaults : ∀ entry ∈ definitions, entry.2.defaults.RefusalsAmong [] := by
  have checked : (definitions.all fun entry => entry.2.defaults.all fun default =>
      default.1.hasKeyText && default.2.refusals.isEmpty) = true := by
    decide
  intro entry member default isDefault
  have sound := List.all_eq_true.mp (List.all_eq_true.mp checked entry member) default isDefault
  rw [Bool.and_eq_true, List.isEmpty_iff] at sound
  exact ⟨sound.1, sound.2 ▸ List.Subset.refl _⟩

theorem definitions_exports : ∀ entry ∈ definitions, entry.2.Exports := by
  intro entry member
  refine ⟨definitions_defaults entry member, fun table key transform has found value result => ?_⟩
  have known : transform = pixelSize ∨ transform = inputType :=
    transforms_among entry member table has (key, transform) (Entries.mem_of_get? found)
  rcases known with rfl | rfl
  · intro done
    simp only [pixelSize] at done
    split at done <;> cases done
    · exact List.nil_subset _
    · exact List.Subset.refl _
  · intro done
    cases done
    exact List.nil_subset _

end Builtins

namespace Registry

def Exports (registry : Registry) : Prop :=
  ∀ type definition, registry.get? type = some definition → definition.Exports

theorem standard_exports : standard.Exports := by
  intro type definition found
  rcases registered_of_get? found with registered | ⟨name, source, category, rfl⟩
  · obtain ⟨entry, member, rfl⟩ := registered_standard registered
    obtain ⟨defaults, transforms⟩ := Builtins.definitions_exports entry member
    exact ⟨defaults, transforms⟩
  · exact Definition.placeholder_exports name source category

end Registry

namespace Tree

theorem refusalsIn_toValues (trees : List Tree) :
    Value.refusalsIn (toValues trees) = trees.flatMap fun tree => tree.toValue.refusals := by
  induction trees with
  | nil => rfl
  | cons tree rest ih => simp [toValues, Value.refusalsIn, ih]

theorem refusals_ofText? (text : Option String) : (Value.ofText? text).refusals = [] := by
  cases text <;> rfl

theorem node_refusals_subset {identity : NodeIdentity} {backend : Backend} {props : Props}
    {layout : Option Bag} {children : List Tree} {bound : List Refusal}
    (keyed : identity.key.refusals = []) (inProps : props.RefusalsAmong bound)
    (inLayout : ∀ bag, layout = some bag → ∀ entry ∈ bag, entry.2.refusals ⊆ bound)
    (inChildren : ∀ child ∈ children, child.toValue.refusals ⊆ bound) :
    (node identity backend props layout children).toValue.refusals ⊆ bound := by
  have below : (Value.list (toValues children)).refusals ⊆ bound := by
    intro key refused
    rw [Value.refusals, refusalsIn_toValues] at refused
    obtain ⟨child, member, inside⟩ := List.mem_flatMap.mp refused
    exact inChildren child member inside
  simp only [toValue, Value.refusals_ofBag, List.flatMap_cons, List.flatMap_nil,
    refusals_ofText?, keyed, List.append_subset]
  refine ⟨List.nil_subset _, List.nil_subset _, List.nil_subset _, List.nil_subset _,
    inProps.refusals_subset, ?_, below, List.nil_subset _⟩
  cases layout with
  | none => exact List.nil_subset _
  | some bag =>
    intro key refused
    rw [Value.refusals_ofBag] at refused
    obtain ⟨entry, member, inside⟩ := List.mem_flatMap.mp refused
    exact inLayout bag rfl entry member inside

theorem failure_refusals_subset {identity : NodeIdentity} {errors : List String} {props : Props}
    {bound : List Refusal} (keyed : identity.key.refusals = []) (inProps : props.RefusalsAmong bound) :
    (failure identity errors props).toValue.refusals ⊆ bound := by
  have told : (Value.list (errors.map .text)).refusals = [] := by
    simp [Value.refusals, Value.refusalsIn_eq, List.flatMap_map]
  simp only [toValue, Value.refusals_ofBag, List.flatMap_cons, List.flatMap_nil,
    refusals_ofText?, keyed, told, List.append_subset]
  exact ⟨List.nil_subset _, List.nil_subset _, List.nil_subset _, List.nil_subset _,
    List.nil_subset _, List.nil_subset _, inProps.refusals_subset, List.nil_subset _⟩

end Tree

namespace Component

def refusals (component : Component) : List Refusal :=
  (component.properties ++ component.layout).flatMap (·.2.refusals)

theorem RefusalsAmong.refusals_subset {components : List Component} {bound : List Refusal}
    (among : RefusalsAmong components bound) {source : Component}
    (member : source ∈ preorderAll components) : source.refusals ⊆ bound := by
  intro refusal refused
  obtain ⟨entry, inside, has⟩ := List.mem_flatMap.mp refused
  exact among source member entry.2 (List.mem_cons_of_mem _ (List.mem_map_of_mem inside)) has

end Component

namespace TreeBuilder

variable (builder : TreeBuilder) (form : Option String)

theorem keyProps_refusals {key : Value} (keyed : key.refusals = []) :
    ∀ entry ∈ keyProps key, entry.2.refusals = [] := by
  cases absent : key.isNull <;> simp [keyProps, absent, keyed]

theorem nameProps_refusals (name : Option String) (props : Props) :
    ∀ entry ∈ nameProps name props, entry.2.refusals = [] := by
  cases name <;> simp [nameProps, Value.refusals]

theorem debugProps_refusals (component : Component) (depth : Int) :
    ∀ entry ∈ debugProps component depth, entry.2.refusals = [] := by
  simp [debugProps, Value.refusals, Tree.refusals_ofText?]

theorem errorDebugProps_refusals (component : Component) (errors : List String) :
    ∀ entry ∈ errorDebugProps component errors, entry.2.refusals = [] := by
  simp [errorDebugProps, Value.refusals, Tree.refusals_ofText?]

theorem propsOf_refusals {component : Component} {definition : Definition}
    (exports : definition.Exports) {key : Value} {depth : Int} {props : Props}
    (keyed : key.refusals = [])
    (done : builder.propsOf component definition form key depth = .ok props) :
    props.RefusalsAmong component.refusals := by
  have own : ∀ entry ∈ component.properties, entry.2.refusals ⊆ component.refusals :=
    fun entry member key refused =>
      List.mem_flatMap.mpr ⟨entry, List.mem_append_left _ member, refused⟩
  obtain ⟨mapped, mapping, rfl⟩ := of_propsOf done
  have withKey := (Properties.mapped_refusals exports own mapping).write (keyProps_refusals keyed)
  have named := withKey.write (nameProps_refusals component.properName? (mapped.write (keyProps key)))
  split
  · exact named.write (debugProps_refusals component depth)
  · exact named

theorem prepare_refusals (exports : builder.registry.Exports) {component : Component} {key : Value}
    {depth : Int} {prepared : Prepared} (keyed : key.refusals = [])
    (done : builder.prepare component form key depth = .ok prepared) :
    prepared.props.RefusalsAmong component.refusals ∧
      ∀ bag, prepared.layout = some bag →
        ∀ entry ∈ bag, entry.2.refusals ⊆ component.refusals := by
  obtain ⟨definition, props, known, mapped, rfl⟩ := of_prepare done
  refine ⟨builder.propsOf_refusals form (exports _ _ known) keyed mapped, fun bag given => ?_⟩
  split at given
  · cases given
    exact Layout.mapped_refusals fun entry member key refused =>
      List.mem_flatMap.mpr ⟨entry, List.mem_append_right _ member, refused⟩
  · cases given

theorem failureTree_refusals {component : Component} {key : Value} {errors : List String}
    (keyed : key.refusals = []) :
    (builder.failureTree component key errors).toValue.refusals ⊆ [] := by
  refine Tree.failure_refusals_subset keyed (.ofBag fun entry member => ?_)
  suffices plain : entry.2.refusals = [] from plain ▸ List.Subset.refl _
  -- The node shows a fixed style, its key and what is told for debugging.
  have base : ∀ entry ∈ ([("class_name", .text "anvil-component-error"),
      ("style", .ofBag errorStyle)] : Bag), entry.2.refusals = [] := by decide
  have withKey (name : String) (entry : String × Value) (member : entry ∈ Entries.set _ name key) :
      entry.2.refusals = [] :=
    Entries.forall_set (fun value : Value => value.refusals = []) base keyed entry member
  split at member
  · refine Entries.forall_update (fun value : Value => value.refusals = []) ?_
      (errorDebugProps_refusals component errors) entry member
    split
    · exact base
    · exact withKey "key"
  · split at member
    · exact base entry member
    · exact withKey "key" entry member

theorem tree_refusals (exports : builder.registry.Exports) (component : Component) (depth : Int)
    {key : Value} (keyed : key.refusals = []) :
    (builder.tree form depth key component).toValue.refusals ⊆
      component.preorder.flatMap Component.refusals := by
  induction component using Component.induct generalizing depth key with
  | step component ih =>
    rw [tree_eq]
    cases done : builder.prepare component form key depth with
    | error failure =>
      -- A component that fails leaves none of its properties in its node.
      exact List.Subset.trans (builder.failureTree_refusals keyed) (List.nil_subset _)
    | ok prepared =>
      obtain ⟨inProps, inLayout⟩ := builder.prepare_refusals form exports keyed done
      have own : component.refusals ⊆ component.preorder.flatMap Component.refusals :=
        fun _ refused => List.mem_flatMap.mpr ⟨_, component.mem_preorder_self, refused⟩
      refine Tree.node_refusals_subset keyed (inProps.mono own)
        (fun bag given entry member => List.Subset.trans (inLayout bag given entry member) own)
        fun child member => ?_
      obtain ⟨index, isChild⟩ := List.mem_iff_getElem?.mp member
      rw [trees_getElem?, Option.map_eq_some_iff] at isChild
      obtain ⟨source, found, rfl⟩ := isChild
      have among := List.mem_of_getElem? found
      refine List.Subset.trans (ih source among (depth + 1) rfl) fun refused inside => ?_
      obtain ⟨lower, isBelow, has⟩ := List.mem_flatMap.mp inside
      exact List.mem_flatMap.mpr
        ⟨lower, Component.preorder_subset_of_child among isBelow, has⟩

/-- A form that was read has a JSON text unless something in its tree is refused; then the export
fails for the first of it. That is a key of a date, a time or bytes, or in a document that holds itself
a tuple that leads back to itself, and came with a property from the document. -/
theorem built_exports_iff (registry : Option Registry) (options : FormOptions) (maxDepth : Int)
    (text : String) (journal : Journal) (parsed : ParsedForm)
    (parses : ((Form.parse registry options maxDepth text).run journal).1 = .ok parsed)
    (builder : TreeBuilder) (name : Option String) (indent : Option String) :
    let root := (builder.buildForm parsed.form name).root
    ((∃ json, root.toJson indent = .ok json) ↔ root.toValue.refusals = []) ∧
    (∀ refusal rest, root.toValue.refusals = refusal :: rest →
      root.toJson indent = .error (refusal.fault indent.isNone)) ∧
    (builder.registry.Exports → ∀ refusal ∈ root.toValue.refusals,
      ((∃ key : Value, refusal = .key key ∧ key.DateOrBytes) ∨
        (∃ number obstacle, refusal = .knot number obstacle) ∧ parsed.document.HoldsItself) ∧
      ∃ source ∈ parsed.form.container.preorder,
        ∃ entry ∈ source.properties ++ source.layout, refusal ∈ entry.2.refusals) := by
  obtain ⟨found, same⟩ := Form.read_of_parse parses
  have written := Json.toJson_failsFor (builder.buildForm parsed.form name).root.toValue indent
  refine ⟨written.isOk_iff, fun refusal rest refused => ?_, fun exports refusal refused => ?_⟩
  · rw [refused] at written
    exact written
  · have fromSource := builder.tree_refusals name exports parsed.form.container 0 rfl refused
    obtain ⟨source, inside, has⟩ := List.mem_flatMap.mp fromSource
    refine ⟨?_, source, inside, List.mem_flatMap.mp has⟩
    have among := Form.container_refusals parsed.document.value
    rw [← same] at among
    have given : refusal ∈ parsed.document.value.refusals :=
      among.refusals_subset (by simpa [Component.preorderAll] using inside) has
    cases Document.refusals_of_read found refusal given with
    | key kind => exact .inl ⟨_, rfl, kind⟩
    | knot number obstacle =>
      refine .inr ⟨⟨number, obstacle, rfl⟩, ?_⟩
      by_contra finite
      exact (Document.knotless_iff found).mpr finite number obstacle given

-- Templates that take all properties as they are, with a date for a key and with a pair that leads back
-- to itself.
def datedText : String :=
  "container: \x7btype: FormTemplate, properties: \x7bdata: \x7b2020-01-01: x\x7d\x7d\x7d\n"

def pairedText : String :=
  "container: \x7btype: FormTemplate, properties: \x7bdata: &x !!pairs [k: *x]\x7d\x7d\n"

theorem built_exports_datedText :
    (∃ parsed, ((Form.parse (some .standard) {} 64 datedText).run {}).1 = .ok parsed ∧
      let root := (buildForm ⟨.standard, {}⟩ parsed.form none).root
      root.toJson = .error (.key "datetime.date") ∧
        root.toJson (some "  ") = .error (.key "date") ∧
          ∀ refusal ∈ root.toValue.refusals, ∃ source ∈ parsed.form.container.preorder,
            ∃ entry ∈ source.properties ++ source.layout, refusal ∈ entry.2.refusals) ∧
    ∃ parsed, ((Form.parse (some .standard) {} 64 pairedText).run {}).1 = .ok parsed ∧
      (buildForm ⟨.standard, {}⟩ parsed.form none).root.toJson = .error .circular := by
  have dated : (((Form.parse (some .standard) {} 64 datedText).run {}).1.toOption.map
      fun parsed => (buildForm ⟨.standard, {}⟩ parsed.form none).root.toValue.refusals.map
        fun refusal => (refusal.fault true, refusal.fault false)) =
      some [(.key "datetime.date", .key "date")] := by
    decide +kernel
  have paired : (((Form.parse (some .standard) {} 64 pairedText).run {}).1.toOption.map
      fun parsed => (buildForm ⟨.standard, {}⟩ parsed.form none).root.toValue.refusals.map
        fun refusal => refusal.fault true) = some [.circular] := by
    decide +kernel
  constructor
  · obtain ⟨parsed, parses, refusals⟩ := exists_ok_of_map dated
    obtain ⟨refusal, rest, refused, faults, -⟩ := List.map_eq_cons_iff.mp refusals
    obtain ⟨onOneLine, onLines⟩ := Prod.mk.inj faults
    have exported := built_exports_iff _ _ _ _ _ parsed parses ⟨.standard, {}⟩ none
    refine ⟨parsed, parses, ?_, ?_, fun refusal refused => ?_⟩
    · exact onOneLine ▸ (exported none).2.1 refusal rest refused
    · exact onLines ▸ (exported (some "  ")).2.1 refusal rest refused
    · exact ((exported none).2.2 Registry.standard_exports refusal refused).2
  · obtain ⟨parsed, parses, refusals⟩ := exists_ok_of_map paired
    obtain ⟨refusal, rest, refused, fault, -⟩ := List.map_eq_cons_iff.mp refusals
    have exported := built_exports_iff _ _ _ _ _ parsed parses ⟨.standard, {}⟩ none none
    exact ⟨parsed, parses, fault ▸ exported.2.1 refusal rest refused⟩

end TreeBuilder

end FormCompiler
