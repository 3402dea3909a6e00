import FormCompiler.Compiler
import FormCompiler.Proofs.Document.Limits
import FormCompiler.Proofs.Form.Accepted
import FormCompiler.Proofs.Form.Nesting
import FormCompiler.Proofs.Tree.Mirror

set_option autoImplicit false

namespace FormCompiler

namespace Form

theorem read_of_parse {registry : Option Registry} {options : FormOptions} {maxDepth : Int}
    {text : String} {journal : Journal} {parsed : ParsedForm}
    (parses : ((parse registry options maxDepth text).run journal).1 = .ok parsed) :
    Document.read text fileName maxDepth = .ok parsed.document ∧
      parsed.form = ofDocument parsed.document.value := by
  cases registry with
  | none => cases parses
  | some registry =>
    obtain ⟨document, found, -, rfl⟩ := parsed_of_parse parses
    exact ⟨found, rfl⟩

theorem container_small {registry : Option Registry} {options : FormOptions} {maxDepth : Int}
    {text : String} {journal : Journal} {parsed : ParsedForm}
    (parses : ((parse registry options maxDepth text).run journal).1 = .ok parsed) :
    (parsed.form.container.height : Int) ≤ maxDepth / 2 ∧
      parsed.form.container.preorder.length ≤ 100000 := by
  obtain ⟨found, same⟩ := read_of_parse parses
  obtain ⟨untupled, lower, smaller⟩ := Document.within_of_read found
  obtain ⟨height, count⟩ := container_within untupled
  have some := parsed.document.value.outline.size_pos
  rw [same]
  -- The container adds one component to its children, and the document is a value itself.
  generalize (ofDocument parsed.document.value).container = container at height count ⊢
  obtain ⟨type, name, properties, layout, children⟩ := container
  simp only [Component.height, Component.preorder, List.length_cons] at height count ⊢
  omega

end Form

namespace TreeBuilder

/-- Every failure node in the tree of a form has a reason other than its depth. -/
def NeverTooDeep (builder : TreeBuilder) (form : Form) (name : Option String) : Prop :=
  ∀ position tree, (builder.buildForm form name).root.at? position = some tree →
    tree.isFailure = true →
    ∃ source failure, form.container.at? position = some source ∧
      builder.Prevented name position.length source failure ∧
      tree = builder.failureTree source (keyAt containerKey position) failure.messages ∧
      ∀ limit, failure ≠ .tooDeep limit

theorem neverTooDeep_of_height {builder : TreeBuilder} {form : Form}
    (shallow : (form.container.height : Int) ≤ builder.options.maxDepth) (name : Option String) :
    builder.NeverTooDeep form name := by
  intro position tree found failed
  change (builder.tree name 0 containerKey form.container).at? position = some tree at found
  obtain ⟨source, reaches, rfl⟩ := builder.tree_of_at? name found
  rw [Int.zero_add] at failed ⊢
  rw [tree_eq] at failed ⊢
  have level := Component.length_le_height reaches
  cases prepared : builder.prepare source name (keyAt containerKey position) position.length with
  | ok ready => simp [prepared, Tree.isFailure] at failed
  | error failure =>
    have prevented := prevented_of_prepare prepared
    refine ⟨source, failure, reaches, prevented, rfl, ?_⟩
    rintro limit rfl
    cases prevented with
    | tooDeep deep => omega

/-- A text that is parsed under a limit gives a container with at most half as many levels below it
and with no more components than a document has values. So no build that goes that deep finds a
component too deep, among them every build of a compiler that parses under this limit. -/
theorem parsed_never_too_deep (registry : Option Registry) (options : FormOptions)
    (maxDepth : Int) (text : String) (journal : Journal) (parsed : ParsedForm)
    (parses : ((Form.parse registry options maxDepth text).run journal).1 = .ok parsed) :
    (∀ position source, parsed.form.container.at? position = some source →
      (position.length : Int) ≤ maxDepth / 2) ∧
    parsed.form.container.preorder.length ≤ 100000 ∧
    (∀ (builder : TreeBuilder) (name : Option String), maxDepth / 2 ≤ builder.options.maxDepth →
      builder.NeverTooDeep parsed.form name) ∧
    ∀ (compiler : Compiler) (checks : Option FormOptions) (name : Option String),
      (compiler.parser checks).maxDepth = maxDepth →
        compiler.builder.options.maxDepth = maxDepth ∧
          compiler.builder.NeverTooDeep parsed.form name := by
  obtain ⟨height, count⟩ := Form.container_small parses
  refine ⟨fun position source found => ?_, count, fun builder name room => ?_,
    fun compiler checks name wired => ?_⟩
  · have level := Component.length_le_height found
    omega
  · exact neverTooDeep_of_height (by omega) name
  · obtain ⟨found, -⟩ := Form.read_of_parse parses
    have nonneg := Document.limit_nonneg found
    have same : compiler.builder.options.maxDepth = maxDepth := wired
    exact ⟨same, neverTooDeep_of_height (by omega) name⟩

def panelText : String :=
  "components:\n- type: ColumnPanel\n  components:\n  - type: Label\n"

theorem parsed_never_too_deep_panel :
    ∃ parsed, ((Form.parse (some .standard) {} 5 panelText).run {}).1 = .ok parsed ∧
      (parsed.form.container.at? [0, 0]).isSome ∧
      NeverTooDeep ⟨.standard, { maxDepth := 2 }⟩ parsed.form none ∧
      (Compiler.builder { settings := { maxTreeDepth := 5 } }).NeverTooDeep parsed.form none := by
  have computed : (((Form.parse (some .standard) {} 5 panelText).run {}).1.toOption.map
      fun parsed => (parsed.form.container.at? [0, 0]).isSome) = some true := by
    decide +kernel
  obtain ⟨parsed, parses, placed⟩ := exists_ok_of_map computed
  obtain ⟨-, -, builds, compiles⟩ := parsed_never_too_deep _ _ _ _ _ _ parses
  have room : (5 : Int) / 2 ≤ 2 := by decide
  exact ⟨parsed, parses, placed, builds _ none room, (compiles _ none none rfl).2⟩

end TreeBuilder

end FormCompiler
