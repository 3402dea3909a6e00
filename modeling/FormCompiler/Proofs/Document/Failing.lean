import FormCompiler.App.Config
import FormCompiler.Proofs.Form.Accepted
import FormCompiler.Proofs.Form.Comparison
import FormCompiler.Proofs.Yaml.Loading
import FormCompiler.Theme

set_option autoImplicit false

namespace FormCompiler

namespace Document

variable {α : Type} {text file : String} {maxDepth : Int}

/-- A result, or an error of the given file. -/
def Located (file : String) : Except DocumentFailure α → Prop
  | .ok _ => True
  | .error (.invalid error) => error.file = file
  | .error (.fault _ _) => False

theorem ofGraph_located (graph : Graph) (root : Nat) (file : String) (maxDepth : Int) :
    Located file ((ofGraph graph root file maxDepth).mapError .invalid) := by
  unfold ofGraph
  split
  · split
    · exact trivial
    · exact rfl
  · exact rfl

theorem located_bind {attempt : Except DocumentFailure Document}
    {next : Document → Except DocumentFailure α} (located : Located file attempt)
    (later : ∀ document, Located file (next document)) : Located file (attempt >>= next) := by
  cases attempt with
  | ok document => exact later document
  | error failure =>
    cases failure with
    | invalid error => exact located
    | fault kind message => exact located

theorem read_of_fault {fault : Yaml.ContentFault}
    (loads : Yaml.load text.toList = .error (.content fault)) (file : String) (maxDepth : Int) :
    read text file maxDepth = .error (.fault fault.kind fault.message) := by
  simp only [read, loads, ofYamlFailure]

theorem read_located (loads : ∀ fault, Yaml.load text.toList ≠ .error (.content fault))
    (file : String) (maxDepth : Int) : Located file (read text file maxDepth) := by
  unfold read
  dsimp only
  split
  · next failure fails =>
    cases failure with
    | content fault => exact absurd fails (loads fault)
    | unreadable | malformed | exhausted => exact rfl
  · exact ofGraph_located _ _ _ _

theorem load_ne_exhausted (text : List Char) : Yaml.load text ≠ .error .exhausted := by
  intro exhausted
  have ends := Yaml.load_ends text
  rw [exhausted] at ends
  exact ends.failure

end Document

open Document

theorem AppConfig.parse_eq (text : String) (maxDepth : Int) :
    AppConfig.parse text maxDepth =
      (Document.read text AppConfig.fileName maxDepth >>= fun document =>
        .ok (ofDocument document.value, omissions document.value)) := by
  simp only [AppConfig.parse, Document.load]
  cases Document.read text AppConfig.fileName maxDepth <;> rfl

theorem Theme.parse_eq (text : String) (maxDepth : Int) :
    Theme.parse text maxDepth =
      (Document.read text Theme.fileName maxDepth >>= fun document => .ok (ofDocument document.value)) := by
  simp only [Theme.parse, Document.load]
  cases Document.read text Theme.fileName maxDepth <;> rfl

theorem Form.parse_eq (registry : Registry) (options : FormOptions) (maxDepth : Int) (text : String)
    (journal : Journal) :
    ((Form.parse (some registry) options maxDepth text).run journal).1 =
      (Document.read text Form.fileName maxDepth >>= accept registry options) := by
  rw [Form.parse_run]
  cases Document.read text Form.fileName maxDepth <;> rfl

theorem Form.accept_located (registry : Registry) (options : FormOptions) {document : Document}
    (ends : (ofDocument document.value).compareLists? document.graph ≠ none) :
    Located Form.fileName (accept registry options document) := by
  unfold accept
  dsimp only
  split
  · next endless => exact absurd endless ends
  · split
    · exact trivial
    · exact rfl

/-- A text whose form has two lists of components that are compared without end. -/
def Form.Endless (text : String) (maxDepth : Int) : Prop :=
  ∃ document, Document.read text fileName maxDepth = .ok document ∧ document.HoldsItself ∧
    (ofDocument document.value).compareLists? document.graph = none

theorem Form.parse_of_endless {registry : Registry} {options : FormOptions} {maxDepth : Int}
    {text : String} {journal : Journal} (endless : Endless text maxDepth) :
    ((Form.parse (some registry) options maxDepth text).run journal).1 =
      .error (.fault .recursion endlessComparisonMessage) := by
  obtain ⟨document, found, -, lacksEnd⟩ := endless
  rw [Form.parse_eq, found]
  exact accept_of_endless lacksEnd

theorem Form.parse_located (registry : Registry) (options : FormOptions) {maxDepth : Int}
    {text : String} (journal : Journal)
    (loads : ∀ fault, Yaml.load text.toList ≠ .error (.content fault))
    (ends : ¬Endless text maxDepth) :
    Located Form.fileName ((Form.parse (some registry) options maxDepth text).run journal).1 := by
  have read := read_located loads Form.fileName maxDepth
  rw [Form.parse_eq]
  cases found : Document.read text Form.fileName maxDepth with
  | error failure =>
    rw [found] at read
    cases failure <;> exact read
  | ok document =>
    refine Form.accept_located registry options fun endless => ends ?_
    exact ⟨document, found, holdsItself_of_endless found endless, endless⟩

def impossibleDate : String := "name: A\nmade: 2020-13-45\n"

theorem AppConfig.parse_impossibleDate :
    AppConfig.parse impossibleDate 100 = .error (.fault .value "month must be in 1..12") := by
  have fails : (match AppConfig.parse impossibleDate 100 with
      | .error failure => some failure
      | .ok _ => none) = some (.fault .value "month must be in 1..12") := by
    decide +kernel
  revert fails
  generalize AppConfig.parse impossibleDate 100 = result
  intro fails
  cases result with
  | error failure => rw [Option.some.inj fails]
  | ok config => cases fails

end FormCompiler
