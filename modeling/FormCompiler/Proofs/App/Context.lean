import FormCompiler.App.Bundle
import FormCompiler.Proofs.Journal.Scopes

set_option autoImplicit false

namespace FormCompiler

open Logged (KeepsContext)

theorem Form.parse_keepsContext (registry : Option Registry) (options : FormOptions)
    (maxDepth : Int) (text : String) : KeepsContext (parse registry options maxDepth text) := by
  cases registry with
  | none => exact .pure _
  | some registry =>
    apply KeepsContext.within
    cases Document.read text fileName maxDepth with
    | error failure => exact .pure _
    | ok document => exact (KeepsContext.writeAll _).bind fun _ => .pure _

namespace AppBundle

variable (folder : AppFolder) (parser : FormParser)

theorem loadConfig_keepsContext (maxDepth : Int) : KeepsContext (loadConfig folder maxDepth) := by
  unfold loadConfig
  split
  · exact (KeepsContext.writeAll _).bind fun _ => .pure _
  · exact (KeepsContext.writeEntry _).bind fun _ => .pure _

theorem addTheme_keepsContext (maxDepth : Int) (bundle : AppBundle) :
    KeepsContext (addTheme folder maxDepth bundle) := by
  unfold addTheme
  split
  · split
    · exact .pure _
    · exact (KeepsContext.writeEntry _).bind fun _ => .pure _
  · exact (KeepsContext.writeEntry _).bind fun _ => .pure _

theorem readForm_keepsContext (path : FilePath) : KeepsContext (readForm folder parser path) := by
  unfold readForm
  split
  · exact .pure _
  · exact (Form.parse_keepsContext _ _ _ _).bind fun _ => .pure _

theorem parseForm_keepsContext (path : FilePath) :
    KeepsContext (parseForm folder parser path) := by
  apply KeepsContext.within
  apply (readForm_keepsContext folder parser path).bind
  intro result
  cases result with
  | ok parsed => exact .pure _
  | error failure => exact (KeepsContext.writeEntry _).bind fun _ => .pure _

theorem addForms_keepsContext (paths : List FilePath) (bundle : AppBundle) :
    KeepsContext (addForms folder parser paths bundle) := by
  induction paths generalizing bundle with
  | nil => exact .pure _
  | cons path rest ih => exact (parseForm_keepsContext folder parser path).bind fun _ => ih _

theorem addCode_keepsContext (bundle : AppBundle) :
    KeepsContext (addCode folder parser bundle) := by
  unfold addCode
  split
  · exact addForms_keepsContext folder parser _ bundle
  · exact .pure _

theorem loadParts_keepsContext : KeepsContext (loadParts folder parser) := by
  apply (loadConfig_keepsContext folder parser.maxDepth).bind
  intro described
  cases described with
  | error failure => exact .pure _
  | ok config =>
    apply (addTheme_keepsContext folder parser.maxDepth { config }).bind
    intro bundle
    exact (addCode_keepsContext folder parser bundle).bind fun _ => .pure _

theorem load_keepsContext : KeepsContext (load folder parser) := by
  apply (KeepsContext.within (loadParts_keepsContext folder parser)).bind
  intro loaded
  cases loaded with
  | error failure => exact .pure _
  | ok bundle => exact (KeepsContext.writeEntry _).bind fun _ => .pure _

end AppBundle

namespace ScopeProgram

/-- A program that enters no scope again before it is left ends with the context it started with, and
so does each of its scopes, whether or not something fails inside. Everywhere in a scope its bindings
override the context around it. Parsing a form and loading an app end with the context they started
with as well, accepted or not and whatever fails. -/
theorem scopes_restore_context (bindings : Nat → Bag) (program : ScopeProgram)
    (apart : program.EntersApart []) (state : ScopeState) :
    let ran := program.run bindings state
    SameBindings ran.state.context state.context ∧
    (∀ visit ∈ ran.visits, SameBindings visit.after visit.before ∧
      ∀ context ∈ visit.inside, ∀ key, Entries.get? context key =
        (Entries.get? (Entries.ofList (bindings visit.object)) key).or
          (Entries.get? visit.before key)) ∧
    (∀ registry options maxDepth text journal,
      SameBindings ((Form.parse registry options maxDepth text).run journal).2.context
        journal.context) ∧
    ∀ folder parser journal,
      SameBindings ((AppBundle.load folder parser).run journal).2.context journal.context := by
  intro ran
  have clean : ran.Clean bindings [] state := program.run_clean apart state
  exact ⟨clean.context, clean.visits, Form.parse_keepsContext, AppBundle.load_keepsContext⟩

-- The inner scope is entered twice, and it is left by a failure the first time.
def nestedScopes : ScopeProgram :=
  .within 0 (.andThen (.rescue (.within 1 .fail)) (.within 1 .skip))

def nestedBindings : Nat → Bag
  | 0 => [("app", .text "Todo"), ("file", .text "anvil.yaml")]
  | _ => [("file", .text "form_template.yaml"), ("form", .text "Main")]

theorem scopes_restore_context_nested :
    let start : ScopeState := ⟨[("file", .text "settings")], fun _ => []⟩
    let ran := nestedScopes.run nestedBindings start
    ran.visits.map (·.object) = [0, 1, 1] ∧
      SameBindings ran.state.context start.context ∧
      ∀ visit ∈ ran.visits, SameBindings visit.after visit.before := by
  intro start ran
  have apart : nestedScopes.EntersApart [] := by simp [nestedScopes, EntersApart]
  obtain ⟨context, visits, -⟩ := scopes_restore_context nestedBindings nestedScopes apart start
  exact ⟨rfl, context, fun visit member => (visits visit member).1⟩

end ScopeProgram

end FormCompiler
