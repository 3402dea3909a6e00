import FormCompiler.Proofs.Yaml.Lexing
import FormCompiler.Proofs.Yaml.Parsing
import FormCompiler.Proofs.Yaml.Unfit

set_option autoImplicit false

namespace FormCompiler.Yaml

namespace Composition

variable {fails : Failure → Prop}

theorem place_finished (composition : Composition) (number : Nat) :
    (composition.place number).finished = composition.finished := by
  unfold Composition.place
  split <;> rfl

theorem close_finished (composition : Composition) :
    composition.close.finished = composition.finished := by
  unfold Composition.close
  split
  · rfl
  · exact place_finished _ _

section Step

variable (allowed : ∀ context place problem mark, fails (.malformed .nodes context place problem mark))
include allowed

theorem addNode_ends (composition : Composition) (anchor : Option String) (node : Node) :
    Ends (fun ending => ending.1.finished = composition.finished) fails
      (composition.addNode anchor node) := by
  unfold Composition.addNode
  split
  · exact .ok rfl
  · split
    · exact .error (allowed _ _ _ _)
    · exact .ok rfl

theorem step_ends (composition : Composition) (event : Event) :
    Ends (fun next => composition.finished = true ∨ event.body = .streamEnd → next.finished = true)
      fails (composition.step event) := by
  obtain ⟨body, start⟩ := event
  unfold Composition.step
  cases body with
  | streamEnd => exact .ok fun _ => rfl
  | streamStart | documentEnd => exact .ok (by simp)
  | documentStart =>
    dsimp only
    split
    · exact .error (allowed _ _ _ _)
    · exact .ok (by simp)
  | «alias» name =>
    dsimp only
    split
    · exact .ok (by simp [place_finished])
    · exact .error (allowed _ _ _ _)
  | scalar anchor tag resolvable chars =>
    apply (addNode_ends allowed composition anchor _).bind
    intro ⟨grown, number⟩ same
    exact .ok (by simpa [place_finished] using same.trans)
  | sequenceStart anchor tag | mappingStart anchor tag =>
    apply (addNode_ends allowed composition anchor _).bind
    intro ⟨grown, number⟩ same
    exact .ok (by simpa using same.trans)
  | sequenceEnd | mappingEnd => exact .ok (by simp [close_finished])

theorem foldlM_ends (events : List Event) (composition : Composition) :
    Ends (fun final => composition.finished = true ∨ (∃ event ∈ events, event.body = .streamEnd) →
      final.finished = true) fails (events.foldlM step composition) := by
  induction events generalizing composition with
  | nil => exact .ok (by simp)
  | cons event rest ih =>
    rw [List.foldlM_cons]
    apply (step_ends allowed composition event).bind
    intro next finishes
    apply (ih next).mono
    rintro final later (before | ⟨last, member, body⟩)
    · exact later (.inl (finishes (.inl before)))
    · rcases List.mem_cons.mp member with rfl | inRest
      · exact later (.inl (finishes (.inr body)))
      · exact later (.inr ⟨last, inRest, body⟩)

end Step

end Composition

-- A stream that has its end is never asked for more, and any other ends in a failure of its own.
theorem NodeTable.ofEvents_ends {fails : Failure → Prop}
    (allowed : ∀ context place problem mark, fails (.malformed .nodes context place problem mark))
    {events : Stream Event}
    (ending : fails events.stop ∨ ∃ event ∈ events.items, event.body = .streamEnd) :
    Ends (fun _ => True) fails (NodeTable.ofEvents events) := by
  apply (Composition.foldlM_ends allowed events.items {}).bind
  intro composition finishes
  by_cases finished : composition.finished = true
  · simp only [finished, if_true]
    exact .ok trivial
  · simp only [finished]
    rcases ending with stop | last
    · exact .error stop
    · exact absurd (finishes (.inr last)) finished

def composed (text : List Char) : Attempt (Option NodeTable) :=
  NodeTable.ofEvents (Event.ofTokens (Stream.ofChars text))

/-- What a text has that no value can be made of. -/
inductive Valueless (text : List Char) : ContentFault → Prop
  | escape {code : Nat} (escapes : Escapes text code) (beyond : 0x10FFFF < code) :
      Valueless text (.noSuchCharacter code)
  | half {code : Nat} (escapes : Escapes text code) (half : IsHalf code) :
      Valueless text (.unpaired code)
  | node {table : NodeTable} {fault : ContentFault} (nodes : composed text = .ok (some table))
      (unfit : table.Unfit fault) : Valueless text fault

def LoadFault (text : List Char) : Failure → Prop
  | .unreadable _ _ => True
  | .malformed .. => True
  | .content fault => Valueless text fault
  | .exhausted => False

section Load

variable {text : List Char} {failure : Failure}

theorem TokenFault.loadFault (fault : TokenFault text failure) : LoadFault text failure := by
  cases failure with
  | unreadable | malformed => trivial
  | content found =>
    cases found with
    | noSuchCharacter code => exact .escape fault.1 fault.2
    | unpaired code => exact .half fault.1 fault.2
    | _ => cases fault
  | exhausted => cases fault

theorem NodeTable.Refuses.loadFault {table : NodeTable} (refuses : table.Refuses failure)
    (nodes : composed text = .ok (some table)) : LoadFault text failure := by
  cases failure with
  | malformed => trivial
  | content => exact .node nodes refuses
  | unreadable | exhausted => cases refuses

theorem composed_ends (text : List Char) :
    Ends (fun _ => True) (LoadFault text) (composed text) := by
  apply NodeTable.ofEvents_ends
  · intros
    trivial
  · apply Event.ofTokens_ends
    · intros
      trivial
    · exact (Stream.ofChars_complete text).imp_left TokenFault.loadFault

theorem load_ends (text : List Char) : Ends (fun _ => True) (LoadFault text) (load text) := by
  unfold load
  split
  · exact .error trivial
  · change Ends _ _ (composed text >>= _)
    apply (composed_ends text).known.bind
    rintro (_ | table) ⟨nodes, -⟩
    · exact .ok trivial
    · obtain ⟨below, inside⟩ := NodeTable.numbers_of_ofEvents nodes
      have graph := (NodeTable.graph_ends below inside).weaken fun _ refuses => refuses.loadFault nodes
      exact graph.bind fun _ _ => .ok trivial

end Load

end FormCompiler.Yaml
