import FormCompiler.Proofs.Yaml.Lexing
import FormCompiler.Yaml.Event
import Mathlib.Algebra.GroupWithZero.Nat

set_option autoImplicit false

namespace FormCompiler.Yaml

def Goal.weight : Goal → Nat
  | .firstDocument => 4
  | .documentContent | .blockNode | .pairValue => 2
  | .streamStart | .documentEnd | .indentlessEntry | .blockMappingValue | .pairEnd
  | .flowMappingValue | .flowMappingEmptyValue => 1
  | _ => 0

def Goal.isOuter : Goal → Bool
  | .streamStart | .firstDocument | .documentStart | .documentEnd | .done => true
  | _ => false

def Goal.opens : Goal → Bool
  | .streamStart | .blockSequenceFirst | .blockMappingFirst | .flowSequenceFirst
  | .flowMappingFirst | .pairKey => true
  | _ => false

def InDocument (waiting : List Goal) : Prop :=
  ∃ inner : List Goal, waiting = inner ++ [.documentEnd] ∧
    ∀ goal ∈ inner, goal.isOuter = false ∧ goal.opens = false

namespace GrammarState

def left (state : GrammarState) : Nat :=
  4 * state.tokens.items.length + (state.waiting.map Goal.weight).sum

def atTokens (state : GrammarState) (rest : List Token) : GrammarState :=
  { state with tokens := { state.tokens with items := rest } }

def inside (state : GrammarState) (goal : Goal) : GrammarState :=
  { state with waiting := goal :: state.waiting }

theorem left_inside (state : GrammarState) (goal : Goal) :
    (state.inside goal).left = goal.weight + state.left := by
  simp only [left, inside, List.map_cons, List.sum_cons]
  omega

theorem left_atTokens {state : GrammarState} {token : Token} {rest : List Token}
    (here : state.tokens.items = token :: rest) : (state.atTokens rest).left + 4 = state.left := by
  simp only [left, atTokens, here, List.length_cons]
  omega

end GrammarState

namespace Grammar

variable {fails : Failure → Prop} {state : GrammarState}

structure Ready (fails : Failure → Prop) (goal : Goal) (state : GrammarState) : Prop where
  complete : goal ≠ .done → Complete fails state.tokens
  waiting : if goal.isOuter then state.waiting = [] else InDocument state.waiting
  opened : goal.opens = true → ∀ token rest, state.tokens.items = token :: rest →
    Complete fails (state.atTokens rest).tokens

-- An event that leaves a state in which the next goal can be read, with less to do than a bound.
-- Only the last event leaves nothing.
structure Reaches (fails : Failure → Prop) (bound : Nat) (ending : (Event × Goal) × GrammarState) :
    Prop where
  ready : Ready fails ending.1.2 ending.2
  less : ending.1.2.weight + ending.2.left < bound
  last : ending.1.2 = .done → ending.1.1.body = .streamEnd

structure Onward (fails : Failure → Prop) (state later : GrammarState) : Prop where
  complete : Complete fails later.tokens
  waiting : later.waiting = state.waiting
  shorter : later.tokens.items.length ≤ state.tokens.items.length

theorem Onward.refl (complete : Complete fails state.tokens) : Onward fails state state :=
  ⟨complete, rfl, Nat.le_refl _⟩

theorem Onward.trans {later last : GrammarState} (first : Onward fails state later)
    (second : Onward fails later last) : Onward fails state last :=
  ⟨second.complete, second.waiting.trans first.waiting, Nat.le_trans second.shorter first.shorter⟩

theorem Onward.left_le {later : GrammarState} (onward : Onward fails state later) :
    later.left ≤ state.left := by
  have shorter := onward.shorter
  simp only [GrammarState.left, onward.waiting]
  omega

theorem peek_run {token : Token} {rest : List Token} (here : state.tokens.items = token :: rest) :
    peek.run state = .ok (token, state) := by
  unfold peek
  rw [StateT.run_bind, StateT.run_get, pure_bind]
  dsimp only
  rw [here]
  rfl

theorem peek_run_nil (here : state.tokens.items = []) :
    peek.run state = .error state.tokens.stop := by
  unfold peek
  rw [StateT.run_bind, StateT.run_get, pure_bind]
  dsimp only
  rw [here]
  rfl

theorem take_run {token : Token} {rest : List Token} (here : state.tokens.items = token :: rest) :
    take.run state = .ok (token, state.atTokens rest) := by
  change (do
    let token ← peek
    modify fun state : GrammarState => state.atTokens state.tokens.items.tail
    return token : Grammar Token).run state = _
  rw [StateT.run_bind, peek_run here]
  change Except.ok (token, state.atTokens state.tokens.items.tail) = _
  rw [here]
  rfl

section Steps

variable {α : Type} {gives : α × GrammarState → Prop}

theorem peek_then {next : Token → Grammar α} (complete : Complete fails state.tokens)
    (later : ∀ token rest, state.tokens.items = token :: rest →
      Ends gives fails ((next token).run state)) :
    Ends gives fails ((peek >>= next).run state) := by
  cases here : state.tokens.items with
  | nil =>
    rcases complete with stop | ⟨before, last, whole, -⟩
    · rw [StateT.run_bind, peek_run_nil here]
      exact .error stop
    · simp [here] at whole
  | cons token rest =>
    rw [StateT.run_bind, peek_run here]
    exact later token rest here

theorem take_then {next : Token → Grammar α} {token : Token} {rest : List Token}
    (here : state.tokens.items = token :: rest)
    (later : Ends gives fails ((next token).run (state.atTokens rest))) :
    Ends gives fails ((take >>= next).run state) := by
  rw [StateT.run_bind, take_run here]
  exact later

theorem nextIs_then {test : TokenKind → Bool} {next : Bool → Grammar α}
    (complete : Complete fails state.tokens)
    (later : ∀ token rest, state.tokens.items = token :: rest →
      Ends gives fails ((next (test token.kind)).run state)) :
    Ends gives fails ((nextIs test >>= next).run state) := by
  have same : (nextIs test >>= next) = peek >>= fun token => next (test token.kind) := by
    simp [nextIs]
  rw [same]
  exact peek_then complete later

end Steps

theorem onward_atTokens {token : Token} {rest : List Token} (complete : Complete fails state.tokens)
    (here : state.tokens.items = token :: rest) (other : token.kind ≠ .streamEnd) :
    Onward fails state (state.atTokens rest) := by
  refine ⟨?_, rfl, by simp [GrammarState.atTokens, here]⟩
  rcases complete with stop | ⟨before, last, whole, isLast⟩
  · exact .inl stop
  · rw [here] at whole
    cases before with
    | nil =>
      cases whole
      exact absurd isLast other
    | cons first before =>
      cases whole
      exact .inr ⟨before, last, rfl, isLast⟩

theorem ready_inner {goal : Goal} (complete : Complete fails state.tokens)
    (inside : InDocument state.waiting) (inner : goal.isOuter = false)
    (closed : goal.opens = false) : Ready fails goal state :=
  ⟨fun _ => complete, by simpa [inner] using inside, by simp [closed]⟩

theorem ready_opening {goal : Goal} {token : Token} {rest : List Token}
    (complete : Complete fails state.tokens) (inside : InDocument state.waiting)
    (here : state.tokens.items = token :: rest) (other : token.kind ≠ .streamEnd)
    (inner : goal.isOuter = false) : Ready fails goal state := by
  refine ⟨fun _ => complete, by simpa [inner] using inside, fun _ first others same => ?_⟩
  rw [here] at same
  cases same
  exact (onward_atTokens complete here other).complete

theorem reaches_of_ready {event : Event} {goal : Goal} {bound : Nat}
    (ready : Ready fails goal state) (less : goal.weight + state.left < bound)
    (more : goal ≠ .done) : Reaches fails bound ((event, goal), state) :=
  ⟨ready, less, fun done => absurd done more⟩

theorem resume_run {goal : Goal} {rest : List Goal} (here : state.waiting = goal :: rest) :
    resume.run state = .ok (goal, { state with waiting := rest }) := by
  unfold resume
  rw [StateT.run_bind, StateT.run_get, pure_bind]
  dsimp only
  rw [here]
  rfl

theorem resume_ends {bound : Nat} (complete : Complete fails state.tokens)
    (inside : InDocument state.waiting) (less : state.left < bound) :
    Ends (fun ending => Ready fails ending.1 ending.2 ∧
        ending.1.weight + ending.2.left < bound ∧ ending.1 ≠ .done)
      fails (resume.run state) := by
  obtain ⟨inner, whole, each⟩ := inside
  cases inner with
  | nil =>
    rw [resume_run whole]
    refine .ok ⟨⟨fun _ => complete, rfl, by simp [Goal.opens]⟩, ?_, by simp⟩
    simp only [GrammarState.left, whole] at less ⊢
    simp [Goal.weight] at less ⊢
    omega
  | cons goal inner =>
    rw [List.cons_append] at whole
    rw [resume_run whole]
    obtain ⟨here, others⟩ := List.forall_mem_cons.mp each
    refine .ok ⟨ready_inner complete ⟨inner, rfl, others⟩ here.1 here.2, ?_, ?_⟩
    · simp only [GrammarState.left, whole] at less ⊢
      simp at less ⊢
      omega
    · rintro rfl
      cases here.1

theorem resume_reaches (event : Event) {bound : Nat} (complete : Complete fails state.tokens)
    (inside : InDocument state.waiting) (less : state.left < bound) :
    Ends (Reaches fails bound) fails
      ((do return (event, ← resume) : Grammar (Event × Goal)).run state) :=
  (resume_ends complete inside less).andThen fun _ _ given =>
    .ok (reaches_of_ready given.1 given.2.1 given.2.2)

theorem endCollection_reaches (body : EventBody) {token : Token} {rest : List Token} {bound : Nat}
    (complete : Complete fails state.tokens) (inside : InDocument state.waiting)
    (here : state.tokens.items = token :: rest) (other : token.kind ≠ .streamEnd)
    (less : state.left ≤ bound) :
    Ends (Reaches fails bound) fails ((endCollection body).run state) := by
  have taken := onward_atTokens complete here other
  have counted := GrammarState.left_atTokens here
  have fewer : (state.atTokens rest).left < bound := by omega
  refine take_then here ((resume_ends taken.complete (taken.waiting ▸ inside)
    fewer).andThen fun goal later given => ?_)
  obtain ⟨ready, less, more⟩ := given
  have closed : Ready fails goal { later with openings := later.openings.tail } :=
    ⟨ready.complete, ready.waiting, ready.opened⟩
  exact .ok (reaches_of_ready closed less more)

section Nodes

variable (allowed : ∀ context place problem mark, fails (.malformed .events context place problem mark))

theorem takeAnchor_onward (lead : NodeLead) (complete : Complete fails state.tokens) :
    Ends (fun ending => Onward fails state ending.2) fails ((takeAnchor lead).run state) := by
  refine peek_then complete fun token rest here => ?_
  split
  · next name anchor =>
    exact take_then here (.ok (onward_atTokens complete here (by simp [anchor])))
  · exact .ok (.refl complete)

theorem takeTag_onward (lead : NodeLead) (complete : Complete fails state.tokens) :
    Ends (fun ending => Onward fails state ending.2) fails ((takeTag lead).run state) := by
  refine peek_then complete fun token rest here => ?_
  split
  · next handle suffix tag =>
    exact take_then here (.ok (onward_atTokens complete here (by simp [tag])))
  · exact .ok (.refl complete)

theorem nodeLead_onward (complete : Complete fails state.tokens) :
    Ends (fun ending => Onward fails state ending.2) fails (nodeLead.run state) := by
  refine (takeAnchor_onward {} complete).andThen fun lead later onward => ?_
  split
  · exact (takeTag_onward lead onward.complete).mono fun _ more => onward.trans more
  · refine (takeTag_onward lead onward.complete).andThen fun lead last more => ?_
    split
    · exact (takeAnchor_onward lead more.complete).mono fun _ rest =>
        (onward.trans more).trans rest
    · exact .ok (onward.trans more)

include allowed

theorem fullTag_onward (lead : NodeLead) (complete : Complete fails state.tokens) :
    Ends (fun ending => Onward fails state ending.2) fails ((fullTag lead).run state) := by
  unfold fullTag
  split
  · exact .ok (.refl complete)
  · exact .ok (.refl complete)
  · next handle suffix place _ =>
    rw [StateT.run_bind, StateT.run_get, pure_bind]
    dsimp only
    split
    · exact .ok (.refl complete)
    · exact .error (allowed _ _ _ _)

theorem missing_reaches (inBlock : Bool) (lead : NodeLead) (tag given : Option String)
    (start : Mark) (token : Token) {bound : Nat} (complete : Complete fails state.tokens)
    (inside : InDocument state.waiting) (less : state.left < bound) :
    Ends (Reaches fails bound) fails
      ((node.missing inBlock lead tag given start token).run state) := by
  unfold node.missing
  split
  · exact resume_reaches _ complete inside less
  · exact .error (allowed _ _ _ _)

theorem node_reaches (inBlock indentless : Bool) (complete : Complete fails state.tokens)
    (inside : InDocument state.waiting) {bound : Nat} (less : state.left + 1 < bound) :
    Ends (Reaches fails bound) fails ((node inBlock indentless).run state) := by
  refine peek_then complete fun token rest here => ?_
  split
  · next name isAlias =>
    have onward := onward_atTokens complete here (by simp [isAlias])
    have fewer := onward.left_le
    exact take_then here (resume_reaches _ onward.complete (onward.waiting ▸ inside) (by omega))
  · refine (nodeLead_onward complete).andThen fun lead later onward => ?_
    refine (fullTag_onward allowed lead onward.complete).andThen fun tag last more => ?_
    have onward : Onward fails state last := onward.trans more
    have fewer := onward.left_le
    have inside : InDocument last.waiting := onward.waiting ▸ inside
    refine peek_then onward.complete fun token rest here => ?_
    have opening (goal : Goal) (event : Event) (other : token.kind ≠ .streamEnd)
        (inner : goal.isOuter = false) (small : goal.weight ≤ 1) (goesOn : goal ≠ .done) :
        Reaches fails bound ((event, goal), last) :=
      reaches_of_ready (ready_opening onward.complete inside here other inner) (by omega) goesOn
    dsimp only
    split
    · next kind =>
      split
      · exact .ok (opening _ _ (by simp [kind]) rfl (by simp [Goal.weight]) (by simp))
      · exact missing_reaches allowed _ _ _ _ _ _ onward.complete inside (by omega)
    · next chars plain kind =>
      have taken := onward_atTokens onward.complete here (by simp [kind])
      have less := taken.left_le
      exact take_then here
        (resume_reaches _ taken.complete (taken.waiting ▸ inside) (by omega))
    · next kind => exact .ok (opening _ _ (by simp [kind]) rfl (by simp [Goal.weight]) (by simp))
    · next kind => exact .ok (opening _ _ (by simp [kind]) rfl (by simp [Goal.weight]) (by simp))
    · next kind => exact .ok (opening _ _ (by simp [kind]) rfl (by simp [Goal.weight]) (by simp))
    · next kind => exact .ok (opening _ _ (by simp [kind]) rfl (by simp [Goal.weight]) (by simp))
    · exact missing_reaches allowed _ _ _ _ _ _ onward.complete inside (by omega)

theorem inside_reaches {goal : Goal} (inBlock indentless : Bool)
    (complete : Complete fails state.tokens) (inside : InDocument state.waiting)
    (inner : goal.isOuter = false) (closed : goal.opens = false) {bound : Nat}
    (less : goal.weight + state.left + 1 < bound) :
    Ends (Reaches fails bound) fails
      ((do wait goal; node inBlock indentless : Grammar (Event × Goal)).run state) := by
  have waits : InDocument (state.inside goal).waiting := by
    obtain ⟨others, whole, each⟩ := inside
    refine ⟨goal :: others, ?_, List.forall_mem_cons.mpr ⟨⟨inner, closed⟩, each⟩⟩
    simp [GrammarState.inside, whole]
  have still : Complete fails (state.inside goal).tokens := complete
  have grown := state.left_inside goal
  exact node_reaches allowed inBlock indentless still waits (by omega)

omit allowed in
theorem emptyScalar_reaches (place : Mark) {goal : Goal} (complete : Complete fails state.tokens)
    (inside : InDocument state.waiting) (inner : goal.isOuter = false)
    (closed : goal.opens = false) {bound : Nat} (less : goal.weight + state.left < bound) :
    Ends (Reaches fails bound) fails ((emptyScalar place goal).run state) := by
  refine .ok (reaches_of_ready (ready_inner complete inside inner closed) less ?_)
  rintro rfl
  cases inner

theorem nodeUnless_reaches (stops : List TokenKind) (place : Mark) {goal : Goal}
    (inBlock indentless : Bool) (complete : Complete fails state.tokens)
    (inside : InDocument state.waiting) (inner : goal.isOuter = false) (closed : goal.opens = false)
    {bound : Nat} (less : goal.weight + state.left + 1 < bound) :
    Ends (Reaches fails bound) fails
      ((nodeUnless stops place goal (node inBlock indentless)).run state) := by
  refine nextIs_then complete fun token rest here => ?_
  split
  · exact emptyScalar_reaches place complete inside inner closed (by omega)
  · exact inside_reaches allowed inBlock indentless complete inside inner closed less

theorem directives_onward {steps : Nat} (versionSeen : Bool) (handles : Entries String String)
    (complete : Complete fails state.tokens) (room : state.tokens.items.length < steps) :
    Ends (fun ending => Onward fails state ending.2) fails
      ((directives steps versionSeen handles).run state) := by
  induction steps generalizing state versionSeen handles with
  | zero => cases room
  | succ steps ih =>
    refine peek_then complete fun token rest here => ?_
    have goesOn (versionSeen : Bool) (handles : Entries String String)
        (other : token.kind ≠ .streamEnd) :
        Ends (fun ending => Onward fails state ending.2) fails
          ((directives steps versionSeen handles).run (state.atTokens rest)) := by
      have taken := onward_atTokens complete here other
      rw [here] at room
      exact (ih versionSeen handles taken.complete (Nat.lt_of_succ_lt_succ room)).mono
        fun _ more => taken.trans more
    split
    · next major minor kind =>
      refine take_then here ?_
      split
      · exact .error (allowed _ _ _ _)
      · split
        · exact .error (allowed _ _ _ _)
        · exact goesOn true handles (by simp [kind])
    · next handle lead kind =>
      refine take_then here ?_
      split
      · exact .error (allowed _ _ _ _)
      · exact goesOn versionSeen _ (by simp [kind])
    · next name kind => exact take_then here (goesOn versionSeen handles (by simp [kind]))
    · exact .ok (.refl complete)

omit allowed in
theorem ne_streamEnd_of_isOneOf {kinds : List TokenKind} {kind : TokenKind}
    (isOne : isOneOf kinds kind = true) (others : isOneOf kinds .streamEnd = false) :
    kind ≠ .streamEnd := by
  rintro rfl
  rw [others] at isOne
  cases isOne

omit allowed in
theorem skipDocumentEnds_onward {steps : Nat} (complete : Complete fails state.tokens)
    (room : state.tokens.items.length < steps) :
    Ends (fun ending => Onward fails state ending.2) fails
      ((skipDocumentEnds steps).run state) := by
  induction steps generalizing state with
  | zero => cases room
  | succ steps ih =>
    refine nextIs_then complete fun token rest here => ?_
    split
    · next isEnd =>
      have taken := onward_atTokens complete here (ne_streamEnd_of_isOneOf isEnd rfl)
      rw [here] at room
      exact take_then here ((ih taken.complete (Nat.lt_of_succ_lt_succ room)).mono
        fun _ more => taken.trans more)
    · exact .ok (.refl complete)

theorem documentStart_reaches (complete : Complete fails state.tokens)
    (outside : state.waiting = []) {bound : Nat} (less : state.left ≤ bound) :
    Ends (Reaches fails bound) fails (documentStart.run state) := by
  have room : state.tokens.items.length < state.tokens.items.length + 1 := Nat.lt_succ_self _
  change Ends (Reaches fails bound) fails
    ((skipDocumentEnds (state.tokens.items.length + 1) >>= fun _ => _).run state)
  refine (skipDocumentEnds_onward complete room).andThen fun _ later onward => ?_
  refine peek_then onward.complete fun first rest here => ?_
  have fewer : later.left ≤ state.left := onward.left_le
  have outside : later.waiting = [] := onward.waiting.trans outside
  split
  · have taken := GrammarState.left_atTokens here
    refine take_then here (.ok ⟨⟨by simp, outside, by simp [Goal.opens]⟩, ?_, fun _ => rfl⟩)
    simp only [Goal.weight]
    omega
  · have room : later.tokens.items.length < state.tokens.items.length + 1 :=
      Nat.lt_succ_of_le onward.shorter
    refine (directives_onward allowed false [] onward.complete room).andThen
      fun handles last more => ?_
    have onward : Onward fails later last := more
    have fewer := Nat.le_trans onward.left_le fewer
    have outside : last.waiting = [] := onward.waiting.trans outside
    refine peek_then onward.complete fun token rest here => ?_
    split
    · next kind =>
      have taken := onward_atTokens onward.complete here (by simp [kind])
      have counted := GrammarState.left_atTokens here
      have grown := (last.atTokens rest).left_inside .documentEnd
      refine take_then here (.ok (reaches_of_ready ⟨fun _ => taken.complete, ?_, ?_⟩ ?_ (by simp)))
      · exact ⟨[], congrArg (Goal.documentEnd :: ·) outside, by simp⟩
      · simp [Goal.opens]
      · change Goal.documentContent.weight + ((last.atTokens rest).inside .documentEnd).left < bound
        simp only [Goal.weight] at grown ⊢
        omega
    · exact .error (allowed _ _ _ _)

section Inside

-- What is read within a document, from a state with less to do than a bound allows for.

variable {bound : Nat} (complete : Complete fails state.tokens) (inside : InDocument state.waiting)

include complete inside

theorem entry_reaches (stops : List TokenKind) (place : Mark) {goal : Goal}
    (inBlock indentless : Bool) {token : Token} {rest : List Token}
    (here : state.tokens.items = token :: rest) (other : token.kind ≠ .streamEnd)
    (inner : goal.isOuter = false) (closed : goal.opens = false)
    (less : goal.weight + state.left < bound + 3) :
    Ends (Reaches fails bound) fails
      ((do let _ ← take; nodeUnless stops place goal (node inBlock indentless)).run state) := by
  have taken := onward_atTokens complete here other
  have counted := GrammarState.left_atTokens here
  exact take_then here (nodeUnless_reaches allowed _ _ _ _ taken.complete
    (taken.waiting ▸ inside) inner closed (by omega))

theorem blockSequenceEntry_reaches (less : state.left ≤ bound) :
    Ends (Reaches fails bound) fails (blockSequenceEntry.run state) := by
  refine peek_then complete fun token rest here => ?_
  split
  · next kind =>
    refine entry_reaches allowed complete inside _ _ _ _ here (by simp [kind]) rfl rfl ?_
    simp only [Goal.weight]
    omega
  · next kind => exact endCollection_reaches _ complete inside here (by simp [kind]) less
  · exact .error (allowed _ _ _ _)

theorem indentlessEntry_reaches (less : state.left < bound) :
    Ends (Reaches fails bound) fails (indentlessEntry.run state) := by
  refine peek_then complete fun token rest here => ?_
  split
  · next kind =>
    refine entry_reaches allowed complete inside _ _ _ _ here (by simp [kind]) rfl rfl ?_
    simp only [Goal.weight]
    omega
  · exact resume_reaches _ complete inside less

theorem blockMappingKey_reaches (less : state.left ≤ bound) :
    Ends (Reaches fails bound) fails (blockMappingKey.run state) := by
  refine peek_then complete fun token rest here => ?_
  split
  · next kind =>
    refine entry_reaches allowed complete inside _ _ _ _ here (by simp [kind]) rfl rfl ?_
    simp only [Goal.weight]
    omega
  · next kind => exact endCollection_reaches _ complete inside here (by simp [kind]) less
  · exact .error (allowed _ _ _ _)

theorem blockMappingValue_reaches (less : state.left < bound) :
    Ends (Reaches fails bound) fails (blockMappingValue.run state) := by
  have next : Goal.blockMappingKey.weight + state.left < bound := by
    simpa [Goal.weight] using less
  refine peek_then complete fun token rest here => ?_
  split
  · next kind =>
    exact entry_reaches allowed complete inside _ _ _ _ here (by simp [kind]) rfl rfl (by omega)
  · exact emptyScalar_reaches _ complete inside rfl rfl next

theorem flowValue_reaches (closing : TokenKind) {goal : Goal} (inner : goal.isOuter = false)
    (closed : goal.opens = false) (less : goal.weight + state.left < bound) :
    Ends (Reaches fails bound) fails ((flowValue closing goal).run state) := by
  refine peek_then complete fun token rest here => ?_
  split
  · next kind =>
    exact entry_reaches allowed complete inside _ _ _ _ here (by simp [kind]) inner closed
      (by omega)
  · exact emptyScalar_reaches _ complete inside inner closed less

omit inside in
theorem itemSeparator_ends (activity : Activity) (closing : TokenKind) :
    Ends (fun ending => Onward fails state ending.2 ∧ ending.2.left + 4 = state.left) fails
      ((itemSeparator activity closing).run state) := by
  refine peek_then complete fun token rest here => ?_
  split
  · next kind =>
    have taken := onward_atTokens complete here (by simp [kind])
    exact take_then here (.ok ⟨taken, GrammarState.left_atTokens here⟩)
  · exact .error (allowed _ _ _ _)

end Inside

section Items

variable {bound : Nat}

theorem flowSequenceItem_reaches (complete : Complete fails state.tokens)
    (inside : InDocument state.waiting) (less : state.left + 4 ≤ bound) :
    Ends (Reaches fails bound) fails ((do
      let token ← peek
      match token.kind with
      | .key => return (⟨.mappingStart none none, token.start⟩, .pairKey)
      | .flowSequenceEnd => endCollection .sequenceEnd
      | _ =>
        wait .flowSequenceEntry
        node false false : Grammar (Event × Goal)).run state) := by
  refine peek_then complete fun token rest here => ?_
  split
  · next kind =>
    exact .ok (reaches_of_ready (ready_opening complete inside here (by simp [kind]) rfl)
      (by simp only [Goal.weight]; omega) (by simp))
  · next kind => exact endCollection_reaches _ complete inside here (by simp [kind]) (by omega)
  · exact inside_reaches allowed _ _ complete inside rfl rfl (by simp only [Goal.weight]; omega)

theorem flowMappingItem_reaches (complete : Complete fails state.tokens)
    (inside : InDocument state.waiting) (less : state.left + 4 ≤ bound) :
    Ends (Reaches fails bound) fails ((do
      let token ← peek
      match token.kind with
      | .key =>
        let _ ← take
        nodeUnless [.value, .flowEntry, .flowMappingEnd] token.stop .flowMappingValue
          (node false false)
      | .flowMappingEnd => endCollection .mappingEnd
      | _ =>
        wait .flowMappingEmptyValue
        node false false : Grammar (Event × Goal)).run state) := by
  refine peek_then complete fun token rest here => ?_
  split
  · next kind =>
    refine entry_reaches allowed complete inside _ _ _ _ here (by simp [kind]) rfl rfl ?_
    simp only [Goal.weight]
    omega
  · next kind => exact endCollection_reaches _ complete inside here (by simp [kind]) (by omega)
  · exact inside_reaches allowed _ _ complete inside rfl rfl (by simp only [Goal.weight]; omega)

theorem flowItem_reaches (first : Bool) (activity : Activity) {closing : TokenKind}
    (body : EventBody) {item : Grammar (Event × Goal)} (isEnd : isOneOf [closing] .streamEnd = false)
    (items : ∀ later : GrammarState, Complete fails later.tokens → InDocument later.waiting →
      later.left + 4 ≤ bound → Ends (Reaches fails bound) fails (item.run later))
    (complete : Complete fails state.tokens) (inside : InDocument state.waiting)
    (less : state.left + (if first then 4 else 0) ≤ bound) :
    Ends (Reaches fails bound) fails ((do
      if ← nextIs (isOneOf [closing]) then endCollection body
      else
        if !first then itemSeparator activity closing
        item : Grammar (Event × Goal)).run state) := by
  apply nextIs_then complete
  intro token rest here
  split
  · next found =>
    exact endCollection_reaches _ complete inside here (ne_streamEnd_of_isOneOf found isEnd)
      (Nat.le_trans (Nat.le_add_right _ _) less)
  · cases first with
    | true => exact items state complete inside less
    | false =>
      apply (itemSeparator_ends allowed complete activity closing).andThen
      rintro _ later ⟨onward, counted⟩
      exact items later onward.complete (onward.waiting ▸ inside) (counted ▸ less)

theorem flowSequenceEntry_reaches (first : Bool) (complete : Complete fails state.tokens)
    (inside : InDocument state.waiting) (less : state.left + (if first then 4 else 0) ≤ bound) :
    Ends (Reaches fails bound) fails ((flowSequenceEntry first).run state) :=
  flowItem_reaches allowed first _ _ rfl (fun _ => flowSequenceItem_reaches allowed) complete inside
    less

theorem flowMappingKey_reaches (first : Bool) (complete : Complete fails state.tokens)
    (inside : InDocument state.waiting) (less : state.left + (if first then 4 else 0) ≤ bound) :
    Ends (Reaches fails bound) fails ((flowMappingKey first).run state) :=
  flowItem_reaches allowed first _ _ rfl (fun _ => flowMappingItem_reaches allowed) complete inside
    less

end Items

omit allowed in
theorem take_ends (complete : Complete fails state.tokens) :
    Ends (fun ending => ∃ rest, state.tokens.items = ending.1 :: rest ∧
        ending.2 = state.atTokens rest) fails (take.run state) := by
  refine peek_then complete fun token rest here => ?_
  refine .ok ⟨rest, here, ?_⟩
  simp [GrammarState.atTokens, here]

omit allowed in
theorem enterCollection_then {goal : Goal} (ready : Ready fails goal state)
    (opens : goal.opens = true) {bound : Nat} {item : Grammar (Event × Goal)}
    (items : ∀ later : GrammarState, Complete fails later.tokens →
      later.waiting = state.waiting → later.left + 4 = state.left →
      Ends (Reaches fails bound) fails (item.run later)) :
    Ends (Reaches fails bound) fails ((enterCollection >>= fun _ => item).run state) := by
  have more : goal ≠ .done := by
    rintro rfl
    cases opens
  have entered : Ends (fun ending => Complete fails ending.2.tokens ∧
      ending.2.waiting = state.waiting ∧ ending.2.left + 4 = state.left) fails
      (enterCollection.run state) := by
    refine (take_ends (ready.complete more)).andThen ?_
    rintro token _ ⟨rest, here, rfl⟩
    exact .ok ⟨ready.opened opens token rest here, rfl, GrammarState.left_atTokens here⟩
  exact entered.andThen fun _ later given => items later given.1 given.2.1 given.2.2

section Outside

-- What is read around the content of documents.

variable (complete : Complete fails state.tokens)
include complete

theorem firstDocument_reaches (outside : state.waiting = []) :
    Ends (Reaches fails (Goal.firstDocument.weight + state.left)) fails
      ((next .firstDocument).run state) := by
  have starts : Ends (Reaches fails (Goal.firstDocument.weight + state.left)) fails
      (documentStart.run state) :=
    documentStart_reaches allowed complete outside (Nat.le_add_left _ _)
  apply peek_then complete
  intro token rest here
  split
  · exact starts
  · exact starts
  · exact starts
  -- The first document may start without a mark of its own.
  · have grown := state.left_inside .documentEnd
    refine .ok (reaches_of_ready ⟨fun _ => complete, ?_, by simp [Goal.opens]⟩ ?_ (by simp))
    · exact ⟨[], congrArg (Goal.documentEnd :: ·) outside, by simp⟩
    · change Goal.blockNode.weight + (state.inside .documentEnd).left < _
      simp only [Goal.weight] at grown ⊢
      omega

theorem documentContent_reaches (inside : InDocument state.waiting) :
    Ends (Reaches fails (Goal.documentContent.weight + state.left)) fails
      ((next .documentContent).run state) := by
  apply peek_then complete
  intro token rest here
  have empty : Ends (Reaches fails (Goal.documentContent.weight + state.left)) fails
      ((do emptyScalar token.start (← resume) : Grammar (Event × Goal)).run state) :=
    resume_reaches _ complete inside (by simp only [Goal.weight]; omega)
  split
  · exact empty
  · exact empty
  · exact empty
  · exact empty
  · exact node_reaches allowed true false complete inside (by simp only [Goal.weight]; omega)

omit allowed in
theorem documentEnd_reaches (outside : state.waiting = []) :
    Ends (Reaches fails (Goal.documentEnd.weight + state.left)) fails
      ((next .documentEnd).run state) := by
  apply peek_then complete
  intro token rest here
  split
  · next kind =>
    have taken := onward_atTokens complete here (by simp [kind])
    have counted := GrammarState.left_atTokens here
    refine take_then here (.ok (reaches_of_ready
      ⟨fun _ => taken.complete, outside, by simp [Goal.opens]⟩ ?_ (by simp)))
    simp only [Goal.weight]
    omega
  · refine .ok (reaches_of_ready ⟨fun _ => complete, outside, by simp [Goal.opens]⟩ ?_ (by simp))
    simp only [Goal.weight]
    omega

end Outside

theorem next_reaches {goal : Goal} (ready : Ready fails goal state) (more : goal ≠ .done) :
    Ends (Reaches fails (goal.weight + state.left)) fails ((next goal).run state) := by
  have complete := ready.complete more
  have waiting := ready.waiting
  cases goal with
  | done => exact absurd rfl more
  | streamStart =>
    refine (take_ends complete).andThen ?_
    rintro token _ ⟨rest, here, rfl⟩
    have counted := GrammarState.left_atTokens here
    refine .ok (reaches_of_ready ⟨fun _ => ready.opened rfl token rest here, waiting, ?_⟩ ?_ ?_)
    · simp [Goal.opens]
    · simp only [Goal.weight]
      omega
    · simp
  | firstDocument => exact firstDocument_reaches allowed complete waiting
  | documentStart => exact documentStart_reaches allowed complete waiting (by simp [Goal.weight])
  | documentContent => exact documentContent_reaches allowed complete waiting
  | documentEnd => exact documentEnd_reaches complete waiting
  | blockNode =>
    exact node_reaches allowed true false complete waiting (by simp only [Goal.weight]; omega)
  | blockSequenceFirst =>
    exact enterCollection_then ready rfl fun later complete same counted =>
      blockSequenceEntry_reaches allowed complete (same ▸ waiting) (by omega)
  | blockSequenceEntry =>
    exact blockSequenceEntry_reaches allowed complete waiting (by simp only [Goal.weight]; omega)
  | indentlessEntry =>
    exact indentlessEntry_reaches allowed complete waiting (by simp only [Goal.weight]; omega)
  | blockMappingFirst =>
    exact enterCollection_then ready rfl fun later complete same counted =>
      blockMappingKey_reaches allowed complete (same ▸ waiting) (by omega)
  | blockMappingKey =>
    exact blockMappingKey_reaches allowed complete waiting (by simp only [Goal.weight]; omega)
  | blockMappingValue =>
    exact blockMappingValue_reaches allowed complete waiting (by simp only [Goal.weight]; omega)
  | flowSequenceFirst =>
    exact enterCollection_then ready rfl fun later complete same counted =>
      flowSequenceEntry_reaches allowed true complete (same ▸ waiting) (by simp; omega)
  | flowSequenceEntry =>
    exact flowSequenceEntry_reaches allowed false complete waiting (by simp [Goal.weight])
  | pairKey =>
    refine (take_ends complete).andThen ?_
    rintro token _ ⟨rest, here, rfl⟩
    have counted := GrammarState.left_atTokens here
    refine nodeUnless_reaches allowed _ _ _ _ (ready.opened rfl token rest here) waiting rfl rfl ?_
    simp only [Goal.weight]
    omega
  | pairValue =>
    exact flowValue_reaches allowed complete waiting _ rfl rfl (by simp only [Goal.weight]; omega)
  | pairEnd =>
    refine peek_then complete fun token rest here => ?_
    refine .ok (reaches_of_ready (ready_inner complete waiting rfl rfl) ?_ (by simp))
    simp only [Goal.weight]
    omega
  | flowMappingFirst =>
    exact enterCollection_then ready rfl fun later complete same counted =>
      flowMappingKey_reaches allowed true complete (same ▸ waiting) (by simp; omega)
  | flowMappingKey =>
    exact flowMappingKey_reaches allowed false complete waiting (by simp [Goal.weight])
  | flowMappingValue =>
    exact flowValue_reaches allowed complete waiting _ rfl rfl (by simp only [Goal.weight]; omega)
  | flowMappingEmptyValue =>
    refine peek_then complete fun token rest here => ?_
    exact emptyScalar_reaches _ complete waiting rfl rfl (by simp only [Goal.weight]; omega)

end Nodes

end Grammar

namespace Event

variable {fails : Failure → Prop}

theorem collect_ends (allowed : ∀ context place problem mark,
      fails (.malformed .events context place problem mark))
    {steps : Nat} {goal : Goal} {state : GrammarState} {events : Array Event}
    (ready : Grammar.Ready fails goal state) (enough : goal.weight + state.left < steps)
    (last : goal = .done → ∃ event ∈ events, event.body = .streamEnd) :
    fails (collect steps goal state events).stop ∨
      ∃ event ∈ (collect steps goal state events).items, event.body = .streamEnd := by
  -- The steps exceed what is left to do, and each event takes one of both at least.
  induction steps generalizing goal state events with
  | zero => cases enough
  | succ steps ih =>
    rw [collect]
    by_cases isDone : goal = .done
    · obtain ⟨event, member, body⟩ := last isDone
      rw [if_pos isDone]
      exact .inr ⟨event, by simpa using member, body⟩
    · rw [if_neg isDone]
      have reaches := Grammar.next_reaches allowed ready isDone
      cases run : (Grammar.next goal).run state with
      | error failure =>
        rw [run] at reaches
        exact .inl reaches.failure
      | ok ending =>
        obtain ⟨⟨event, next⟩, later⟩ := ending
        rw [run] at reaches
        obtain ⟨nextReady, less, lastEvent⟩ := reaches.result
        refine ih nextReady (by dsimp only at less; omega) fun isLast => ?_
        exact ⟨event, by simp, lastEvent isLast⟩

theorem ofTokens_ends (allowed : ∀ context place problem mark,
      fails (.malformed .events context place problem mark))
    {tokens : Stream Token} (whole : fails tokens.stop ∨ ∃ first between last,
      tokens.items = first :: (between ++ [last]) ∧ last.kind = .streamEnd) :
    fails (ofTokens tokens).stop ∨
      ∃ event ∈ (ofTokens tokens).items, event.body = .streamEnd := by
  have complete : Complete fails tokens :=
    whole.imp_right fun ⟨first, between, last, items, kind⟩ => ⟨first :: between, last, items, kind⟩
  have opened (token : Token) (rest : List Token) (ahead : tokens.items = token :: rest) :
      Complete fails { tokens with items := rest } := by
    refine whole.imp_right fun ⟨first, between, last, items, kind⟩ => ⟨between, last, ?_, kind⟩
    exact (List.cons.inj (ahead.symm.trans items)).2
  refine collect_ends allowed ⟨fun _ => complete, rfl, fun _ => opened⟩ ?_ (by simp)
  simp only [GrammarState.left, Goal.weight, List.map_nil, List.sum_nil]
  omega

end Event

end FormCompiler.Yaml
