import FormCompiler.Proofs.Yaml.Scanning
import FormCompiler.Yaml.Token.Stream

set_option autoImplicit false

namespace FormCompiler.Yaml

def Complete (fails : Failure → Prop) (tokens : Stream Token) : Prop :=
  fails tokens.stop ∨ ∃ before last, tokens.items = before ++ [last] ∧ last.kind = .streamEnd

namespace Lexer

variable {text chars : List Char} {lexer : Lexer} {cursor : Cursor}

structure At (cursor : Cursor) (lexer : Lexer) : Prop where
  cursor : lexer.cursor = cursor
  tokens : lexer.tokens.reversed ≠ []

structure Added (chars : List Char) (lexer : Lexer) : Prop where
  within : lexer.cursor.Within chars
  tokens : 2 ≤ lexer.tokens.reversed.length

theorem At.pushOver (here : lexer.At cursor) (count : Nat) (kind : TokenKind) :
    (lexer.pushOver (count + 1) kind).Added cursor.rest.tail := by
  obtain ⟨rfl, tokens⟩ := here
  exact ⟨lexer.cursor.within_tail.skip count, Nat.succ_le_succ (List.length_pos_iff.mpr tokens)⟩

theorem At.pushRead (here : lexer.At cursor) {read : Token × Cursor}
    (within : read.2.Within chars) : (lexer.pushRead read).Added chars :=
  ⟨within, Nat.succ_le_succ (List.length_pos_iff.mpr here.tokens)⟩

theorem closeBlocks_tokens (column : Int) (mark : Mark) (outer : List Int) (indent : Int)
    {tokens : TokenList} (some : tokens.reversed ≠ []) :
    (closeBlocks column mark outer indent tokens).2.2.reversed ≠ [] := by
  induction outer generalizing indent tokens with
  | nil => exact some
  | cons first rest ih =>
    unfold closeBlocks
    split
    · exact ih _ (List.cons_ne_nil _ _)
    · exact some

theorem At.unwind (here : lexer.At cursor) (column : Int) : (lexer.unwind column).At cursor := by
  unfold Lexer.unwind
  split
  · exact here
  · exact ⟨here.cursor, closeBlocks_tokens _ _ _ _ here.tokens⟩

theorem dropStale_ends :
    Ends (fun next => next.cursor = lexer.cursor ∧ next.tokens = lexer.tokens) (TokenFault text)
      lexer.dropStale := by
  unfold Lexer.dropStale
  split
  · exact .error rfl
  · exact .ok ⟨rfl, rfl⟩

theorem At.dropPending (here : lexer.At cursor) :
    Ends (At cursor) (TokenFault text) lexer.dropPending := by
  unfold Lexer.dropPending
  split
  · split
    · exact .error rfl
    · exact .ok ⟨here.cursor, here.tokens⟩
  · exact .ok here

theorem At.notePending (here : lexer.At cursor) :
    Ends (At cursor) (TokenFault text) lexer.notePending := by
  unfold Lexer.notePending
  split
  · exact here.dropPending.bind fun _ there => .ok ⟨there.cursor, there.tokens⟩
  · exact .ok here

theorem dropPending_flowDepth {next : Lexer} (dropped : lexer.dropPending = .ok next) :
    next.flowDepth = lexer.flowDepth := by
  unfold Lexer.dropPending at dropped
  split at dropped
  · split at dropped
    · cases dropped
    · cases dropped
      rfl
  · cases dropped
    rfl

theorem notePending_flowDepth {next : Lexer} (noted : lexer.notePending = .ok next) :
    next.flowDepth = lexer.flowDepth := by
  unfold Lexer.notePending at noted
  split at noted
  · cases dropped : lexer.dropPending with
    | error failure =>
      rw [dropped] at noted
      cases noted
    | ok middle =>
      rw [dropped] at noted
      cases noted
      exact (dropPending_flowDepth dropped : middle.flowDepth = _)
  · cases noted
    rfl

theorem At.leaveBlocks (here : lexer.At cursor) :
    Ends (At cursor) (TokenFault text) lexer.leaveBlocks :=
  (here.unwind _).dropPending.bind fun _ there => .ok ⟨there.cursor, there.tokens⟩

theorem At.openBlock (here : lexer.At cursor) (kind : TokenKind) :
    (lexer.openBlock kind).At cursor := by
  unfold Lexer.openBlock
  split
  · exact ⟨here.cursor, List.cons_ne_nil _ _⟩
  · exact here

theorem At.enterBlock (here : lexer.At cursor) (kind : TokenKind) (problem : Problem) :
    Ends (At cursor) (TokenFault text) (lexer.enterBlock kind problem) := by
  unfold Lexer.enterBlock
  split
  · exact .ok here
  · split
    · exact .ok (here.openBlock kind)
    · exact .error rfl

theorem insert_ne_nil {tokens : TokenList} (some : tokens.reversed ≠ []) (number : Nat)
    (token : Token) : (tokens.insert number token).reversed ≠ [] := by
  have before := List.length_pos_iff.mpr some
  refine List.length_pos_iff.mp ?_
  rw [TokenList.insert, List.length_insertIdx]
  split
  · exact Nat.succ_pos _
  · exact before

theorem At.resolveKey (here : lexer.At cursor) (key : PendingKey) :
    (lexer.resolveKey key).At cursor := by
  unfold Lexer.resolveKey
  dsimp only
  split
  · exact ⟨here.cursor, insert_ne_nil (insert_ne_nil here.tokens _ _) _ _⟩
  · exact ⟨here.cursor, insert_ne_nil here.tokens _ _⟩

theorem At.fetchStreamEnd (here : lexer.At cursor) :
    Ends (fun next => next.Added cursor.rest ∧ next.isDone = true) (TokenFault text)
      lexer.fetchStreamEnd := by
  refine here.leaveBlocks.bind fun next there => .ok ⟨⟨?_, ?_⟩, rfl⟩
  · exact there.cursor ▸ List.suffix_refl _
  · exact Nat.succ_le_succ (List.length_pos_iff.mpr there.tokens)

section Fetch

variable (here : lexer.At cursor)

include here

theorem fetchDirective_added :
    Ends (Added cursor.rest.tail) (TokenFault text) lexer.fetchDirective := by
  refine here.leaveBlocks.bind fun next there => ?_
  have read : Token.Reads text cursor.rest.tail (Token.directive next.cursor) :=
    there.cursor ▸ Token.directive_reads
  exact read.bind fun found within => .ok (there.pushRead within)

theorem fetchSeparator_added (kind : TokenKind) :
    Ends (Added cursor.rest.tail) (TokenFault text) (lexer.fetchSeparator kind) :=
  here.leaveBlocks.bind fun _ there => .ok (there.pushOver 2 kind)

theorem fetchFlowStart_added (kind : TokenKind) :
    Ends (Added cursor.rest.tail) (TokenFault text) (lexer.fetchFlowStart kind) := by
  refine here.notePending.bind fun next there => ?_
  have inner : At cursor { next with flowDepth := next.flowDepth + 1, keyAllowed := true } :=
    ⟨there.cursor, there.tokens⟩
  exact .ok (inner.pushOver 0 kind)

theorem fetchFlowEnd_added (kind : TokenKind) :
    Ends (Added cursor.rest.tail) (TokenFault text) (lexer.fetchFlowEnd kind) := by
  refine here.dropPending.bind fun next there => ?_
  have outer : At cursor { next with flowDepth := next.flowDepth - 1, keyAllowed := false } :=
    ⟨there.cursor, there.tokens⟩
  exact .ok (outer.pushOver 0 kind)

theorem fetchFlowEntry_added :
    Ends (Added cursor.rest.tail) (TokenFault text) lexer.fetchFlowEntry := by
  have still : At cursor { lexer with keyAllowed := true } := ⟨here.cursor, here.tokens⟩
  exact still.dropPending.bind fun _ there => .ok (there.pushOver 0 .flowEntry)

theorem fetchBlockEntry_added :
    Ends (Added cursor.rest.tail) (TokenFault text) lexer.fetchBlockEntry := by
  refine (here.enterBlock _ _).bind fun next there => ?_
  have still : At cursor { next with keyAllowed := true } := ⟨there.cursor, there.tokens⟩
  exact still.dropPending.bind fun _ there => .ok (there.pushOver 0 .blockEntry)

theorem fetchKey_added : Ends (Added cursor.rest.tail) (TokenFault text) lexer.fetchKey := by
  refine (here.enterBlock _ _).bind fun next there => ?_
  have still : At cursor { next with keyAllowed := next.flowDepth == 0 } :=
    ⟨there.cursor, there.tokens⟩
  exact still.dropPending.bind fun _ there => .ok (there.pushOver 0 .key)

theorem fetchValue_added : Ends (Added cursor.rest.tail) (TokenFault text) lexer.fetchValue := by
  unfold Lexer.fetchValue
  split
  · next key _ => exact .ok ((here.resolveKey key).pushOver 0 .value)
  · refine (here.enterBlock _ _).bind fun next there => ?_
    have still : At cursor { next with keyAllowed := next.flowDepth == 0 } :=
      ⟨there.cursor, there.tokens⟩
    exact still.dropPending.bind fun _ there => .ok (there.pushOver 0 .value)

theorem fetchKeyPart_added {read : Cursor → Attempt (Token × Cursor)}
    (reads : Token.Reads text cursor.rest.tail (read cursor)) :
    Ends (Added cursor.rest.tail) (TokenFault text) (lexer.fetchKeyPart read) := by
  refine here.notePending.bind fun next there => ?_
  have still : At cursor { next with keyAllowed := false } := ⟨there.cursor, there.tokens⟩
  have same : Token.Reads text cursor.rest.tail (read next.cursor) := there.cursor ▸ reads
  exact same.bind fun found within => .ok (still.pushRead within)

theorem fetchBlockScalar_added (folded : Bool) :
    Ends (Added cursor.rest.tail) (TokenFault text) (lexer.fetchBlockScalar folded) := by
  have still : At cursor { lexer with keyAllowed := true } := ⟨here.cursor, here.tokens⟩
  refine still.dropPending.bind fun next there => ?_
  have read : Token.Reads text cursor.rest.tail (Token.block folded next.indent next.cursor) :=
    there.cursor ▸ Token.block_reads folded _
  exact read.bind fun found within => .ok (there.pushRead within)

theorem fetchPlain_added (starts : Token.startsPlain (lexer.flowDepth != 0) cursor = true) :
    Ends (Added cursor.rest.tail) (TokenFault text) lexer.fetchPlain := by
  refine here.notePending.known.bind fun next ⟨noted, there⟩ => ?_
  have same : Token.startsPlain (next.flowDepth != 0) next.cursor = true := by
    rw [notePending_flowDepth noted, there.cursor]
    exact starts
  have still (crosses : Bool) : At cursor { next with keyAllowed := crosses } :=
    ⟨there.cursor, there.tokens⟩
  exact .ok ((still _).pushRead (there.cursor ▸ Token.plain_within _ same))

theorem fetchHere_added {c : Char} (next : cursor.peek? = some c) (inside : cursor.rest <:+ text) :
    Ends (Added cursor.rest.tail) (TokenFault text) lexer.fetchHere := by
  unfold Lexer.fetchHere
  extract_lets place inFlow wordEnds
  have same : place = cursor := here.cursor
  rw [same, next]
  refine .ite (fun _ => fetchDirective_added here) fun _ => ?_
  refine .ite (fun _ => fetchSeparator_added here _) fun _ => ?_
  refine .ite (fun _ => fetchSeparator_added here _) fun _ => ?_
  refine .ite (fun _ => fetchFlowStart_added here _) fun _ => ?_
  refine .ite (fun _ => fetchFlowStart_added here _) fun _ => ?_
  refine .ite (fun _ => fetchFlowEnd_added here _) fun _ => ?_
  refine .ite (fun _ => fetchFlowEnd_added here _) fun _ => ?_
  refine .ite (fun _ => fetchFlowEntry_added here) fun _ => ?_
  refine .ite (fun _ => fetchBlockEntry_added here) fun _ => ?_
  refine .ite (fun _ => fetchKey_added here) fun _ => ?_
  refine .ite (fun _ => fetchValue_added here) fun _ => ?_
  refine .ite (fun _ => fetchKeyPart_added here (Token.reference_reads _)) fun _ => ?_
  refine .ite (fun _ => fetchKeyPart_added here (Token.reference_reads _)) fun _ => ?_
  refine .ite (fun _ => fetchKeyPart_added here Token.tag_reads) fun _ => ?_
  refine .ite (fun _ => fetchBlockScalar_added here _) fun _ => ?_
  refine .ite (fun _ => fetchBlockScalar_added here _) fun _ => ?_
  refine .ite (fun _ => fetchKeyPart_added here (Token.quoted_reads _ inside)) fun _ => ?_
  refine .ite (fun _ => fetchKeyPart_added here (Token.quoted_reads _ inside)) fun _ => ?_
  exact .ite (fun starts => fetchPlain_added here starts) fun _ => .error rfl

end Fetch

theorem skipByteOrderMark_within (cursor : Cursor) :
    (skipByteOrderMark cursor).Within cursor.rest := by
  have still : cursor.Within cursor.rest := List.suffix_refl _
  unfold skipByteOrderMark
  split
  · exact still.step
  · exact still

theorem skipToToken_tokens (steps : List Char) (lexer : Lexer) :
    (skipToToken steps lexer).tokens = lexer.tokens := by
  induction steps generalizing lexer with
  | nil => rfl
  | cons _ steps ih =>
    unfold skipToToken
    dsimp only
    split
    · exact ih _
    · rfl

theorem skipToToken_within (steps : List Char) (within : lexer.cursor.Within chars) :
    (skipToToken steps lexer).cursor.Within chars := by
  induction steps generalizing lexer with
  | nil => exact within
  | cons _ steps ih =>
    unfold skipToToken
    dsimp only
    split
    · next found => exact ih (within.skipBlanks.skipComment.lineBreak? found)
    · exact within.skipBlanks.skipComment

structure Moved (chars : List Char) (lexer : Lexer) : Prop where
  added : lexer.Added chars
  onward : lexer.isDone = true ∨ lexer.cursor.rest.length < chars.length

theorem At.fetchHere (here : lexer.At cursor) (inside : cursor.rest <:+ text) :
    Ends (Moved cursor.rest) (TokenFault text) lexer.fetchHere := by
  cases next : cursor.peek? with
  | none =>
    have last : lexer.fetchHere = lexer.fetchStreamEnd := by
      unfold Lexer.fetchHere
      extract_lets place inFlow wordEnds
      have same : place = cursor := here.cursor
      rw [same, next]
    rw [last]
    exact here.fetchStreamEnd.mono fun _ ⟨added, done⟩ => ⟨added, .inl done⟩
  | some c =>
    refine (fetchHere_added here next inside).mono fun later added => ⟨⟨?_, added.tokens⟩, .inr ?_⟩
    · exact added.within.trans (List.tail_suffix _)
    · have ahead := Cursor.rest_of_peek? next
      have shorter := added.within.length_le
      rw [ahead] at shorter ⊢
      exact Nat.lt_succ_of_le shorter

theorem fetch_ends (some : lexer.tokens.reversed ≠ []) (inside : lexer.cursor.rest <:+ text) :
    Ends (Moved lexer.cursor.rest) (TokenFault text) lexer.fetch := by
  -- Nothing that is skipped before a token adds one or goes back.
  let start : Lexer := { lexer with cursor := skipByteOrderMark lexer.cursor }
  let opened := skipToToken start.cursor.rest start
  have within : opened.cursor.Within lexer.cursor.rest :=
    skipToToken_within _ (skipByteOrderMark_within _)
  have tokens : opened.tokens = lexer.tokens := skipToToken_tokens _ _
  refine dropStale_ends.bind fun ready ⟨same, kept⟩ => ?_
  have here : ready.At opened.cursor := ⟨same, by rwa [kept, tokens]⟩
  refine ((here.unwind _).fetchHere (within.trans inside)).bind fun later moved => ?_
  refine dropStale_ends.mono fun last ⟨same, kept⟩ => ⟨⟨?_, kept ▸ moved.added.tokens⟩, ?_⟩
  · exact (same ▸ moved.added.within).trans within
  · rcases moved.onward with done | shorter
    · left
      simpa only [isDone, kept] using done
    · right
      exact same ▸ Nat.lt_of_lt_of_le shorter within.length_le

theorem isDone_tokens (done : lexer.isDone = true) :
    ∃ last before, lexer.tokens.reversed = last :: before ∧ last.kind = .streamEnd := by
  unfold isDone TokenList.last? at done
  split at done
  · next start stop last =>
    obtain ⟨before, tokens⟩ := List.head?_eq_some_iff.mp last
    exact ⟨_, before, tokens, rfl⟩
  · cases done

structure Enough (steps : Nat) (lexer : Lexer) : Prop where
  steps : lexer.isDone = true ∧ 0 < steps ∨ lexer.cursor.rest.length + 2 ≤ steps
  tokens : lexer.isDone = true → 2 ≤ lexer.tokens.reversed.length
  some : lexer.tokens.reversed ≠ []

theorem Moved.enough {steps : Nat} (moved : lexer.Moved chars) (le : chars.length + 1 ≤ steps) :
    lexer.Enough steps where
  steps := by
    rcases moved.onward with done | shorter
    · exact .inl ⟨done, by omega⟩
    · exact .inr (by omega)
  tokens _ := moved.added.tokens
  some := List.length_pos_iff.mp (Nat.lt_of_succ_lt moved.added.tokens)

theorem run_complete (steps : Nat) (enough : lexer.Enough steps)
    (inside : lexer.cursor.rest <:+ text) :
    TokenFault text (lexer.run steps).stop ∨
      ∃ first between last, (lexer.run steps).items = first :: (between ++ [last]) ∧
        last.kind = .streamEnd := by
  -- Each fetch takes a step and a character, and the end takes one step more.
  induction steps generalizing lexer with
  | zero =>
    have := enough.steps
    omega
  | succ steps ih =>
    by_cases done : lexer.isDone = true
    · have two := enough.tokens done
      obtain ⟨last, before, tokens, kind⟩ := isDone_tokens done
      rw [tokens] at two
      right
      simp only [run, done, if_true, TokenList.toList, tokens, List.reverse_cons]
      -- The stream's start is among the tokens, so the last one is not the only one.
      cases start : before.reverse with
      | nil => simp_all
      | cons first between => exact ⟨first, between, last, rfl, kind⟩
    · have ends := fetch_ends enough.some inside
      have left : lexer.cursor.rest.length + 1 ≤ steps := by
        rcases enough.steps with ⟨finished, -⟩ | left
        · exact absurd finished done
        · omega
      rw [run, if_neg done]
      cases fetched : lexer.fetch with
      | error failure =>
        rw [fetched] at ends
        exact .inl ends.failure
      | ok next =>
        rw [fetched] at ends
        have moved := ends.result
        exact ih (moved.enough left) (moved.added.within.trans inside)

end Lexer

-- The tokens of a text are complete, also without the first, or they end in a failure to find the
-- next one.
theorem Stream.ofChars_complete (text : List Char) :
    TokenFault text (ofChars text).stop ∨
      ∃ first between last, (ofChars text).items = first :: (between ++ [last]) ∧
        last.kind = .streamEnd := by
  refine Lexer.run_complete _ ⟨.inr (Nat.le_refl _), ?_, List.cons_ne_nil _ _⟩ (List.suffix_refl _)
  intro done
  cases done

end FormCompiler.Yaml
