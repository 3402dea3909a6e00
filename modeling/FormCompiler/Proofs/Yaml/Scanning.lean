import FormCompiler.Proofs.Yaml.Endings
import FormCompiler.Yaml.Token.Block
import FormCompiler.Yaml.Token.Plain
import FormCompiler.Yaml.Token.Quoted
import Mathlib.Data.List.Infix

set_option autoImplicit false

namespace FormCompiler.Yaml

def Cursor.Within (cursor : Cursor) (chars : List Char) : Prop := cursor.rest <:+ chars

namespace Cursor

variable {cursor after : Cursor} {chars : List Char}

@[simp] theorem step_rest (cursor : Cursor) : cursor.step.rest = cursor.rest.tail := by
  unfold step
  split
  · next nothing => simp [nothing]
  · next c rest more => simp [more]

@[simp] theorem skip_rest (count : Nat) (cursor : Cursor) :
    (cursor.skip count).rest = cursor.rest.drop count := by
  induction count generalizing cursor with
  | zero => rfl
  | succ count ih => rw [skip, ih, step_rest, List.drop_tail]

theorem rest_of_peek? {c : Char} (next : cursor.peek? = some c) :
    cursor.rest = c :: cursor.step.rest := by
  rw [step_rest]
  unfold peek? at next
  cases rest : cursor.rest with
  | nil => simp [rest] at next
  | cons first rest => simpa [rest] using next

theorem within_tail (cursor : Cursor) : cursor.step.Within cursor.rest.tail := by
  simp [Within]

theorem Within.trans {more : List Char} (within : cursor.Within chars) (le : chars <:+ more) :
    cursor.Within more :=
  List.IsSuffix.trans within le

theorem Within.skip (within : cursor.Within chars) (count : Nat) :
    (cursor.skip count).Within chars := by
  rw [Within, skip_rest]
  exact (List.drop_suffix _ _).trans within

theorem Within.step (within : cursor.Within chars) : cursor.step.Within chars :=
  within.skip 1

theorem Within.span (within : cursor.Within chars) (test : Char → Bool) :
    (cursor.span test).2.Within chars :=
  within.skip _

theorem Within.skipWhile (within : cursor.Within chars) (test : Char → Bool) :
    (cursor.skipWhile test).Within chars :=
  within.skip _

theorem Within.skipBlanks (within : cursor.Within chars) : cursor.skipBlanks.Within chars :=
  within.skip _

theorem Within.skipComment (within : cursor.Within chars) : cursor.skipComment.Within chars := by
  unfold Cursor.skipComment
  split
  · exact within.skipWhile _
  · exact within

theorem within_of_lineBreak? {c : Char} (found : cursor.lineBreak? = some (c, after)) :
    after.Within cursor.rest.tail := by
  unfold lineBreak? at found
  split at found
  · cases found
    exact cursor.within_tail.step
  · split at found
    · cases found
      exact cursor.within_tail
    · split at found
      · cases found
        exact cursor.within_tail
      · cases found
  · cases found

theorem Within.lineBreak? {c : Char} (within : cursor.Within chars)
    (found : cursor.lineBreak? = some (c, after)) : after.Within chars :=
  (within_of_lineBreak? found).trans ((List.tail_suffix _).trans within)

theorem Within.skipLineBreak (within : cursor.Within chars) : cursor.skipLineBreak.Within chars := by
  unfold Cursor.skipLineBreak
  split
  · next found => exact within.lineBreak? found
  · exact within

end Cursor

def Escapes (text : List Char) (code : Nat) : Prop :=
  ∃ letter digits, Token.escapeDigits? letter = some digits.length ∧
    '\\' :: letter :: digits <:+: text ∧ Text.hexValue digits = code

def IsHalf (code : Nat) : Prop := 0xD800 ≤ code ∧ code ≤ 0xDFFF

def TokenFault (text : List Char) : Failure → Prop
  | .malformed layer _ _ _ _ => layer = .tokens
  | .content (.noSuchCharacter code) => Escapes text code ∧ 0x10FFFF < code
  | .content (.unpaired code) => Escapes text code ∧ IsHalf code
  | _ => False

namespace Token

variable {α : Type} {text chars : List Char} {cursor : Cursor} {activity whole : Activity}
  {start : Mark}

abbrev Reads (text chars : List Char) (attempt : Attempt (α × Cursor)) : Prop :=
  Ends (fun ending => ending.2.Within chars) (TokenFault text) attempt

theorem refuse_reads (what : Expectation) :
    Reads text chars (refuse activity start what cursor : Attempt (α × Cursor)) :=
  .error rfl

theorem word_reads (within : cursor.Within chars) :
    Reads text chars (word activity start cursor) := by
  unfold word
  dsimp only
  split
  · exact refuse_reads _
  · exact .ok (within.span _)

theorem reference_reads (kind : String → TokenKind) :
    Reads text cursor.rest.tail (reference activity kind cursor) := by
  refine (word_reads cursor.within_tail).bind fun ⟨name, next⟩ within => ?_
  dsimp only
  split
  · exact .ok within
  · exact refuse_reads _

theorem escapedBytes_reads (steps : List Char) (within : cursor.Within chars) :
    Reads text chars (escapedBytes activity start steps cursor) := by
  induction steps generalizing cursor with
  | nil => exact .ok within
  | cons _ steps ih =>
    unfold escapedBytes
    split
    · dsimp only
      split
      · exact .error rfl
      · split
        · exact .error rfl
        · exact (ih (within.step.skip 2)).bind fun ⟨bytes, next⟩ within => .ok within
    · exact .ok within

theorem uriChars_reads (started : Bool) (steps : List Char) (within : cursor.Within chars) :
    Reads text chars (uriChars activity whole start started steps cursor) := by
  induction steps generalizing cursor started with
  | nil =>
    unfold uriChars
    split
    · exact .ok within
    · exact refuse_reads _
  | cons _ steps ih =>
    unfold uriChars
    dsimp only
    split
    · refine (escapedBytes_reads _ (within.span _)).bind fun ⟨bytes, next⟩ within => ?_
      dsimp only
      split
      · exact .error rfl
      · exact (ih true within).bind fun ⟨rest, last⟩ within => .ok within
    · split
      · exact refuse_reads _
      · exact .ok (within.span _)

theorem uri_reads (within : cursor.Within chars) :
    Reads text chars (uri activity whole start cursor) :=
  (uriChars_reads false _ within).bind fun _ within => .ok within

theorem handle_reads : Reads text cursor.rest.tail (handle activity start cursor) := by
  unfold handle
  split
  · exact refuse_reads _
  · dsimp only
    split
    · exact .ok cursor.within_tail
    · split
      · exact .ok (cursor.within_tail.span _).step
      · exact refuse_reads _

theorem tag_reads : Reads text cursor.rest.tail (tag cursor) := by
  have finish (handle : Option String) (suffix : String) {next : Cursor}
      (within : next.Within cursor.rest.tail) :
      Reads text cursor.rest.tail
        (if endsField next.peek? then
          .ok ((⟨.tag handle suffix, cursor.mark, next.mark⟩ : Token), next)
        else refuse .tag cursor.mark .blank next) := by
    split
    · exact .ok within
    · exact refuse_reads _
  unfold tag
  dsimp only
  split
  · refine (uri_reads cursor.within_tail.step).bind fun ⟨suffix, next⟩ within => ?_
    dsimp only
    split
    · exact finish none suffix within.step
    · exact refuse_reads _
  · split
    · exact finish none "!" cursor.within_tail
    · split
      · refine handle_reads.bind fun ⟨handle, next⟩ within => ?_
        exact (uri_reads within).bind fun ⟨suffix, last⟩ within => finish _ _ within
      · exact (uri_reads cursor.within_tail).bind fun ⟨suffix, last⟩ within => finish _ _ within

theorem versionNumber_reads (within : cursor.Within chars) :
    Reads text chars (versionNumber start cursor) := by
  unfold versionNumber
  dsimp only
  split
  · exact refuse_reads _
  · exact .ok (within.span _)

theorem version_reads (within : cursor.Within chars) :
    Reads text chars (version start cursor) := by
  refine (versionNumber_reads within.skipBlanks).bind fun ⟨major, next⟩ within => ?_
  dsimp only
  split
  · exact refuse_reads _
  · refine (versionNumber_reads within.step).bind fun ⟨minor, last⟩ within => ?_
    dsimp only
    split
    · exact .ok within
    · exact refuse_reads _

theorem tagDirective_reads (within : cursor.Within chars) :
    Reads text chars (tagDirective start cursor) := by
  have named : Reads text chars (handle .directive start cursor.skipBlanks) :=
    handle_reads.mono fun ending inside =>
      inside.trans ((List.tail_suffix _).trans within.skipBlanks)
  refine named.bind fun ⟨handle, next⟩ within => ?_
  dsimp only
  split
  · exact refuse_reads _
  · refine (uri_reads within.skipBlanks).bind fun ⟨lead, last⟩ within => ?_
    dsimp only
    split
    · exact .ok within
    · exact refuse_reads _

theorem lineRest_within (within : cursor.Within chars) :
    Ends (fun next => next.Within chars) (TokenFault text) (lineRest activity start cursor) := by
  unfold lineRest
  dsimp only
  split
  · exact .ok within.skipBlanks.skipComment.skipLineBreak
  · exact .error rfl

theorem directiveRest_reads {read : Attempt (Directive × Cursor)}
    (reads : Reads text cursor.rest.tail read) :
    Reads text cursor.rest.tail (do
      let (content, last) ← read
      let stop := last.mark
      let last := match content with
        | .unknown _ => last.skipWhile fun c => !isBreak c
        | _ => last
      let last ← lineRest .directive cursor.mark last
      return ((⟨.directive content, cursor.mark, stop⟩ : Token), last)) := by
  refine reads.bind fun found within => ?_
  obtain ⟨content, last⟩ := found
  cases content with
  | unknown name =>
    refine (lineRest_within (within.skipWhile _)).bind fun final within => ?_
    exact .ok within
  | version | tag =>
    refine (lineRest_within within).bind fun final within => ?_
    exact .ok within

theorem directive_reads : Reads text cursor.rest.tail (directive cursor) := by
  refine (word_reads cursor.within_tail).bind fun found within => ?_
  obtain ⟨name, next⟩ := found
  dsimp only
  split
  · exact refuse_reads _
  · split
    · exact directiveRest_reads (version_reads within)
    · split
      · exact directiveRest_reads (tagDirective_reads within)
      · exact directiveRest_reads (.ok within)

section Block

theorem blockIndent_reads (within : cursor.Within chars) :
    Reads text chars (blockIndent start cursor) := by
  unfold blockIndent
  split
  · exact .error rfl
  · exact .ok within.step
  · exact .ok within

theorem blockChomping_within (within : cursor.Within chars) :
    (blockChomping cursor).2.Within chars := by
  unfold blockChomping
  split
  · exact within.step
  · exact within

theorem blockHeader_reads (within : cursor.Within chars) :
    Reads text chars (blockHeader start cursor) := by
  have finish (header : BlockHeader) {next : Cursor} (within : next.Within chars) :
      Reads text chars (if endsField next.peek? then .ok (header, next)
        else refuse .blockScalar start .blockIndicator next) := by
    split
    · exact .ok within
    · exact refuse_reads _
  unfold blockHeader
  have chomped := blockChomping_within within
  generalize blockChomping cursor = chomping at chomped ⊢
  obtain ⟨before, next⟩ := chomping
  refine (blockIndent_reads chomped).bind fun ⟨indent, next⟩ within => ?_
  cases before with
  | some chomping => exact finish _ within
  | none =>
    dsimp only
    split
    · have chomped := blockChomping_within within
      exact finish _ chomped
    · exact finish _ within

theorem blockLead_within (steps : List Char) {lead : BlockLead} (within : lead.cursor.Within chars) :
    (blockLead steps lead).cursor.Within chars := by
  induction steps generalizing lead with
  | nil => exact within
  | cons _ steps ih =>
    unfold blockLead
    split
    · exact ih within.step
    · split
      · next found => exact ih (within.lineBreak? found)
      · exact within

theorem skipIndent_within (indent : Nat) (within : cursor.Within chars) :
    (skipIndent indent cursor).Within chars :=
  within.skip _

theorem blockBreaks_within (indent : Nat) (steps : List Char) {lead : BlockLead}
    (within : lead.cursor.Within chars) : (blockBreaks indent steps lead).cursor.Within chars := by
  induction steps generalizing lead with
  | nil => exact within
  | cons _ steps ih =>
    unfold blockBreaks
    split
    · next found => exact ih (skipIndent_within indent (within.lineBreak? found))
    · exact within

theorem breaksFrom_within (indent : Nat) (within : cursor.Within chars) :
    (breaksFrom indent cursor).cursor.Within chars :=
  blockBreaks_within indent _ (skipIndent_within indent within)

theorem blockLines_within (folded : Bool) (indent : Nat) (steps : List Char) {lead : BlockLead}
    (within : lead.cursor.Within chars) :
    (blockLines folded indent steps lead).tail.cursor.Within chars := by
  induction steps generalizing lead with
  | nil => exact within
  | cons _ steps ih =>
    have after := within.span fun c => !isBreak c
    unfold blockLines
    dsimp only
    generalize (lead.cursor.span fun c => !isBreak c) = line at after ⊢
    obtain ⟨line, next⟩ := line
    cases found : next.lineBreak? with
    | none =>
      have tail := breaksFrom_within indent after
      simp only
      split
      · exact ih tail
      · exact tail
    | some ending =>
      obtain ⟨c, last⟩ := ending
      have tail := breaksFrom_within indent (after.lineBreak? found)
      simp only
      split
      · exact ih tail
      · exact tail

theorem block_reads (folded : Bool) (outerIndent : Int) :
    Reads text cursor.rest.tail (block folded outerIndent cursor) := by
  refine (blockHeader_reads cursor.within_tail).bind fun ⟨header, next⟩ within => ?_
  refine (lineRest_within within).bind fun next within => ?_
  have lines (indent : Nat) (lead : BlockLead) (within : lead.cursor.Within cursor.rest.tail) :
      Cursor.Within (if lead.cursor.column = indent && lead.cursor.peek?.isSome then
        blockLines folded indent lead.cursor.rest lead
      else ⟨[], [], lead⟩ : BlockText).tail.cursor cursor.rest.tail := by
    split
    · exact blockLines_within _ _ _ within
    · exact within
  cases header.indent with
  | none => exact .ok (lines _ _ (blockLead_within _ within))
  | some indent => exact .ok (lines _ _ (breaksFrom_within _ within))

end Block

section Plain

theorem plainBreaks_within (steps : List Char) (within : cursor.Within chars) :
    (plainBreaks steps cursor).2.Within chars := by
  induction steps generalizing cursor with
  | nil => exact within
  | cons _ steps ih =>
    unfold plainBreaks
    dsimp only
    split
    · exact within.skipBlanks
    · next found =>
      have after := within.skipBlanks.lineBreak? found
      split
      · exact after
      · exact ih after

theorem plainSpace_within (within : cursor.Within chars) :
    (plainSpace cursor).cursor.Within chars := by
  have after := within.span (· == ' ')
  unfold plainSpace
  generalize cursor.span (· == ' ') = blanks at after ⊢
  obtain ⟨blanks, next⟩ := blanks
  cases found : next.lineBreak? with
  | none => simpa [found] using after
  | some ending =>
    obtain ⟨c, last⟩ := ending
    have after := after.lineBreak? found
    simp only [found]
    split
    · exact after
    · have breaks := plainBreaks_within last.rest after
      split
      · exact breaks
      · exact breaks

theorem plainRest_within (inFlow : Bool) (indent : Int) (steps space : List Char)
    {read : PlainText} (within : read.cursor.Within chars) :
    (plainRest inFlow indent steps space read).cursor.Within chars := by
  induction steps generalizing space read with
  | nil => exact within
  | cons _ steps ih =>
    unfold plainRest
    have after := plainSpace_within (within.skip (plainRun inFlow read.cursor.rest).length)
    split
    · exact within
    · dsimp only
      split
      · exact within
      · split
        · exact after
        · exact ih _ after

theorem plainRun_ne_nil {inFlow : Bool} (starts : startsPlain inFlow cursor = true) :
    plainRun inFlow cursor.rest ≠ [] := by
  unfold startsPlain at starts
  split at starts
  · cases starts
  · next c rest ahead =>
    rw [ahead, plainRun]
    simp only [Bool.or_eq_true, Bool.not_eq_true', Bool.and_eq_true, Bool.or_eq_false_iff,
      beq_iff_eq] at starts
    rcases starts with ⟨⟨⟨noBlank, noBreak⟩, noMark⟩, noIndicator⟩ | ⟨goesOn, mark⟩
    · have noColon : c ≠ ':' := by
        rintro rfl
        revert noIndicator
        decide
      have noQuestion : c ≠ '?' := by
        rintro rfl
        revert noIndicator
        decide
      simp [noBlank, noBreak, noMark, noColon, noQuestion]
    · rcases mark with rfl | ⟨outside, rfl | rfl⟩
      · simp [isSpaceOrTab, isBreak, isFlowMark]
      · simp [isSpaceOrTab, isBreak, outside]
      · simp [isSpaceOrTab, isBreak, outside, goesOn]

theorem not_comment_of_startsPlain {inFlow : Bool} (starts : startsPlain inFlow cursor = true) :
    cursor.nextIs '#' = false := by
  unfold startsPlain at starts
  split at starts
  · cases starts
  · next c rest ahead =>
    have other : c ≠ '#' := by
      rintro rfl
      simp at starts
    simpa [Cursor.nextIs, Cursor.peek?, ahead] using other

theorem plain_within {inFlow : Bool} (indent : Int) (starts : startsPlain inFlow cursor = true) :
    (plain inFlow indent cursor).2.1.Within cursor.rest.tail := by
  have run := plainRun_ne_nil starts
  have noComment := not_comment_of_startsPlain starts
  have taken : (cursor.skip (plainRun inFlow cursor.rest).length).Within cursor.rest.tail := by
    rw [Cursor.Within, Cursor.skip_rest, ← List.drop_one]
    exact List.drop_suffix_drop_left _ (List.length_pos_iff.mpr run)
  have after := plainSpace_within taken
  change (plainRest inFlow indent cursor.rest [] ⟨[], cursor.mark, cursor, false⟩).cursor.Within _
  cases ahead : cursor.rest with
  | nil => simp [ahead, plainRun] at run
  | cons c steps =>
    rw [ahead] at after run
    simp only [plainRest, noComment, ahead, List.isEmpty_iff, run]
    rw [if_neg (by simp), if_neg (by simp)]
    split
    · exact after
    · exact plainRest_within _ _ _ _ after

end Plain

section Quoted

theorem numberedChar_reads {count : Nat} (within : cursor.Within chars) {letter : Char}
    (escape : escapeDigits? letter = some count) (inside : '\\' :: letter :: cursor.rest <:+: text) :
    Reads text chars (numberedChar start count cursor) := by
  unfold numberedChar
  dsimp only
  split
  · exact .error rfl
  · next unfit =>
    -- With fewer characters ahead one of the digits would have been missing.
    have long : (cursor.rest.take count).length = count := by
      refine List.length_take_of_le ?_
      by_contra short
      have missing := List.find?_eq_none.mp unfit (cursor.ahead? cursor.rest.length)
        (List.mem_map_of_mem (List.mem_range.mpr (Nat.lt_of_not_le short)))
      simp [Cursor.ahead?] at missing
    have escapes : Escapes text (Text.hexValue (cursor.rest.take count)) := by
      refine ⟨letter, cursor.rest.take count, long.symm ▸ escape, ?_, rfl⟩
      have start : '\\' :: letter :: cursor.rest.take count <+: '\\' :: letter :: cursor.rest := by
        simp [List.take_prefix]
      exact start.isInfix.trans inside
    split
    · exact .ok (within.skip _)
    · next invalid =>
      split
      · next below =>
        refine .error ⟨escapes, ?_⟩
        simp only [Nat.isValidChar, not_or, not_and] at invalid
        constructor <;> omega
      · next beyond => exact .error ⟨escapes, Nat.lt_of_not_le beyond⟩

theorem foldedBreaks_reads (steps : List Char) (within : cursor.Within chars) :
    Reads text chars (foldedBreaks start steps cursor) := by
  induction steps generalizing cursor with
  | nil => exact .ok within
  | cons _ steps ih =>
    unfold foldedBreaks
    split
    · exact .error rfl
    · dsimp only
      split
      · exact .ok (within.skipWhile _)
      · next found =>
        refine (ih ((within.skipWhile _).lineBreak? found)).bind fun ⟨rest, next⟩ within => ?_
        exact .ok within

theorem quotedMore_reads {plain meant : List Char} {run : Attempt (List Char × Cursor)}
    (reads : Reads text chars run) :
    Reads text chars (do
      let (rest, last) ← run
      return (plain ++ meant ++ rest, last)) := by
  apply reads.bind
  intro found within
  exact .ok within

theorem quotedRun_reads (double : Bool) (steps : List Char) (within : cursor.Within chars)
    (inside : chars <:+ text) : Reads text chars (quotedRun double start steps cursor) := by
  induction steps generalizing cursor with
  | nil => exact .ok within
  | cons _ steps ih =>
    have after := within.span fun c =>
      c != '\'' && c != '"' && c != '\\' && !isSpaceOrTab c && !isBreak c
    unfold quotedRun
    generalize (cursor.span fun c =>
      c != '\'' && c != '"' && c != '\\' && !isSpaceOrTab c && !isBreak c) = plain at after ⊢
    obtain ⟨plain, next⟩ := plain
    dsimp only
    split
    · split
      · exact quotedMore_reads (ih after.step)
      · split
        · exact quotedMore_reads (ih (after.skip 2))
        · exact .ok after
    · split
      · exact .ok after
      · exact quotedMore_reads (ih after.step)
    · next slash =>
      split
      · exact quotedMore_reads (ih after.step)
      · split
        · exact .error rfl
        · next c letter =>
          -- The escape stands in the text as it is read, its digits right after the letter.
          have whole : '\\' :: c :: next.step.step.rest = next.rest := by
            rw [Cursor.rest_of_peek? slash, Cursor.rest_of_peek? letter]
          split
          · exact quotedMore_reads (ih after.step.step)
          · next count _ digits =>
            have inside : '\\' :: c :: next.step.step.rest <:+: text :=
              whole ▸ (after.trans inside).isInfix
            exact (numberedChar_reads after.step.step digits inside).bind
              fun _ within => quotedMore_reads (ih within)
          · split
            · exact (foldedBreaks_reads _ after.step.skipLineBreak).bind
                fun _ within => quotedMore_reads (ih within)
            · exact .error rfl
    · exact .ok after

theorem quotedSpace_reads (within : cursor.Within chars) :
    Reads text chars (quotedSpace start cursor) := by
  have after := within.span isSpaceOrTab
  unfold quotedSpace
  generalize cursor.span isSpaceOrTab = blanks at after ⊢
  obtain ⟨blanks, next⟩ := blanks
  dsimp only
  split
  · exact .error rfl
  · exact .ok after
  · next found =>
    refine (foldedBreaks_reads _ (after.lineBreak? found)).bind fun ⟨breaks, next⟩ within => ?_
    exact .ok within

theorem quotedRest_reads (double : Bool) (steps : List Char) (within : cursor.Within chars)
    (inside : chars <:+ text) : Reads text chars (quotedRest double start steps cursor) := by
  induction steps generalizing cursor with
  | nil => exact .error rfl
  | cons _ steps ih =>
    unfold quotedRest
    by_cases closes : cursor.nextIs (if double then '"' else '\'') = true
    · rw [if_pos closes]
      exact .ok within.step
    · rw [if_neg closes]
      refine (quotedSpace_reads within).bind fun ⟨space, next⟩ within => ?_
      refine (quotedRun_reads double _ within inside).bind fun ⟨run, next⟩ within => ?_
      refine (ih within).bind fun ⟨rest, last⟩ within => ?_
      exact .ok within

theorem quoted_reads (double : Bool) (inside : cursor.rest <:+ text) :
    Reads text cursor.rest.tail (quoted double cursor) := by
  have inside := (List.tail_suffix _).trans inside
  refine (quotedRun_reads double _ cursor.within_tail inside).bind fun ⟨run, next⟩ within => ?_
  refine (quotedRest_reads double _ within inside).bind fun ⟨rest, last⟩ within => ?_
  exact .ok within

end Quoted

end Token

end FormCompiler.Yaml
