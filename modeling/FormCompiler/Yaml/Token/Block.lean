import FormCompiler.Yaml.Token.Word

set_option autoImplicit false

namespace FormCompiler.Yaml.Token

inductive Chomping where
  | keep
  | clip
  | strip
deriving DecidableEq

structure BlockHeader where
  chomping : Chomping
  indent : Option Nat

def chompingMark? (next : Option Char) : Option Chomping :=
  match next with
  | some '+' => some .keep
  | some '-' => some .strip
  | _ => none

def indentMark? (next : Option Char) : Option Nat :=
  match next with
  | some c => if '0' ≤ c ∧ c ≤ '9' then some (c.toNat - '0'.toNat) else none
  | none => none

def blockIndent (start : Mark) (cursor : Cursor) : Attempt (Option Nat × Cursor) :=
  match indentMark? cursor.peek? with
  | some 0 => .error (failure .blockScalar start .zeroIndentation cursor.mark)
  | some n => .ok (some n, cursor.step)
  | none => .ok (none, cursor)

def blockChomping (cursor : Cursor) : Option Chomping × Cursor :=
  match chompingMark? cursor.peek? with
  | some chomping => (some chomping, cursor.step)
  | none => (none, cursor)

def blockHeader (start : Mark) (cursor : Cursor) : Attempt (BlockHeader × Cursor) := do
  let (before, cursor) := blockChomping cursor
  let (indent, cursor) ← blockIndent start cursor
  let (chomping, cursor) :=
    match before with
    | some chomping => (chomping, cursor)
    | none =>
      if indent.isSome then
        let (after, cursor) := blockChomping cursor
        (after.getD .clip, cursor)
      else (.clip, cursor)
  if endsField cursor.peek? then return (⟨chomping, indent⟩, cursor)
  else refuse .blockScalar start .blockIndicator cursor

structure BlockLead where
  breaks : List Char
  widest : Nat
  stop : Mark
  cursor : Cursor

def blockLead : List Char → BlockLead → BlockLead
  | [], lead => lead
  | _ :: steps, lead =>
    if lead.cursor.nextIs ' ' then
      let cursor := lead.cursor.step
      blockLead steps { lead with cursor, widest := max lead.widest cursor.column }
    else
      match lead.cursor.lineBreak? with
      | some (c, cursor) =>
        blockLead steps { lead with cursor, breaks := lead.breaks ++ [c], stop := cursor.mark }
      | none => lead

def skipIndent (indent : Nat) (cursor : Cursor) : Cursor :=
  cursor.skip ((cursor.rest.take (indent - cursor.column)).takeWhile (· == ' ')).length

def blockBreaks (indent : Nat) : List Char → BlockLead → BlockLead
  | [], lead => lead
  | _ :: steps, lead =>
    match lead.cursor.lineBreak? with
    | some (c, cursor) =>
      blockBreaks indent steps
        { lead with
          cursor := skipIndent indent cursor
          breaks := lead.breaks ++ [c]
          stop := cursor.mark }
    | none => lead

def breaksFrom (indent : Nat) (cursor : Cursor) : BlockLead :=
  let inner := skipIndent indent cursor
  blockBreaks indent inner.rest ⟨[], 0, cursor.mark, inner⟩

structure BlockText where
  chars : List Char
  lastBreak : List Char
  tail : BlockLead

-- The lines of the given indentation, with the empty lines before the first of them. The characters
-- ahead bound the steps.
def blockLines (folded : Bool) (indent : Nat) : List Char → BlockLead → BlockText
  | [], lead => ⟨[], [], lead⟩
  | _ :: steps, lead =>
    let cursor := lead.cursor
    let (line, after) := cursor.span fun c => !isBreak c
    let startsBlank := cursor.peek?.any isSpaceOrTab
    let (lineEnd, next) :=
      match after.lineBreak? with
      | some (c, next) => ([c], next)
      | none => ([], after)
    let tail := breaksFrom indent next
    if tail.cursor.column = indent && tail.cursor.peek?.isSome then
      let joins := folded && lineEnd == ['\n'] && !startsBlank
        && !(tail.cursor.peek?.any isSpaceOrTab)
      let between :=
        if joins then if tail.breaks.isEmpty then [' '] else [] else lineEnd
      let rest := blockLines folded indent steps tail
      { rest with chars := lead.breaks ++ line ++ between ++ rest.chars }
    else ⟨lead.breaks ++ line, lineEnd, tail⟩

def block (folded : Bool) (outerIndent : Int) (cursor : Cursor) : Attempt (Token × Cursor) := do
  let start := cursor.mark
  let (header, cursor) ← blockHeader start cursor.step
  let cursor ← lineRest .blockScalar start cursor
  let least := max 1 (outerIndent + 1).toNat
  let (indent, lead) :=
    match header.indent with
    | some n =>
      let indent := least + n - 1
      (indent, breaksFrom indent cursor)
    | none =>
      let lead := blockLead cursor.rest ⟨[], 0, cursor.mark, cursor⟩
      (max least lead.widest, lead)
  let text : BlockText :=
    if lead.cursor.column = indent && lead.cursor.peek?.isSome then
      blockLines folded indent lead.cursor.rest lead
    else ⟨[], [], lead⟩
  let ending :=
    match header.chomping with
    | .strip => []
    | .clip => text.lastBreak
    | .keep => text.lastBreak ++ text.tail.breaks
  return (⟨.scalar (String.ofList (text.chars ++ ending)) false, start, text.tail.stop⟩,
    text.tail.cursor)

end FormCompiler.Yaml.Token
