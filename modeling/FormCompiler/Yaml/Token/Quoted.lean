import FormCompiler.Yaml.Token.Word

set_option autoImplicit false

namespace FormCompiler.Yaml.Token

def escapeLetter? (c : Char) : Option Char :=
  match c with
  | '0' => some (Char.ofNat 0)
  | 'a' => some (Char.ofNat 7)
  | 'b' => some (Char.ofNat 8)
  | 't' | '\t' => some '\t'
  | 'n' => some '\n'
  | 'v' => some (Char.ofNat 11)
  | 'f' => some (Char.ofNat 12)
  | 'r' => some '\r'
  | 'e' => some (Char.ofNat 27)
  | ' ' => some ' '
  | '"' => some '"'
  | '\\' => some '\\'
  | '/' => some '/'
  | 'N' => some (Char.ofNat 0x85)
  | '_' => some (Char.ofNat 0xA0)
  | 'L' => some (Char.ofNat 0x2028)
  | 'P' => some (Char.ofNat 0x2029)
  | _ => none

def escapeDigits? (c : Char) : Option Nat :=
  match c with
  | 'x' => some 2
  | 'u' => some 4
  | 'U' => some 8
  | _ => none

def numberedChar (start : Mark) (count : Nat) (cursor : Cursor) : Attempt (Char × Cursor) :=
  let unfit (next : Option Char) : Bool := !(next.any Text.isHexDigit)
  match ((List.range count).map cursor.ahead?).find? unfit with
  | some found =>
    .error (failure .doubleQuoted start (.expected (.escapeDigits count) found) cursor.mark)
  | none =>
    let code := Text.hexValue (cursor.rest.take count)
    if code.isValidChar then .ok (Char.ofNat code, cursor.skip count)
    else if code ≤ 0x10FFFF then .error (.content (.unpaired code))
    else .error (.content (.noSuchCharacter code))

-- The ends of empty lines, up to the first line that holds something. The characters ahead bound
-- the steps.
def foldedBreaks (start : Mark) : List Char → Cursor → Attempt (List Char × Cursor)
  | [], cursor => .ok ([], cursor)
  | _ :: steps, cursor =>
    if cursor.atSeparator then .error (failure .quoted start .separatorInsideQuotes cursor.mark)
    else
      let cursor := cursor.skipWhile isSpaceOrTab
      match cursor.lineBreak? with
      | none => .ok ([], cursor)
      | some (c, cursor) => do
        let (rest, cursor) ← foldedBreaks start steps cursor
        return (c :: rest, cursor)

def quotedRun (double : Bool) (start : Mark) :
    List Char → Cursor → Attempt (List Char × Cursor)
  | [], cursor => .ok ([], cursor)
  | _ :: steps, cursor => do
    let (plain, cursor) := cursor.span fun c =>
      c != '\'' && c != '"' && c != '\\' && !isSpaceOrTab c && !isBreak c
    let more (chars : List Char) (cursor : Cursor) : Attempt (List Char × Cursor) := do
      let (rest, cursor) ← quotedRun double start steps cursor
      return (plain ++ chars ++ rest, cursor)
    match cursor.peek? with
    | some '\'' =>
      if double then more ['\''] cursor.step
      else if cursor.ahead? 1 == some '\'' then more ['\''] (cursor.skip 2)
      else return (plain, cursor)
    | some '"' => if double then return (plain, cursor) else more ['"'] cursor.step
    | some '\\' =>
      let inner := cursor.step
      if !double then more ['\\'] inner
      else
        match inner.peek? with
        | none => .error (failure .doubleQuoted start (.unknownEscape none) inner.mark)
        | some c =>
          match escapeLetter? c, escapeDigits? c with
          | some meant, _ => more [meant] inner.step
          | none, some count =>
            let (meant, next) ← numberedChar start count inner.step
            more [meant] next
          | none, none =>
            if isBreak c then
              let lines := inner.skipLineBreak
              let (breaks, next) ← foldedBreaks start lines.rest lines
              more breaks next
            else .error (failure .doubleQuoted start (.unknownEscape (some c)) inner.mark)
    | _ => return (plain, cursor)

def quotedSpace (start : Mark) (cursor : Cursor) : Attempt (List Char × Cursor) := do
  let (blanks, cursor) := cursor.span isSpaceOrTab
  match cursor.peek?, cursor.lineBreak? with
  | none, _ => .error (failure .quoted start .endInsideQuotes cursor.mark)
  | some _, none => return (blanks, cursor)
  | some _, some (c, next) =>
    let (breaks, cursor) ← foldedBreaks start next.rest next
    let folded := if c != '\n' then [c] else if breaks.isEmpty then [' '] else []
    return (folded ++ breaks, cursor)

-- Further runs, each with the space before it, up to the closing quote. The characters ahead bound
-- the steps.
def quotedRest (double : Bool) (start : Mark) :
    List Char → Cursor → Attempt (List Char × Cursor)
  | [], cursor => .error (failure .quoted start .endInsideQuotes cursor.mark)
  | _ :: steps, cursor =>
    if cursor.nextIs (if double then '"' else '\'') then .ok ([], cursor.step)
    else do
      let (space, cursor) ← quotedSpace start cursor
      let (run, cursor) ← quotedRun double start cursor.rest cursor
      let (rest, cursor) ← quotedRest double start steps cursor
      return (space ++ run ++ rest, cursor)

def quoted (double : Bool) (cursor : Cursor) : Attempt (Token × Cursor) := do
  let start := cursor.mark
  let inner := cursor.step
  let (run, cursor) ← quotedRun double start inner.rest inner
  let (rest, cursor) ← quotedRest double start cursor.rest cursor
  return (⟨.scalar (String.ofList (run ++ rest)) false, start, cursor.mark⟩, cursor)

end FormCompiler.Yaml.Token
