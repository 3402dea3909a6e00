import FormCompiler.Yaml.Token.Word

set_option autoImplicit false

namespace FormCompiler.Yaml.Token

def isFlowMark (c : Char) : Bool :=
  c == ',' || c == '[' || c == ']' || c == '\x7b' || c == '\x7d'

def startsPlain (inFlow : Bool) (cursor : Cursor) : Bool :=
  match cursor.rest with
  | [] => false
  | c :: rest =>
    let reserved := isSpaceOrTab c || isBreak c || isFlowMark c
      || "-?:#&*!|>'\"%@`".toList.contains c
    !reserved || (!endsWord rest.head? && (c == '-' || (!inFlow && (c == '?' || c == ':'))))

def plainRun (inFlow : Bool) : List Char → List Char
  | [] => []
  | c :: rest =>
    let endsHere := isSpaceOrTab c || isBreak c
      || (c == ':' && (endsWord rest.head? || (inFlow && rest.head?.any isFlowMark)))
      || (inFlow && (isFlowMark c || c == '?'))
    if endsHere then [] else c :: plainRun inFlow rest

-- Blank space after a run: what it folds to, where it ends, and whether lines end in it. A
-- document's start or end mark at the start of a line ends the scalar.
structure PlainSpace where
  folded : List Char
  cursor : Cursor
  crossesLine : Bool

-- The ends of further lines, none if a document's mark follows one of them. The characters ahead
-- bound the steps.
def plainBreaks : List Char → Cursor → Option (List Char) × Cursor
  | [], cursor => (some [], cursor)
  | _ :: steps, cursor =>
    let cursor := cursor.skipBlanks
    match cursor.lineBreak? with
    | none => (some [], cursor)
    | some (c, cursor) =>
      if cursor.atSeparator then (none, cursor)
      else
        let (rest, cursor) := plainBreaks steps cursor
        (rest.map (c :: ·), cursor)

def plainSpace (cursor : Cursor) : PlainSpace :=
  let (blanks, cursor) := cursor.span (· == ' ')
  match cursor.lineBreak? with
  | none => ⟨blanks, cursor, false⟩
  | some (c, next) =>
    if next.atSeparator then ⟨[], next, true⟩
    else
      let (breaks, cursor) := plainBreaks next.rest next
      match breaks with
      | none => ⟨[], cursor, true⟩
      | some breaks =>
        let first := if c != '\n' then [c] else if breaks.isEmpty then [' '] else []
        ⟨first ++ breaks, cursor, true⟩

structure PlainText where
  chars : List Char
  stop : Mark
  cursor : Cursor
  crossesLine : Bool

-- Adds the runs ahead, each with the space before it; the given space is that before the first. The
-- characters ahead bound the steps.
def plainRest (inFlow : Bool) (indent : Int) :
    List Char → List Char → PlainText → PlainText
  | [], _, text => text
  | _ :: steps, space, text =>
    if text.cursor.nextIs '#' then text
    else
      let run := plainRun inFlow text.cursor.rest
      if run.isEmpty then text
      else
        let cursor := text.cursor.skip run.length
        let after := plainSpace cursor
        let ends := after.folded.isEmpty || after.cursor.nextIs '#'
          || (!inFlow && after.cursor.column < indent)
        let rest : PlainText := ⟨[], cursor.mark, after.cursor, after.crossesLine⟩
        let rest := if ends then rest else plainRest inFlow indent steps after.folded rest
        { rest with chars := text.chars ++ (space ++ run ++ rest.chars) }

def plain (inFlow : Bool) (indent : Int) (cursor : Cursor) : Token × Cursor × Bool :=
  let text := plainRest inFlow indent cursor.rest []
    ⟨[], cursor.mark, cursor, false⟩
  (⟨.scalar (String.ofList text.chars) true, cursor.mark, text.stop⟩, text.cursor,
    text.crossesLine)

end FormCompiler.Yaml.Token
