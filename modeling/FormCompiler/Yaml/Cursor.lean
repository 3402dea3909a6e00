import FormCompiler.Text.Quoted

set_option autoImplicit false

namespace FormCompiler.Yaml

structure Mark where
  index : Nat
  line : Nat
  column : Nat
deriving Repr, DecidableEq, Inhabited

def isBreak (c : Char) : Bool :=
  c == '\n' || c == '\r' || c.toNat == 0x85 || c.toNat == 0x2028 || c.toNat == 0x2029

def isSpaceOrTab (c : Char) : Bool := c == ' ' || c == '\t'

def endsLine : Option Char → Bool
  | none => true
  | some c => isBreak c

def endsField : Option Char → Bool
  | none => true
  | some c => c == ' ' || isBreak c

def endsWord : Option Char → Bool
  | none => true
  | some c => isSpaceOrTab c || isBreak c

def quotedChar (found : Option Char) : String :=
  Text.quoted (String.singleton (found.getD (Char.ofNat 0)))

structure Cursor where
  rest : List Char
  mark : Mark := ⟨0, 0, 0⟩
deriving Repr

namespace Cursor

def peek? (cursor : Cursor) : Option Char :=
  cursor.rest.head?

def ahead? (cursor : Cursor) (count : Nat) : Option Char :=
  cursor.rest[count]?

def nextIs (cursor : Cursor) (c : Char) : Bool :=
  cursor.peek? == some c

def column (cursor : Cursor) : Nat := cursor.mark.column

def step (cursor : Cursor) : Cursor :=
  match cursor.rest with
  | [] => cursor
  | c :: rest =>
    let { index, line, column } := cursor.mark
    let breaksLine := isBreak c && !(c == '\r' && rest.head? == some '\n')
    let mark : Mark :=
      if breaksLine then ⟨index + 1, line + 1, 0⟩
      else if c.toNat == 0xFEFF then ⟨index + 1, line, column⟩
      else ⟨index + 1, line, column + 1⟩
    { rest, mark }

def skip : Nat → Cursor → Cursor
  | 0, cursor => cursor
  | count + 1, cursor => skip count cursor.step

def span (cursor : Cursor) (test : Char → Bool) : List Char × Cursor :=
  let taken := cursor.rest.takeWhile test
  (taken, cursor.skip taken.length)

def skipWhile (cursor : Cursor) (test : Char → Bool) : Cursor :=
  (cursor.span test).2

def skipBlanks (cursor : Cursor) : Cursor :=
  cursor.skipWhile (· == ' ')

def skipComment (cursor : Cursor) : Cursor :=
  if cursor.nextIs '#' then cursor.skipWhile fun c => !isBreak c else cursor

def lineBreak? (cursor : Cursor) : Option (Char × Cursor) :=
  match cursor.rest with
  | '\r' :: '\n' :: _ => some ('\n', cursor.skip 2)
  | c :: _ =>
    if c == '\n' || c == '\r' || c.toNat == 0x85 then some ('\n', cursor.step)
    else if isBreak c then some (c, cursor.step)
    else none
  | [] => none

def skipLineBreak (cursor : Cursor) : Cursor :=
  match cursor.lineBreak? with
  | some (_, after) => after
  | none => cursor

def atTriple (cursor : Cursor) (c : Char) : Bool :=
  match cursor.rest with
  | x :: y :: z :: rest => x == c && y == c && z == c && endsWord rest.head?
  | _ => false

def atSeparator (cursor : Cursor) : Bool :=
  cursor.atTriple '-' || cursor.atTriple '.'

end Cursor

end FormCompiler.Yaml
