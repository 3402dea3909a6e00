import FormCompiler.Number.Read
import Mathlib.Data.Rat.Defs

set_option autoImplicit false

namespace FormCompiler.Json

inductive Content where
  | null
  | flag (value : Bool)
  | whole (number : Int)
  | decimal (negative : Bool) (size : ℚ)
  | text (chars : String)
  | array (items : List Content)
  | object (fields : List (String × Content))

namespace Reader

section Words

def fraction? : List Char → Option (List Char × List Char)
  | '.' :: rest =>
    let digits := rest.takeWhile Char.isDigit
    if digits.isEmpty then none else some (digits, rest.dropWhile Char.isDigit)
  | rest => some ([], rest)

def exponent? : List Char → Option (Option Int)
  | [] => some none
  | c :: rest =>
    let (negative, digits) := Number.takeSign rest
    if (c = 'e' ∨ c = 'E') ∧ digits ≠ [] ∧ digits.all Char.isDigit then
      some (some (Double.signed negative (Nat.ofDigitChars 10 digits 0)))
    else none

def unsigned? (negative : Bool) (chars : List Char) : Option Content := do
  let whole := chars.takeWhile Char.isDigit
  if whole.isEmpty || (whole.head? == some '0' && whole.length != 1) then none
  else
    let (fraction, rest) ← fraction? (chars.dropWhile Char.isDigit)
    let exponent ← exponent? rest
    if fraction.isEmpty && exponent.isNone then
      return .whole (Double.signed negative (Nat.ofDigitChars 10 whole 0))
    else
      let coefficient := Nat.ofDigitChars 10 (whole ++ fraction) 0
      return .decimal negative (coefficient * 10 ^ (exponent.getD 0 - fraction.length))

def number? : List Char → Option Content
  | '-' :: rest => unsigned? true rest
  | chars => unsigned? false chars

def word? (chars : List Char) : Option Content :=
  if chars = "null".toList then some .null
  else if chars = "true".toList then some (.flag true)
  else if chars = "false".toList then some (.flag false)
  else number? chars

end Words

section Quoted

def escaped? : Char → Option Nat
  | '"' => some 0x22
  | '\\' => some 0x5C
  | '/' => some 0x2F
  | 'b' => some 8
  | 'f' => some 12
  | 'n' => some 10
  | 'r' => some 13
  | 't' => some 9
  | _ => none

-- The numbers that the characters between quotes stand for. A number of four hexadecimal digits may
-- be one half of a character.
def units? : List Char → Option (List Nat)
  | [] => some []
  | '\\' :: 'u' :: a :: b :: c :: d :: rest =>
    if [a, b, c, d].all Text.isHexDigit then
      (units? rest).map (Text.hexValue [a, b, c, d] :: ·)
    else none
  | '\\' :: c :: rest => do return (← escaped? c) :: (← units? rest)
  | c :: rest => if c = '\\' ∨ c.toNat < 32 then none else (units? rest).map (c.toNat :: ·)

def isHighHalf (unit : Nat) : Bool := 0xD800 ≤ unit && unit < 0xDC00

def isLowHalf (unit : Nat) : Bool := 0xDC00 ≤ unit && unit < 0xE000

def joined? : List Nat → Option (List Char)
  | [] => some []
  | high :: low :: rest =>
    if isHighHalf high then
      if isLowHalf low then
        (joined? rest).map
          (Char.ofNat (0x10000 + (high - 0xD800) * 0x400 + (low - 0xDC00)) :: ·)
      else none
    else if isLowHalf high then none
    else (joined? (low :: rest)).map (Char.ofNat high :: ·)
  | [unit] => if isHighHalf unit || isLowHalf unit then none else some [Char.ofNat unit]

def quoted? (chars : List Char) : Option String :=
  ((units? chars).bind joined?).map String.ofList

end Quoted

section Tokens

inductive Token where
  | mark (c : Char)
  | word (chars : List Char)
  | text (chars : String)
deriving Repr, DecidableEq

def isBlank (c : Char) : Bool := c == ' ' || c == '\n' || c == '\r' || c == '\t'

def isMark (c : Char) : Bool :=
  c == '[' || c == ']' || c == '\x7b' || c == '\x7d' || c == ',' || c == ':'

inductive Inside where
  | word (chars : List Char)
  | text (escaping : Bool) (chars : List Char)
deriving Repr, DecidableEq

structure Lexer where
  tokens : List Token
  inside : Inside := .word []
deriving Repr, DecidableEq

namespace Lexer

def settled (tokens : List Token) (word : List Char) : List Token :=
  if word.isEmpty then tokens else tokens ++ [.word word]

def settle? (lexer : Lexer) : Option (List Token) :=
  match lexer.inside with
  | .word chars => some (settled lexer.tokens chars)
  | .text .. => none

def step? (lexer : Lexer) (c : Char) : Option Lexer :=
  match lexer.inside with
  | .word chars =>
    if isBlank c then some ⟨settled lexer.tokens chars, .word []⟩
    else if isMark c then some ⟨settled lexer.tokens chars ++ [.mark c], .word []⟩
    else if c = '"' then some ⟨settled lexer.tokens chars, .text false []⟩
    else some { lexer with inside := .word (chars ++ [c]) }
  | .text true chars => some { lexer with inside := .text false (chars ++ [c]) }
  | .text false chars =>
    if c = '"' then do return ⟨lexer.tokens ++ [.text (← quoted? chars)], .word []⟩
    else some { lexer with inside := .text (c = '\\') (chars ++ [c]) }

end Lexer

def tokens? (chars : List Char) : Option (List Token) := do
  let lexer ← chars.foldlM Lexer.step? ⟨[], .word []⟩
  lexer.settle?

end Tokens

section Values

inductive Open where
  | array (before : List Content)
  | object (before : List (String × Content)) (key : String)

inductive Place where
  | value (above : List Open)
  | firstItem (above : List Open)
  | firstKey (above : List Open)
  | key (above : List Open) (before : List (String × Content))
  | colon (above : List Open) (before : List (String × Content)) (key : String)
  | after (above : List Open) (value : Content)

namespace Place

def start? (above : List Open) : Token → Option Place
  | .mark '[' => some (.firstItem above)
  | .mark '\x7b' => some (.firstKey above)
  | .mark _ => none
  | .word chars => (word? chars).map (.after above)
  | .text chars => some (.after above (.text chars))

def step? : Place → Token → Option Place
  | value above, token => start? above token
  | firstItem above, .mark ']' => some (after above (.array []))
  | firstItem above, token => start? (.array [] :: above) token
  | firstKey above, .mark '\x7d' => some (after above (.object []))
  | firstKey above, .text name => some (colon above [] name)
  | key above before, .text name => some (colon above before name)
  | colon above before name, .mark ':' => some (value (.object before name :: above))
  | after (.array before :: above) item, .mark ',' =>
    some (value (.array (before ++ [item]) :: above))
  | after (.array before :: above) item, .mark ']' =>
    some (after above (.array (before ++ [item])))
  | after (.object before name :: above) item, .mark ',' =>
    some (key above (before ++ [(name, item)]))
  | after (.object before name :: above) item, .mark '\x7d' =>
    some (after above (.object (before ++ [(name, item)])))
  | _, _ => none

def finished? : Place → Option Content
  | after [] found => some found
  | _ => none

end Place

end Values

end Reader

def read? (text : String) : Option Content := do
  let tokens ← Reader.tokens? text.toList
  let last ← tokens.foldlM Reader.Place.step? (.value [])
  last.finished?

example : read? "[-1, \"\\ud83d\\ude00\"]" = some (.array [.whole (-1), .text "😀"]) := by rfl

example : ["[1 2]", "[1,]", "01", "NaN", "\"\\ud83d\""].all (fun text => (read? text).isNone) := by
  decide +kernel

end FormCompiler.Json
