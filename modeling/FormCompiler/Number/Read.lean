import FormCompiler.Number.Double
import FormCompiler.Text.Blank
import FormCompiler.Text.Digit

set_option autoImplicit false

namespace FormCompiler.Number

def asciiForm? (chars : List Char) : Option (List Char) :=
  chars.mapM fun c =>
    if c.toNat < 128 then some c
    else if Text.isBlank c then some ' '
    else (Text.decimalDigit? c).map Text.asciiDigit

def spelled? (chars : List Char) : Option (List Char) :=
  (asciiForm? chars).map (Text.trimOff Text.isAsciiSpace)

def takeSign : List Char → Bool × List Char
  | '-' :: rest => (true, rest)
  | '+' :: rest => (false, rest)
  | chars => (false, chars)

def digitsIn (base : Nat) : Nat → Bool → List Char → Option Nat
  | value, afterDigit, [] => if afterDigit then some value else none
  | value, afterDigit, c :: rest =>
    if c = '_' then if afterDigit then digitsIn base value false rest else none
    else
      match Text.digit? c with
      | some digit =>
        if digit < base then digitsIn base (value * base + digit) true rest else none
      | none => none

def baseLetter? : Nat → Option Char
  | 2 => some 'b'
  | 8 => some 'o'
  | 16 => some 'x'
  | _ => none

def dropBaseMark (base : Nat) (chars : List Char) : List Char :=
  match chars, baseLetter? base with
  | '0' :: c :: rest, some letter =>
    if c.toLower = letter then
      match rest with
      | '_' :: digits => digits
      | digits => digits
    else chars
  | _, _ => chars

def whole? (base : Nat) (chars : List Char) : Option Int := do
  let (negative, digits) := takeSign (← spelled? chars)
  (digitsIn base 0 false (dropBaseMark base digits)).map (Double.signed negative)

def decimalDigits : Nat → Nat → Bool → List Char → Nat × Nat × List Char
  | count, value, _, [] => (count, value, [])
  | count, value, afterDigit, c :: rest =>
    if c = '_' && afterDigit then
      match rest with
      | d :: _ =>
        if (Text.decimalDigit? d).isSome then decimalDigits count value false rest
        else (count, value, c :: rest)
      | [] => (count, value, c :: rest)
    else
      match Text.decimalDigit? c with
      | some digit => decimalDigits (count + 1) (value * 10 + digit) true rest
      | none => (count, value, c :: rest)

def exponentPart? : List Char → Option Int
  | [] => some 0
  | c :: rest =>
    if c.toLower = 'e' then
      let (negative, digits) := takeSign rest
      let (count, value, rest) := decimalDigits 0 0 false digits
      if count = 0 || !rest.isEmpty then none else some (Double.signed negative value)
    else none

def magnitude? (negative : Bool) (chars : List Char) : Option Double :=
  let word := String.ofList (chars.map Char.toLower)
  if word = "inf" || word = "infinity" then some (.infinite negative)
  else if word = "nan" then some (.notANumber 0)
  else
    let (wholeCount, value, rest) := decimalDigits 0 0 false chars
    let (fractionCount, value, rest) :=
      match rest with
      | '.' :: rest => decimalDigits 0 value false rest
      | rest => (0, value, rest)
    if wholeCount + fractionCount = 0 then none
    else (exponentPart? rest).map fun exponent =>
      Double.ofDecimal negative value (exponent - fractionCount)

def double? (chars : List Char) : Option Double := do
  let (negative, rest) := takeSign (← spelled? chars)
  magnitude? negative rest

end FormCompiler.Number
