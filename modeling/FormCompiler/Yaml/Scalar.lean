import FormCompiler.Number.Read
import FormCompiler.Text.Base64
import FormCompiler.Text.Case
import FormCompiler.Value.Basic
import FormCompiler.Yaml.Failure
import FormCompiler.Yaml.Tag

set_option autoImplicit false

namespace FormCompiler.Yaml.Scalar

abbrev Content := Except ContentFault

def flag (chars : String) : Content Bool :=
  let word := Text.lower chars
  if ["yes", "true", "on"].contains word then .ok true
  else if ["no", "false", "off"].contains word then .ok false
  else .error (.notFlag word)

def wholeIn (base : Nat) (chars : List Char) : Content Int :=
  match Number.whole? base chars with
  | some n => .ok n
  | none => .error (.notWhole base (String.ofList chars))

def splitAt (mark : Char) : List Char → List (List Char)
  | [] => [[]]
  | c :: rest =>
    if c = mark then [] :: splitAt mark rest
    else
      match splitAt mark rest with
      | first :: others => (c :: first) :: others
      | [] => [[c]]

def magnitude (chars : List Char) : Content Int :=
  match chars with
  | [] => .error .emptyNumber
  | ['0'] => .ok 0
  | '0' :: 'b' :: rest => wholeIn 2 rest
  | '0' :: 'x' :: rest => wholeIn 16 rest
  | '0' :: _ => wholeIn 8 chars
  | _ =>
    if chars.contains ':' then do
      let parts ← (splitAt ':' chars).mapM (wholeIn 10)
      return parts.foldl (fun value part => value * 60 + part) 0
    else wholeIn 10 chars

def signed (chars : List Char) : Content (Bool × List Char) :=
  match chars with
  | [] => .error .emptyNumber
  | _ => .ok (Number.takeSign chars)

def whole (chars : List Char) : Content Int := do
  let (negative, rest) ← signed (chars.filter (· != '_'))
  let n ← magnitude rest
  return if negative then -n else n

def atOccurrence (occurrence : Nat) : Double → Double
  | .notANumber _ => .notANumber occurrence
  | x => x

def decimal (chars : List Char) : Content Double :=
  match Number.double? chars with
  | some x => .ok x
  | none => .error (.notNumber (String.ofList chars))

def sumOfParts : Int → Double → List Double → Content Double
  | _, sum, [] => .ok sum
  | unit, sum, part :: rest =>
    match Double.ofInt unit with
    | .infinite _ => .error .partTooLarge
    | factor => sumOfParts (unit * 60) (sum.add (part.mul factor)) rest

def number (occurrence : Nat) (chars : String) : Content Double := do
  let plain := (Text.lower (String.ofList (chars.toList.filter (· != '_')))).toList
  let (negative, rest) ← signed plain
  let withSign (x : Double) : Double := if negative then x.negate else x
  if rest = ".inf".toList then return .infinite negative
  else if rest = ".nan".toList then return .notANumber 0
  else if rest.contains ':' then
    let parts ← (splitAt ':' rest).mapM decimal
    let sum ← sumOfParts 1 (Double.zero false) parts.reverse
    return withSign (atOccurrence occurrence sum)
  else return withSign (atOccurrence occurrence (← decimal rest))

def natOf (digits : List Char) : Nat :=
  digits.foldl (fun value c => value * 10 + (c.toNat - '0'.toNat)) 0

def micros (fraction : List Char) : Nat :=
  let digits := fraction.take 6
  natOf digits * Nat.pow 10 (6 - digits.length)

def offsetSpan : Bool × List Char × List Char → Content Int
  | (negative, hours, minutes) =>
    let seconds := natOf hours * 3600 + natOf minutes * 60
    let span := Double.signed negative (seconds * microsPerSecond)
    if seconds < 86400 then .ok span else .error (.offsetTooLarge span)

def dropLineFeed (chars : List Char) : List Char :=
  if chars.getLast? == some '\n' then chars.dropLast else chars

def time (chars : List Char) : Content Value :=
  match TimeText.ofChars (dropLineFeed chars) with
  | none => .error .notTime
  | some written =>
    let (year, month, day) := (natOf written.year, natOf written.month, natOf written.day)
    match written.clock with
    | none => ((Date.check? year month day).map .date).mapError .outOfRange
    | some (hour, minute, second, fraction) => do
      let offset ←
        match written.offset with
        | some offset => (offsetSpan offset).map some
        | none => pure (if written.universal then some 0 else none)
      ((DateTime.check? year month day (natOf hour) (natOf minute) (natOf second)
        (micros fraction) offset).map .dateTime).mapError .outOfRange

def binary (place : Mark) (chars : String) : Attempt Value :=
  let fail (problem : Problem) : Attempt Value :=
    .error (.malformed .values none none problem place)
  if chars.toList.any fun c => 128 ≤ c.toNat then fail (.notAscii chars)
  else
    match Text.decodeBase64 chars.toList with
    | .ok bytes => .ok (.bytes bytes)
    | .error fault => fail (.notBase64 fault.message)

end FormCompiler.Yaml.Scalar
