import FormCompiler.Number.Double
import FormCompiler.Text.Digit

set_option autoImplicit false

namespace FormCompiler

namespace Double

structure Interval where
  low : Nat
  value : Nat
  high : Nat
  denominator : Nat
  closed : Bool

def interval (mantissa : Nat) (exponent : Int) : Interval :=
  let below := if mantissa = Nat.pow 2 52 ∧ exponent > leastExponent then 1 else 2
  let (unit, denominator) := scaled 1 1 (exponent - 2)
  { low := (4 * mantissa - below) * unit
    value := 4 * mantissa * unit
    high := (4 * mantissa + 2) * unit
    denominator
    closed := mantissa % 2 == 0 }

def Interval.holds (range : Interval) (num den : Nat) : Bool :=
  let point := num * range.denominator
  let low := range.low * den
  let high := range.high * den
  if range.closed then low ≤ point && point ≤ high else low < point && point < high

def decimalExponent (num den : Nat) : Int :=
  let estimate : Int := ((num.log2 : Int) - (den.log2 : Int)) * 30103 / 100000 - 1
  let reaches (p : Int) : Bool :=
    if 0 ≤ p then den * Nat.pow 10 p.toNat ≤ num else den ≤ num * Nat.pow 10 (-p).toNat
  if reaches (estimate + 2) then estimate + 2
  else if reaches (estimate + 1) then estimate + 1
  else estimate

structure Digits where
  coefficient : Nat
  exponent : Int
deriving Repr, DecidableEq

def onGrid? (range : Interval) (p : Int) : Option Nat :=
  let (up, down) := if 0 ≤ p then (1, Nat.pow 10 p.toNat) else (Nat.pow 10 (-p).toNat, 1)
  let num := range.value * up
  let den := range.denominator * down
  let floor := num / den
  let lower := range.holds (floor * down) up
  let upper := range.holds ((floor + 1) * down) up
  if lower && upper then some (roundDiv num den)
  else if lower then some floor
  else if upper then some (floor + 1)
  else none

def firstGrid (range : Interval) (top : Int) : Nat → Digits
  | 0 => ⟨0, 0⟩
  | tries + 1 =>
    let p := top - (17 - (tries + 1 : Nat) : Int)
    match onGrid? range p with
    | some coefficient => ⟨coefficient, p⟩
    | none => firstGrid range top tries

def dropZeros : Nat → Digits → Digits
  | 0, digits => digits
  | steps + 1, digits =>
    if digits.coefficient % 10 = 0 ∧ digits.coefficient ≠ 0 then
      dropZeros steps ⟨digits.coefficient / 10, digits.exponent + 1⟩
    else digits

/-- The shortest digits that read back as `mantissa * 2 ^ exponent`. -/
def shortest (mantissa : Nat) (exponent : Int) : Digits :=
  if mantissa = 0 then ⟨0, 0⟩
  else
    let range := interval mantissa exponent
    dropZeros 17 (firstGrid range (decimalExponent range.value range.denominator) 17)

structure Layout where
  positionalFrom : Int
  positionalTo : Int
  exponentDigits : Nat
  infinity : String
  minusInfinity : String
  notANumber : String

def exponentText (layout : Layout) (exponent : Int) : String :=
  (if exponent < 0 then "e-" else "e+") ++ Text.zeroPadded layout.exponentDigits exponent.natAbs

def digitsText (layout : Layout) (digits : List Char) (first : Int) : List Char :=
  if layout.positionalFrom ≤ first ∧ first ≤ layout.positionalTo then
    if first < 0 then
      '0' :: '.' :: (List.replicate (-first - 1).toNat '0' ++ digits)
    else
      let whole := first.toNat + 1
      let fraction := digits.drop whole
      digits.take whole ++ List.replicate (whole - digits.length) '0' ++
        ('.' :: if fraction.isEmpty then ['0'] else fraction)
  else
    match digits with
    | [] => []
    | digit :: rest =>
      (digit :: if rest.isEmpty then [] else '.' :: rest) ++ (exponentText layout first).toList

def textIn (layout : Layout) : Double → String
  | .notANumber _ => layout.notANumber
  | .infinite negative => if negative then layout.minusInfinity else layout.infinity
  | .finite negative mantissa exponent =>
    let found := shortest mantissa exponent
    let digits := Nat.toDigits 10 found.coefficient
    let first := found.exponent + (digits.length - 1 : Nat)
    String.ofList ((if negative then ['-'] else []) ++ digitsText layout digits first)

def plainLayout : Layout :=
  { positionalFrom := -4, positionalTo := 15, exponentDigits := 2
    infinity := "inf", minusInfinity := "-inf", notANumber := "nan" }

def text (x : Double) : String := textIn plainLayout x

end Double

end FormCompiler
