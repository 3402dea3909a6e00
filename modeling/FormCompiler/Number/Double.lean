set_option autoImplicit false

namespace FormCompiler

inductive Double where
  | finite (negative : Bool) (mantissa : Nat) (exponent : Int)
  | infinite (negative : Bool)
  | notANumber (occurrence : Nat)
deriving Repr, DecidableEq

namespace Double

def precision : Nat := 53
def leastExponent : Int := -1074
def greatestExponent : Int := 971

def zero (negative : Bool) : Double := .finite negative 0 leastExponent

def roundDiv (num den : Nat) : Nat :=
  let quotient := num / den
  let twice := 2 * (num % den)
  if twice > den || (twice == den && quotient % 2 == 1) then quotient + 1 else quotient

def scaled (num den : Nat) (shift : Int) : Nat × Nat :=
  if 0 ≤ shift then (num * Nat.pow 2 shift.toNat, den)
  else (num, den * Nat.pow 2 (-shift).toNat)

def normalShift (num den : Nat) : Int :=
  let first : Int := 52 - ((num.log2 : Int) - (den.log2 : Int))
  let (n, d) := scaled num den first
  let shift := if n / d < Nat.pow 2 52 then first + 1 else first
  min shift (-leastExponent)

/-- The number nearest to `num / den`. -/
def ofRatio (negative : Bool) (num den : Nat) : Double :=
  if num = 0 then zero negative
  else
    let shift := normalShift num den
    let (n, d) := scaled num den shift
    let mantissa := roundDiv n d
    let (mantissa, exponent) :=
      if mantissa = Nat.pow 2 53 then (Nat.pow 2 52, 1 - shift) else (mantissa, -shift)
    if exponent > greatestExponent then .infinite negative
    else .finite negative mantissa exponent

def ofDecimal (negative : Bool) (coefficient : Nat) (exponent : Int) : Double :=
  if coefficient = 0 then zero negative
  else
    -- Beyond these bounds the answer is known without a power of ten.
    let digits : Int := (Nat.toDigits 10 coefficient).length
    if digits + exponent > 400 then .infinite negative
    else if digits + exponent < -400 then zero negative
    else if 0 ≤ exponent then ofRatio negative (coefficient * Nat.pow 10 exponent.toNat) 1
    else ofRatio negative coefficient (Nat.pow 10 (-exponent).toNat)

def ofInt (n : Int) : Double := ofRatio (n < 0) n.natAbs 1

def negate : Double → Double
  | .finite negative mantissa exponent => .finite (!negative) mantissa exponent
  | .infinite negative => .infinite (!negative)
  | .notANumber occurrence => .notANumber occurrence

def signed (negative : Bool) (mantissa : Nat) : Int :=
  if negative then -(mantissa : Int) else mantissa

def add : Double → Double → Double
  | .finite s m e, .finite t n f =>
    let least := min e f
    let sum := signed s m * Int.pow 2 (e - least).toNat + signed t n * Int.pow 2 (f - least).toNat
    if sum = 0 then zero (s && t)
    else
      let (num, den) := scaled sum.natAbs 1 least
      ofRatio (sum < 0) num den
  | .notANumber occurrence, _ => .notANumber occurrence
  | _, .notANumber occurrence => .notANumber occurrence
  | .infinite s, .infinite t => if s = t then .infinite s else .notANumber 0
  | .infinite s, .finite .. => .infinite s
  | .finite .., .infinite t => .infinite t

def mul : Double → Double → Double
  | .finite s m e, .finite t n f =>
    let (num, den) := scaled (m * n) 1 (e + f)
    ofRatio (s != t) num den
  | .notANumber occurrence, _ => .notANumber occurrence
  | _, .notANumber occurrence => .notANumber occurrence
  | .infinite s, .infinite t => .infinite (s != t)
  | .infinite s, .finite t n _ => if n = 0 then .notANumber 0 else .infinite (s != t)
  | .finite s m _, .infinite t => if m = 0 then .notANumber 0 else .infinite (s != t)

def isZero : Double → Bool
  | .finite _ mantissa _ => mantissa == 0
  | _ => false

def isPositive : Double → Bool
  | .finite negative mantissa _ => !negative && mantissa != 0
  | .infinite negative => !negative
  | .notANumber _ => false

def toInt? : Double → Option Int
  | .finite negative mantissa exponent =>
    if 0 ≤ exponent then some (signed negative (mantissa * Nat.pow 2 exponent.toNat))
    else if mantissa % Nat.pow 2 (-exponent).toNat = 0 then
      some (signed negative (mantissa / Nat.pow 2 (-exponent).toNat))
    else none
  | _ => none

def same : Double → Double → Bool
  | .finite s m e, .finite t n f => if m = 0 then n == 0 else s == t && m == n && e == f
  | .infinite s, .infinite t => s == t
  | .notANumber a, .notANumber b => a == b
  | _, _ => false

end Double

end FormCompiler
