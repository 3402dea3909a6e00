import FormCompiler.Calendar.Basic

set_option autoImplicit false

namespace FormCompiler

namespace Calendar

def pair? : List Char → Option (Nat × List Char)
  | a :: b :: rest =>
    if a.isDigit && b.isDigit then
      some ((a.toNat - '0'.toNat) * 10 + (b.toNat - '0'.toNat), rest)
    else none
  | _ => none

def markedPair? (mark : Char) : List Char → Option (Nat × List Char)
  | c :: rest => if c = mark then pair? rest else some (0, c :: rest)
  | [] => some (0, [])

def neededPair? (mark : Char) : List Char → Option (Nat × List Char)
  | c :: rest => if c = mark then pair? rest else none
  | [] => none

def micros : List Char → Nat × List Char
  | '.' :: rest =>
    let (digits, rest) := rest.span Char.isDigit
    let shown := digits.take 6
    let value := shown.foldl (fun n c => n * 10 + (c.toNat - '0'.toNat)) 0
    (value * Nat.pow 10 (6 - shown.length), rest)
  | chars => (0, chars)

structure ClockTime where
  hour : Nat
  minute : Nat
  second : Nat
  microsecond : Nat
deriving Repr, DecidableEq

def ClockTime.span (time : ClockTime) : Nat :=
  ((time.hour * 60 + time.minute) * 60 + time.second) * microsPerSecond + time.microsecond

def clock? (chars : List Char) : Option (ClockTime × List Char) := do
  let (hour, rest) ← pair? chars
  let (minute, rest) ← markedPair? ':' rest
  let (second, rest) ← markedPair? ':' rest
  let (microsecond, rest) := micros rest
  return (⟨hour, minute, second, microsecond⟩, rest)

-- The offset that a whole text spells; no offset for the empty text. One of less than a second is
-- universal time.
def offset? : List Char → Option (Option Int)
  | [] => some none
  | ['Z'] => some (some 0)
  | sign :: rest => do
    let (time, rest) ← clock? rest
    let span : Int := if time.span < microsPerSecond then 0 else time.span
    if !rest.isEmpty then none
    else if sign = '+' then return some span
    else if sign = '-' then return some (-span)
    else none

def date? (chars : List Char) : Option (Date × List Char) := do
  let (century, rest) ← pair? chars
  let (year, rest) ← pair? rest
  let (month, rest) ← neededPair? '-' rest
  let (day, rest) ← neededPair? '-' rest
  let date ← (Date.check? (century * 100 + year) month day).toOption
  return (date, rest)

end Calendar

def Date.ofText? (text : String) : Option Date :=
  match Calendar.date? text.toList with
  | some (date, []) => some date
  | _ => none

namespace DateTime

def ofText? (text : String) : Option DateTime := do
  match ← Calendar.date? text.toList with
  | (date, []) => return ⟨date, 0, 0, 0, 0, none⟩
  | (date, _ :: rest) =>
    let (time, rest) ← Calendar.clock? rest
    let offset ← Calendar.offset? rest
    (check? date.year date.month date.day time.hour time.minute time.second time.microsecond
      offset).toOption

-- An offset of whole seconds to the nearest minute. The minutes are not carried into the hour, and
-- the fraction of a second counts downwards.
def nearestMinuteText (offset : Int) : String :=
  let seconds := offset.fdiv microsPerSecond
  if seconds.fmod 86400 = 0 then "+00:00"
  else
    let size := seconds.natAbs
    let minutes := size / 60 % 60 + (if 30 ≤ size % 60 then 1 else 0)
    (if seconds < 0 then "-" else "+") ++ clockText (size / 3600) minutes

def roundedText (time : DateTime) : String :=
  localText "T" time ++ (time.offset.map nearestMinuteText).getD ""

-- An offset with its seconds cut off, once it is rounded to whole seconds; none at all is marked by
-- `Z`.
def stampOffsetText (offset : Int) : String :=
  let seconds := (offset.natAbs + microsPerSecond / 2) / microsPerSecond
  if seconds = 0 then "Z"
  else (if offset < 0 then "-" else "+") ++ clockText (seconds / 3600) (seconds / 60 % 60)

/-- The offset is cut to minutes. -/
def stamp (time : DateTime) : String :=
  localText "T" time ++ (time.offset.map stampOffsetText).getD ""

end DateTime

end FormCompiler
