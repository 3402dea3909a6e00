import FormCompiler.Text.Digit

set_option autoImplicit false

namespace FormCompiler

namespace Calendar

inductive RangeFault where
  | year (number : Nat)
  | month
  | day
  | hour
  | minute
  | second
deriving Repr, DecidableEq

def RangeFault.message : RangeFault → String
  | .year number => s!"year {number} is out of range"
  | .month => "month must be in 1..12"
  | .day => "day is out of range for month"
  | .hour => "hour must be in 0..23"
  | .minute => "minute must be in 0..59"
  | .second => "second must be in 0..59"

def isLeapYear (year : Nat) : Bool :=
  year % 4 == 0 && (year % 100 != 0 || year % 400 == 0)

def daysInMonth (year month : Nat) : Nat :=
  if month = 2 then if isLeapYear year then 29 else 28
  else if month = 4 ∨ month = 6 ∨ month = 9 ∨ month = 11 then 30
  else 31

def daysBeforeMonth (year month : Nat) : Nat :=
  (List.range (month - 1)).foldl (fun days index => days + daysInMonth year (index + 1)) 0

end Calendar

open Calendar

structure Date where
  year : Nat
  month : Nat
  day : Nat
deriving Repr, DecidableEq

namespace Date

def check? (year month day : Nat) : Except RangeFault Date :=
  if year = 0 ∨ 9999 < year then .error (.year year)
  else if month = 0 ∨ 12 < month then .error .month
  else if day = 0 ∨ daysInMonth year month < day then .error .day
  else .ok ⟨year, month, day⟩

def ordinal (date : Date) : Nat :=
  let years := date.year - 1
  years * 365 + years / 4 - years / 100 + years / 400
    + daysBeforeMonth date.year date.month + date.day

def text (date : Date) : String :=
  Text.zeroPadded 4 date.year ++ "-" ++ Text.zeroPadded 2 date.month ++ "-"
    ++ Text.zeroPadded 2 date.day

def quoted (date : Date) : String :=
  s!"datetime.date({date.year}, {date.month}, {date.day})"

end Date

def microsPerSecond : Nat := 1000000

def spanText (span : Int) : String :=
  let seconds := span.fdiv microsPerSecond
  let fields := [
    ("days", seconds.fdiv 86400), ("seconds", seconds.fmod 86400),
    ("microseconds", span.fmod microsPerSecond)]
  let shown := (fields.filter fun field => field.2 != 0).map fun (name, n) => s!"{name}={n}"
  let inside := if shown.isEmpty then "0" else ", ".intercalate shown
  s!"datetime.timedelta({inside})"

structure DateTime where
  date : Date
  hour : Nat
  minute : Nat
  second : Nat
  microsecond : Nat
  offset : Option Int
deriving Repr, DecidableEq

namespace DateTime

def check? (year month day hour minute second microsecond : Nat) (offset : Option Int) :
    Except RangeFault DateTime := do
  let date ← Date.check? year month day
  if 24 ≤ hour then .error .hour
  else if 60 ≤ minute then .error .minute
  else if 60 ≤ second then .error .second
  else .ok ⟨date, hour, minute, second, microsecond, offset⟩

def clockText (hours minutes : Nat) : String :=
  Text.zeroPadded 2 hours ++ ":" ++ Text.zeroPadded 2 minutes

def fractionText (micros : Nat) : String :=
  if micros = 0 then "" else "." ++ Text.zeroPadded 6 micros

def offsetText (offset : Int) : String :=
  let micros := offset.natAbs % microsPerSecond
  let seconds := offset.natAbs / microsPerSecond
  let tail :=
    if seconds % 60 = 0 && micros = 0 then ""
    else ":" ++ Text.zeroPadded 2 (seconds % 60) ++ fractionText micros
  (if offset < 0 then "-" else "+") ++ clockText (seconds / 3600) (seconds / 60 % 60) ++ tail

def localText (separator : String) (time : DateTime) : String :=
  time.date.text ++ separator ++ clockText time.hour time.minute ++ ":"
    ++ Text.zeroPadded 2 time.second ++ fractionText time.microsecond

def textWith (separator : String) (time : DateTime) : String :=
  localText separator time ++ (time.offset.map offsetText).getD ""

def text (time : DateTime) : String := textWith " " time

def quoted (time : DateTime) : String :=
  let fields := [time.date.year, time.date.month, time.date.day, time.hour, time.minute]
    ++ (if time.second = 0 ∧ time.microsecond = 0 then [] else [time.second])
    ++ (if time.microsecond = 0 then [] else [time.microsecond])
  let zone := match time.offset with
    | none => ""
    | some offset =>
      if offset = 0 then ", tzinfo=datetime.timezone.utc"
      else s!", tzinfo=datetime.timezone({spanText offset})"
  let inside := ", ".intercalate (fields.map toString)
  s!"datetime.datetime({inside}{zone})"

def instant (time : DateTime) : Int :=
  let seconds : Int := ((time.date.ordinal * 24 + time.hour) * 60 + time.minute) * 60 + time.second
  seconds * microsPerSecond + time.microsecond - time.offset.getD 0

def same (a b : DateTime) : Bool :=
  a.offset.isSome == b.offset.isSome && a.instant == b.instant

end DateTime

end FormCompiler
