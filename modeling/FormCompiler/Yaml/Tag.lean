set_option autoImplicit false

namespace FormCompiler.Yaml

inductive Tag where
  | null
  | flag
  | whole
  | number
  | binary
  | time
  | orderedMap
  | pairs
  | set
  | text
  | sequence
  | mapping
  | merge
  | value
  | other (name : String)
deriving Repr, DecidableEq

namespace Tag

def standardNames : List (String × Tag) := [
  ("tag:yaml.org,2002:null", .null),
  ("tag:yaml.org,2002:bool", .flag),
  ("tag:yaml.org,2002:int", .whole),
  ("tag:yaml.org,2002:float", .number),
  ("tag:yaml.org,2002:binary", .binary),
  ("tag:yaml.org,2002:timestamp", .time),
  ("tag:yaml.org,2002:omap", .orderedMap),
  ("tag:yaml.org,2002:pairs", .pairs),
  ("tag:yaml.org,2002:set", .set),
  ("tag:yaml.org,2002:str", .text),
  ("tag:yaml.org,2002:seq", .sequence),
  ("tag:yaml.org,2002:map", .mapping),
  ("tag:yaml.org,2002:merge", .merge),
  ("tag:yaml.org,2002:value", .value)]

def ofName (name : String) : Tag :=
  match standardNames.find? fun entry => entry.1 == name with
  | some (_, tag) => tag
  | none => .other name

def name (tag : Tag) : String :=
  match tag with
  | .other name => name
  | known =>
    match standardNames.find? fun entry => entry.2 == known with
    | some (name, _) => name
    | none => ""

def isDigit (c : Char) : Bool := '0' ≤ c && c ≤ '9'
def isDigitOrBar (c : Char) : Bool := isDigit c || c == '_'
def isOctalOrBar (c : Char) : Bool := ('0' ≤ c && c ≤ '7') || c == '_'
def isBinaryOrBar (c : Char) : Bool := c == '0' || c == '1' || c == '_'

def isHexOrBar (c : Char) : Bool :=
  isDigitOrBar c || ('a' ≤ c && c ≤ 'f') || ('A' ≤ c && c ≤ 'F')

def dropSign : List Char → List Char
  | '-' :: rest => rest
  | '+' :: rest => rest
  | chars => chars

def sixtieths : List Char → Nat × List Char
  | ':' :: a :: b :: rest =>
    if '0' ≤ a && a ≤ '5' && isDigit b then
      let (count, rest) := sixtieths rest
      (count + 1, rest)
    else if isDigit a then
      let (count, rest) := sixtieths (b :: rest)
      (count + 1, rest)
    else (0, ':' :: a :: b :: rest)
  | [':', a] => if isDigit a then (1, []) else (0, [':', a])
  | chars => (0, chars)

def isWhole (chars : List Char) : Bool :=
  match dropSign chars with
  | '0' :: 'b' :: rest => !rest.isEmpty && rest.all isBinaryOrBar
  | '0' :: 'x' :: rest => !rest.isEmpty && rest.all isHexOrBar
  | '0' :: rest => rest.all isOctalOrBar
  | c :: rest =>
    isDigit c &&
      (rest.all isDigitOrBar ||
        (let (parts, rest) := sixtieths (rest.dropWhile isDigitOrBar)
         parts != 0 && rest.isEmpty))
  | [] => false

def isExponent : List Char → Bool
  | [] => true
  | [_] | [_, _] => false
  | e :: sign :: digits =>
    (e == 'e' || e == 'E') && (sign == '-' || sign == '+') && digits.all isDigit

def isNumber (chars : List Char) : Bool :=
  let unsigned := dropSign chars
  let isWord (words : List String) (chars : List Char) : Bool :=
    words.contains (String.ofList chars)
  let fraction :=
    match chars with
    | '.' :: c :: rest => isDigit c && isExponent (rest.dropWhile isDigitOrBar)
    | _ => false
  let signed :=
    match unsigned with
    | c :: rest =>
      isDigit c &&
        (match rest.dropWhile isDigitOrBar with
         | '.' :: rest => isExponent (rest.dropWhile isDigitOrBar)
         | rest =>
           match sixtieths rest with
           | (_ + 1, '.' :: rest) => rest.all isDigitOrBar
           | _ => false)
    | [] => false
  fraction || signed || isWord [".inf", ".Inf", ".INF"] unsigned
    || isWord [".nan", ".NaN", ".NAN"] chars

end Tag

structure TimeText where
  year : List Char
  month : List Char
  day : List Char
  clock : Option (List Char × List Char × List Char × List Char) := none
  offset : Option (Bool × List Char × List Char) := none
  universal : Bool := false

namespace TimeText

def digits (least most : Nat) (chars : List Char) : Option (List Char × List Char) :=
  let taken := (chars.take most).takeWhile Tag.isDigit
  if least ≤ taken.length then some (taken, chars.drop taken.length) else none

def mark (c : Char) : List Char → Option (List Char)
  | d :: rest => if d = c then some rest else none
  | [] => none

def isGap (c : Char) : Bool := c == ' ' || c == '\t'

def clockMark : List Char → Option (List Char)
  | 'T' :: rest => some rest
  | 't' :: rest => some rest
  | c :: rest => if isGap c then some (rest.dropWhile isGap) else none
  | [] => none

def withOffset (time : TimeText) (chars : List Char) : Option TimeText :=
  if chars.isEmpty then some time
  else
    match chars.dropWhile isGap with
    | ['Z'] => some { time with universal := true }
    | c :: rest =>
      if c = '+' ∨ c = '-' then do
        let (hours, rest) ← digits 1 2 rest
        if rest.isEmpty then return { time with offset := some (c == '-', hours, []) }
        else
          let (minutes, rest) ← digits 2 2 (← mark ':' rest)
          if rest.isEmpty then return { time with offset := some (c == '-', hours, minutes) }
          else none
      else none
    | [] => none

def ofChars (chars : List Char) : Option TimeText := do
  let (year, rest) ← digits 4 4 chars
  let (month, rest) ← digits 1 2 (← mark '-' rest)
  let (day, rest) ← digits 1 2 (← mark '-' rest)
  let date : TimeText := { year, month, day }
  if rest.isEmpty then return date
  else
    let (hour, rest) ← digits 1 2 (← clockMark rest)
    let (minute, rest) ← digits 2 2 (← mark ':' rest)
    let (second, rest) ← digits 2 2 (← mark ':' rest)
    let (fraction, rest) :=
      match rest with
      | '.' :: rest => (rest.takeWhile Tag.isDigit, rest.dropWhile Tag.isDigit)
      | _ => ([], rest)
    withOffset { date with clock := some (hour, minute, second, fraction) } rest

def isImplicit (time : TimeText) : Bool :=
  time.clock.isSome || (time.month.length == 2 && time.day.length == 2)

end TimeText

namespace Tag

def flagWords : List String := [
  "yes", "Yes", "YES", "no", "No", "NO", "true", "True", "TRUE", "false", "False", "FALSE",
  "on", "On", "ON", "off", "Off", "OFF"]

def ofChars (chars : List Char) : Tag :=
  if chars.isEmpty then .null
  else
    let chars := if chars.getLast? == some '\n' then chars.dropLast else chars
    let word := String.ofList chars
    if flagWords.contains word then .flag
    else if isNumber chars then .number
    else if isWhole chars then .whole
    else if word = "<<" then .merge
    else if ["~", "null", "Null", "NULL"].contains word then .null
    else if (TimeText.ofChars chars).any TimeText.isImplicit then .time
    else if word = "=" then .value
    else if ["!", "&", "*"].contains word then .other "tag:yaml.org,2002:yaml"
    else .text

end Tag

end FormCompiler.Yaml
