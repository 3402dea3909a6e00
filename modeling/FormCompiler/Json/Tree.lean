import FormCompiler.Number.Shortest

set_option autoImplicit false

namespace FormCompiler.Json

inductive Tree where
  | null
  | flag (value : Bool)
  | whole (number : Int)
  | number (value : Double)
  | text (chars : String)
  | array (items : List Tree)
  | object (fields : List (String × Tree))
deriving Repr, Inhabited

structure Style where
  ascii : Bool
  numbers : Double.Layout
  itemSeparator : List Char
  keySeparator : List Char
  indent : Option (List Char) := none

namespace Style

def compact : Style where
  ascii := false
  numbers :=
    { positionalFrom := -5, positionalTo := 15, exponentDigits := 1
      infinity := "null", minusInfinity := "null", notANumber := "null" }
  itemSeparator := [',']
  keySeparator := [':']

def wideNumbers : Double.Layout :=
  { Double.plainLayout with
    infinity := "Infinity", minusInfinity := "-Infinity", notANumber := "NaN" }

def spaced : Style where
  ascii := true
  numbers := wideNumbers
  itemSeparator := [',', ' ']
  keySeparator := [':', ' ']

def indented (unit : String) : Style where
  ascii := true
  numbers := wideNumbers
  itemSeparator := [',']
  keySeparator := [':', ' ']
  indent := some unit.toList

end Style

def numberedChar (code : Nat) : List Char :=
  '\\' :: 'u' :: (Text.hexText 4 code).toList

def asciiChar (c : Char) : List Char :=
  if c.toNat < 0x10000 then numberedChar c.toNat
  else
    let offset := c.toNat - 0x10000
    numberedChar (0xD800 + offset / 0x400) ++ numberedChar (0xDC00 + offset % 0x400)

def escapedChar (ascii : Bool) (c : Char) : List Char :=
  if c = '"' then ['\\', '"']
  else if c = '\\' then ['\\', '\\']
  else if c = '\n' then ['\\', 'n']
  else if c = '\r' then ['\\', 'r']
  else if c = '\t' then ['\\', 't']
  else if c.toNat = 8 then ['\\', 'b']
  else if c.toNat = 12 then ['\\', 'f']
  else if c.toNat < 32 || (ascii && 126 < c.toNat) then asciiChar c
  else [c]

def textChars (style : Style) (text : String) : List Char :=
  '"' :: (text.toList.flatMap (escapedChar style.ascii) ++ ['"'])

def newLine (style : Style) (level : Nat) : List Char :=
  match style.indent with
  | some unit => '\n' :: (List.replicate level unit).flatten
  | none => []

def bracketed (style : Style) (level : Nat) (first last : Char) (items : List (List Char)) :
    List Char :=
  if items.isEmpty then [first, last]
  else
    let lead := newLine style (level + 1)
    first :: ((items.map (lead ++ ·)).intersperse style.itemSeparator).flatten
      ++ newLine style level ++ [last]

mutual

-- Assumed: a whole number is written and read whatever its length. A setting of the runtime refuses
-- those of too many digits, by default of more than 4300.
def Tree.chars (style : Style) (level : Nat) : Tree → List Char
  | .null => "null".toList
  | .flag value => if value then "true".toList else "false".toList
  | .whole number => (toString number).toList
  | .number value => (value.textIn style.numbers).toList
  | .text text => textChars style text
  | .array items => bracketed style level '[' ']' (itemChars style (level + 1) items)
  | .object fields => bracketed style level '\x7b' '\x7d' (fieldChars style (level + 1) fields)
termination_by structural tree => tree

def itemChars (style : Style) (level : Nat) : List Tree → List (List Char)
  | [] => []
  | item :: rest => item.chars style level :: itemChars style level rest
termination_by structural items => items

def fieldChars (style : Style) (level : Nat) : List (String × Tree) → List (List Char)
  | [] => []
  | (key, item) :: rest =>
    (textChars style key ++ style.keySeparator ++ item.chars style level)
      :: fieldChars style level rest
termination_by structural fields => fields

end

def Tree.write (style : Style) (tree : Tree) : String :=
  String.ofList (tree.chars style 0)

end FormCompiler.Json
