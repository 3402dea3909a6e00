import FormCompiler.Number.Read

set_option autoImplicit false

namespace FormCompiler.Number.Loose

def dropPlus? : List Char → Option (List Char)
  | '+' :: '-' :: _ => none
  | '+' :: rest => some rest
  | chars => some chars

-- What follows zeros and underscores, given the last of these. It starts with a digit or a minus
-- sign; where only a point follows, or nothing, the last character stays.
def afterZeros? (last : Char) : List Char → Option (List Char)
  | [] => some [last]
  | c :: rest =>
    if c = '0' || c = '_' then afterZeros? c rest
    else if c = '.' then some (last :: c :: rest)
    else if c.isDigit || c = '-' then some (c :: rest)
    else none

def dropZeros? : List Char → Option (List Char)
  | '0' :: rest => afterZeros? '0' rest
  | c :: rest => if c.isDigit || c = '-' then some (c :: rest) else none
  | [] => none

def dropFraction (chars : List Char) : List Char :=
  match chars.span (· != '.') with
  | (whole, '.' :: fraction) =>
    if !fraction.isEmpty && fraction.all (· == '0') then whole else chars
  | _ => chars

def singlyMarked : List Char → Bool
  | ['_'] => false
  | '_' :: '_' :: _ => false
  | _ :: rest => singlyMarked rest
  | [] => true

def dropMarks? (chars : List Char) : Option (List Char) :=
  if chars.head? != some '_' && singlyMarked chars then some (chars.filter (· != '_')) else none

def plain? (chars : List Char) : Option Int :=
  let (negative, digits) :=
    match chars with
    | '-' :: rest => (true, rest)
    | chars => (false, chars)
  if digits.isEmpty || !digits.all Char.isDigit then none
  else if digits.head? == some '0' && digits != ['0'] then none
  else some (Double.signed negative (digits.foldl (fun n c => n * 10 + (c.toNat - '0'.toNat)) 0))

def whole? (chars : List Char) : Option Int := do
  let chars ← dropPlus? (Text.trimOff Text.isSpace chars)
  let chars ← dropZeros? chars
  plain? (← dropMarks? (dropFraction chars))

end FormCompiler.Number.Loose
