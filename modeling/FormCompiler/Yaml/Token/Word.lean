import FormCompiler.Yaml.Failure

set_option autoImplicit false

namespace FormCompiler.Yaml.Token

def isWordChar (c : Char) : Bool :=
  ('0' ≤ c && c ≤ '9') || ('A' ≤ c && c ≤ 'Z') || ('a' ≤ c && c ≤ 'z')
    || c == '-' || c == '_'

def failure (activity : Activity) (start : Mark) (problem : Problem) (place : Mark) : Failure :=
  .malformed .tokens (some activity) (some start) problem place

def refuse {α : Type} (activity : Activity) (start : Mark) (what : Expectation)
    (cursor : Cursor) : Attempt α :=
  .error (failure activity start (.expected what cursor.peek?) cursor.mark)

def word (activity : Activity) (start : Mark) (cursor : Cursor) : Attempt (String × Cursor) :=
  let (name, after) := cursor.span isWordChar
  if name.isEmpty then refuse activity start .nameCharacter cursor
  else .ok (String.ofList name, after)

def endsName (next : Option Char) : Bool :=
  endsWord next || (match next with | some c => "?:,]\x7d%@`".toList.contains c | none => true)

def reference (activity : Activity) (kind : String → TokenKind) (cursor : Cursor) :
    Attempt (Token × Cursor) := do
  let start := cursor.mark
  let (name, cursor) ← word activity start cursor.step
  if endsName cursor.peek? then return (⟨kind name, start, cursor.mark⟩, cursor)
  else refuse activity start .nameCharacter cursor

def isUriChar (c : Char) : Bool :=
  isWordChar c || ";/?:@&=+$,_.!~*'()[]".toList.contains c

def escapedBytes (activity : Activity) (start : Mark) :
    List Char → Cursor → Attempt (List UInt8 × Cursor)
  | [], cursor => .ok ([], cursor)
  | _ :: steps, cursor =>
    if cursor.nextIs '%' then
      let digits := cursor.step
      let unfit (next : Option Char) : Bool := !(next.any Text.isHexDigit)
      let complain (found : Option Char) : Attempt (List UInt8 × Cursor) :=
        .error (failure activity start (.expected .uriEscape found) digits.mark)
      if unfit digits.peek? then complain digits.peek?
      else if unfit (digits.ahead? 1) then complain (digits.ahead? 1)
      else do
        let byte := UInt8.ofNat (Text.hexValue (digits.rest.take 2))
        let (bytes, cursor) ← escapedBytes activity start steps (digits.skip 2)
        return (byte :: bytes, cursor)
    else .ok ([], cursor)

-- The characters of a resource name, escapes decoded; `started` tells if some are read already. The
-- characters ahead bound the steps.
def uriChars (inside whole : Activity) (start : Mark) (started : Bool) :
    List Char → Cursor → Attempt (List Char × Cursor)
  | [], cursor => if started then .ok ([], cursor) else refuse whole start .uri cursor
  | _ :: steps, cursor => do
    let (plain, after) := cursor.span isUriChar
    if after.nextIs '%' then
      let (bytes, next) ← escapedBytes inside start after.rest after
      match Text.decodeUtf8 bytes with
      | .error fault => .error (failure inside start (.undecodableEscape fault) after.mark)
      | .ok chars =>
        let (rest, cursor) ← uriChars inside whole start true steps next
        return (plain ++ chars ++ rest, cursor)
    else if plain.isEmpty && !started then refuse whole start .uri after
    else return (plain, after)

def uri (inside whole : Activity) (start : Mark) (cursor : Cursor) :
    Attempt (String × Cursor) := do
  let (chars, cursor) ← uriChars inside whole start false cursor.rest cursor
  return (String.ofList chars, cursor)

def handle (activity : Activity) (start : Mark) (cursor : Cursor) : Attempt (String × Cursor) :=
  if !cursor.nextIs '!' then refuse activity start .tagMark cursor
  else
    let inner := cursor.step
    if inner.nextIs ' ' then .ok ("!", inner)
    else
      let (name, after) := inner.span isWordChar
      if after.nextIs '!' then .ok (String.ofList ('!' :: (name ++ ['!'])), after.step)
      else refuse activity start .tagMark after

def hasHandle (chars : List Char) : Bool :=
  (chars.takeWhile fun c => c != ' ' && !isBreak c).contains '!'

def tag (cursor : Cursor) : Attempt (Token × Cursor) := do
  let start := cursor.mark
  let finish (handle : Option String) (suffix : String) (cursor : Cursor) :
      Attempt (Token × Cursor) :=
    if endsField cursor.peek? then .ok (⟨.tag handle suffix, start, cursor.mark⟩, cursor)
    else refuse .tag start .blank cursor
  let inner := cursor.step
  if inner.nextIs '<' then
    let (suffix, cursor) ← uri .tag .tagText start inner.step
    if cursor.nextIs '>' then finish none suffix cursor.step
    else refuse .tagText start .tagClose cursor
  else if endsWord inner.peek? then finish none "!" inner
  else if hasHandle inner.rest then
    let (handle, cursor) ← handle .tag start cursor
    let (suffix, cursor) ← uri .tag .tagText start cursor
    finish (some handle) suffix cursor
  else
    let (suffix, cursor) ← uri .tag .tagText start inner
    finish (some "!") suffix cursor

def versionNumber (start : Mark) (cursor : Cursor) : Attempt (Nat × Cursor) :=
  let (digits, after) := cursor.span fun c => '0' ≤ c && c ≤ '9'
  if digits.isEmpty then refuse .directive start .digit cursor
  else .ok (digits.foldl (fun value c => value * 10 + (c.toNat - '0'.toNat)) 0, after)

def version (start : Mark) (cursor : Cursor) : Attempt (Directive × Cursor) := do
  let (major, cursor) ← versionNumber start cursor.skipBlanks
  if !cursor.nextIs '.' then refuse .directive start .digitOrPoint cursor
  else
    let (minor, cursor) ← versionNumber start cursor.step
    if endsField cursor.peek? then return (.version major minor, cursor)
    else refuse .directive start .digitOrBlank cursor

def tagDirective (start : Mark) (cursor : Cursor) : Attempt (Directive × Cursor) := do
  let (handle, cursor) ← handle .directive start cursor.skipBlanks
  if !cursor.nextIs ' ' then refuse .directive start .blank cursor
  else
    let (lead, cursor) ← uri .directive .directiveText start cursor.skipBlanks
    if endsField cursor.peek? then return (.tag handle lead, cursor)
    else refuse .directive start .blank cursor

def lineRest (activity : Activity) (start : Mark) (cursor : Cursor) : Attempt Cursor :=
  let cursor := cursor.skipBlanks.skipComment
  if endsLine cursor.peek? then .ok cursor.skipLineBreak
  else refuse activity start .lineEnd cursor

def directive (cursor : Cursor) : Attempt (Token × Cursor) := do
  let start := cursor.mark
  let (name, cursor) ← word .directive start cursor.step
  if !endsField cursor.peek? then refuse .directive start .nameCharacter cursor
  else
    let (content, cursor) ←
      if name = "YAML" then version start cursor
      else if name = "TAG" then tagDirective start cursor
      else .ok (.unknown name, cursor)
    let stop := cursor.mark
    let cursor := match content with
      | .unknown _ => cursor.skipWhile fun c => !isBreak c
      | _ => cursor
    let cursor ← lineRest .directive start cursor
    return (⟨.directive content, start, stop⟩, cursor)

end FormCompiler.Yaml.Token
