import FormCompiler.Entries
import FormCompiler.Yaml.Token.Quoted
import FormCompiler.Yaml.Token.Plain
import FormCompiler.Yaml.Token.Block

set_option autoImplicit false

namespace FormCompiler.Yaml

structure Stream (α : Type) where
  items : List α
  stop : Failure

-- A place where a key may start: the number of its first token, and whether only a key may stand
-- there.
structure PendingKey where
  number : Nat
  required : Bool
  start : Mark

structure TokenList where
  reversed : List Token := []
  size : Nat := 0

namespace TokenList

def push (tokens : TokenList) (token : Token) : TokenList :=
  ⟨token :: tokens.reversed, tokens.size + 1⟩

def insert (tokens : TokenList) (number : Nat) (token : Token) : TokenList :=
  ⟨tokens.reversed.insertIdx (tokens.size - number) token, tokens.size + 1⟩

def last? (tokens : TokenList) : Option Token :=
  tokens.reversed.head?

def toList (tokens : TokenList) : List Token :=
  tokens.reversed.reverse

end TokenList

structure Lexer where
  cursor : Cursor
  tokens : TokenList
  indent : Int := -1
  outerIndents : List Int := []
  flowDepth : Nat := 0
  keyAllowed : Bool := true
  pending : Entries Nat PendingKey := []

namespace Lexer

def keyReach : Nat := 1024

def start (chars : List Char) : Lexer :=
  let cursor : Cursor := { rest := chars }
  { cursor, tokens := TokenList.push {} ⟨.streamStart, cursor.mark, cursor.mark⟩ }

def push (lexer : Lexer) (kind : TokenKind) (start stop : Mark) : Lexer :=
  { lexer with tokens := lexer.tokens.push ⟨kind, start, stop⟩ }

def pushEmpty (lexer : Lexer) (kind : TokenKind) : Lexer :=
  lexer.push kind lexer.cursor.mark lexer.cursor.mark

def pushOver (lexer : Lexer) (count : Nat) (kind : TokenKind) : Lexer :=
  let start := lexer.cursor.mark
  let cursor := lexer.cursor.skip count
  { lexer with cursor, tokens := lexer.tokens.push ⟨kind, start, cursor.mark⟩ }

def pushRead (lexer : Lexer) (read : Token × Cursor) : Lexer :=
  { lexer with cursor := read.2, tokens := lexer.tokens.push read.1 }

def refuse {α : Type} (lexer : Lexer) (problem : Problem) : Attempt α :=
  .error (.malformed .tokens none none problem lexer.cursor.mark)

def keyMissing {α : Type} (lexer : Lexer) (key : PendingKey) : Attempt α :=
  .error (Token.failure .simpleKey key.start .keyWithoutValue lexer.cursor.mark)

def isStale (lexer : Lexer) (key : PendingKey) : Bool :=
  key.start.line != lexer.cursor.mark.line || keyReach < lexer.cursor.mark.index - key.start.index

def dropStale (lexer : Lexer) : Attempt Lexer :=
  match lexer.pending.find? fun entry => lexer.isStale entry.2 && entry.2.required with
  | some (_, key) => lexer.keyMissing key
  | none =>
    .ok { lexer with pending := lexer.pending.filter fun entry => !lexer.isStale entry.2 }

def dropPending (lexer : Lexer) : Attempt Lexer :=
  match Entries.get? lexer.pending lexer.flowDepth with
  | some key =>
    if key.required then lexer.keyMissing key
    else .ok { lexer with pending := Entries.erase lexer.pending lexer.flowDepth }
  | none => .ok lexer

def notePending (lexer : Lexer) : Attempt Lexer :=
  if lexer.keyAllowed then do
    let lexer ← lexer.dropPending
    let key : PendingKey :=
      { number := lexer.tokens.size
        required := lexer.flowDepth == 0 && lexer.indent == lexer.cursor.column
        start := lexer.cursor.mark }
    return { lexer with pending := Entries.set lexer.pending lexer.flowDepth key }
  else .ok lexer

def closeBlocks (column : Int) (mark : Mark) :
    List Int → Int → TokenList → List Int × Int × TokenList
  | [], indent, tokens => ([], indent, tokens)
  | outer :: rest, indent, tokens =>
    if column < indent then
      closeBlocks column mark rest outer (tokens.push ⟨.blockEnd, mark, mark⟩)
    else (outer :: rest, indent, tokens)

def unwind (lexer : Lexer) (column : Int) : Lexer :=
  if lexer.flowDepth != 0 then lexer
  else
    let (outerIndents, indent, tokens) :=
      closeBlocks column lexer.cursor.mark lexer.outerIndents lexer.indent lexer.tokens
    { lexer with outerIndents, indent, tokens }

def indentTo (lexer : Lexer) (column : Int) : Lexer :=
  { lexer with outerIndents := lexer.indent :: lexer.outerIndents, indent := column }

def openBlock (lexer : Lexer) (kind : TokenKind) : Lexer :=
  if lexer.indent < lexer.cursor.column then
    (lexer.indentTo lexer.cursor.column).pushEmpty kind
  else lexer

-- Moves over blanks, comments and line ends. Outside flow collections a new line may start with a
-- key. The characters ahead bound the steps.
def skipToToken : List Char → Lexer → Lexer
  | [], lexer => lexer
  | _ :: steps, lexer =>
    let cursor := lexer.cursor.skipBlanks.skipComment
    match cursor.lineBreak? with
    | some (_, cursor) =>
      skipToToken steps
        { lexer with cursor, keyAllowed := lexer.keyAllowed || lexer.flowDepth == 0 }
    | none => { lexer with cursor }

def skipByteOrderMark (cursor : Cursor) : Cursor :=
  if cursor.mark.index = 0 && cursor.peek?.any (fun c => c.toNat == 0xFEFF) then cursor.step
  else cursor

def leaveBlocks (lexer : Lexer) : Attempt Lexer := do
  let lexer ← (lexer.unwind (-1)).dropPending
  return { lexer with keyAllowed := false }

def fetchStreamEnd (lexer : Lexer) : Attempt Lexer := do
  let lexer ← lexer.leaveBlocks
  return { lexer with pending := [] }.pushEmpty .streamEnd

def fetchDirective (lexer : Lexer) : Attempt Lexer := do
  let lexer ← lexer.leaveBlocks
  return lexer.pushRead (← Token.directive lexer.cursor)

def fetchSeparator (kind : TokenKind) (lexer : Lexer) : Attempt Lexer := do
  let lexer ← lexer.leaveBlocks
  return lexer.pushOver 3 kind

def fetchFlowStart (kind : TokenKind) (lexer : Lexer) : Attempt Lexer := do
  let lexer ← lexer.notePending
  return { lexer with flowDepth := lexer.flowDepth + 1, keyAllowed := true }.pushOver 1 kind

def fetchFlowEnd (kind : TokenKind) (lexer : Lexer) : Attempt Lexer := do
  let lexer ← lexer.dropPending
  return { lexer with flowDepth := lexer.flowDepth - 1, keyAllowed := false }.pushOver 1 kind

def fetchFlowEntry (lexer : Lexer) : Attempt Lexer := do
  let lexer ← { lexer with keyAllowed := true }.dropPending
  return lexer.pushOver 1 .flowEntry

def enterBlock (lexer : Lexer) (kind : TokenKind) (problem : Problem) : Attempt Lexer :=
  if lexer.flowDepth != 0 then .ok lexer
  else if lexer.keyAllowed then .ok (lexer.openBlock kind)
  else lexer.refuse problem

def fetchBlockEntry (lexer : Lexer) : Attempt Lexer := do
  let lexer ← lexer.enterBlock .blockSequenceStart .entryNotAllowed
  let lexer ← { lexer with keyAllowed := true }.dropPending
  return lexer.pushOver 1 .blockEntry

def fetchKey (lexer : Lexer) : Attempt Lexer := do
  let lexer ← lexer.enterBlock .blockMappingStart .keyNotAllowed
  let lexer ← { lexer with keyAllowed := lexer.flowDepth == 0 }.dropPending
  return lexer.pushOver 1 .key

-- Marks what stands at a pending place as a key, and starts a block mapping with it if it is
-- indented further than the collection around.
def resolveKey (lexer : Lexer) (key : PendingKey) : Lexer :=
  let insert (kind : TokenKind) (tokens : TokenList) : TokenList :=
    tokens.insert key.number ⟨kind, key.start, key.start⟩
  let lexer :=
    { lexer with
      pending := Entries.erase lexer.pending lexer.flowDepth
      tokens := insert .key lexer.tokens
      keyAllowed := false }
  if lexer.flowDepth == 0 && lexer.indent < (key.start.column : Int) then
    -- The number of the key's place is now that of the key's mark, and the block starts before it.
    let lexer := lexer.indentTo key.start.column
    { lexer with tokens := insert .blockMappingStart lexer.tokens }
  else lexer

def fetchValue (lexer : Lexer) : Attempt Lexer := do
  match Entries.get? lexer.pending lexer.flowDepth with
  | some key => return (lexer.resolveKey key).pushOver 1 .value
  | none =>
    let lexer ← lexer.enterBlock .blockMappingStart .valueNotAllowed
    let lexer ← { lexer with keyAllowed := lexer.flowDepth == 0 }.dropPending
    return lexer.pushOver 1 .value

def fetchKeyPart (read : Cursor → Attempt (Token × Cursor)) (lexer : Lexer) : Attempt Lexer := do
  let lexer ← lexer.notePending
  return { lexer with keyAllowed := false }.pushRead (← read lexer.cursor)

def fetchBlockScalar (folded : Bool) (lexer : Lexer) : Attempt Lexer := do
  let lexer ← { lexer with keyAllowed := true }.dropPending
  return lexer.pushRead (← Token.block folded lexer.indent lexer.cursor)

def fetchPlain (lexer : Lexer) : Attempt Lexer := do
  let lexer ← lexer.notePending
  let (token, cursor, crossesLine) :=
    Token.plain (lexer.flowDepth != 0) (lexer.indent + 1) lexer.cursor
  return { lexer with keyAllowed := crossesLine }.pushRead (token, cursor)

def fetchHere (lexer : Lexer) : Attempt Lexer :=
  let cursor := lexer.cursor
  let inFlow := lexer.flowDepth != 0
  let wordEnds := endsWord (cursor.ahead? 1)
  match cursor.peek? with
  | none => lexer.fetchStreamEnd
  | some c =>
    if c = '%' && cursor.column = 0 then lexer.fetchDirective
    else if cursor.column = 0 && cursor.atTriple '-' then lexer.fetchSeparator .documentStart
    else if cursor.column = 0 && cursor.atTriple '.' then lexer.fetchSeparator .documentEnd
    else if c = '[' then lexer.fetchFlowStart .flowSequenceStart
    else if c = '\x7b' then lexer.fetchFlowStart .flowMappingStart
    else if c = ']' then lexer.fetchFlowEnd .flowSequenceEnd
    else if c = '\x7d' then lexer.fetchFlowEnd .flowMappingEnd
    else if c = ',' then lexer.fetchFlowEntry
    else if c = '-' && wordEnds then lexer.fetchBlockEntry
    else if c = '?' && (inFlow || wordEnds) then lexer.fetchKey
    else if c = ':' && (inFlow || wordEnds) then lexer.fetchValue
    else if c = '*' then lexer.fetchKeyPart (Token.reference .alias .alias)
    else if c = '&' then lexer.fetchKeyPart (Token.reference .anchor .anchor)
    else if c = '!' then lexer.fetchKeyPart Token.tag
    else if c = '|' && !inFlow then lexer.fetchBlockScalar false
    else if c = '>' && !inFlow then lexer.fetchBlockScalar true
    else if c = '\'' then lexer.fetchKeyPart (Token.quoted false)
    else if c = '"' then lexer.fetchKeyPart (Token.quoted true)
    else if Token.startsPlain inFlow cursor then lexer.fetchPlain
    else
      .error (.malformed .tokens (some .nextToken) none (.noTokenStart (some c)) cursor.mark)

def fetch (lexer : Lexer) : Attempt Lexer := do
  let lexer := { lexer with cursor := skipByteOrderMark lexer.cursor }
  -- A place goes stale by what is skipped before a token as well as by the token itself.
  let lexer ← (skipToToken lexer.cursor.rest lexer).dropStale
  let lexer ← (lexer.unwind lexer.cursor.column).fetchHere
  lexer.dropStale

def settled (lexer : Lexer) : Nat :=
  lexer.pending.foldl (fun least entry => min least entry.2.number) lexer.tokens.size

def isDone (lexer : Lexer) : Bool :=
  match lexer.tokens.last? with
  | some ⟨.streamEnd, _, _⟩ => true
  | _ => false

def run : Nat → Lexer → Stream Token
  | 0, lexer => ⟨lexer.tokens.toList.take lexer.settled, .exhausted⟩
  | steps + 1, lexer =>
    if lexer.isDone then ⟨lexer.tokens.toList, .exhausted⟩
    else
      match lexer.fetch with
      | .ok next => run steps next
      | .error failure => ⟨lexer.tokens.toList.take lexer.settled, failure⟩

end Lexer

def Stream.ofChars (chars : List Char) : Stream Token :=
  (Lexer.start chars).run (chars.length + 2)

end FormCompiler.Yaml
