import FormCompiler.Calendar.Basic
import FormCompiler.Text.Utf8
import FormCompiler.Yaml.Token

set_option autoImplicit false

namespace FormCompiler

inductive FaultKind where
  | value
  | key
  | index
  | attribute
  | type
  | overflow
  | recursion
  | runtime
  -- A bound of these texts and no fault of a document: they are made of characters, and half of a
  -- surrogate pair is none.
  | unpaired
deriving Repr, DecidableEq

def FaultKind.name : FaultKind → String
  | .value => "ValueError"
  | .key => "KeyError"
  | .index => "IndexError"
  | .attribute => "AttributeError"
  | .type => "TypeError"
  | .overflow => "OverflowError"
  | .recursion => "RecursionError"
  | .runtime => "RuntimeError"
  | .unpaired => "Unpaired"

namespace Yaml

inductive NodeShape where
  | scalar
  | sequence
  | mapping
deriving Repr, DecidableEq

def NodeShape.name : NodeShape → String
  | .scalar => "scalar"
  | .sequence => "sequence"
  | .mapping => "mapping"

inductive Layer where
  | tokens
  | events
  | nodes
  | values
deriving Repr, DecidableEq

inductive Activity where
  | nextToken
  | simpleKey
  | directive
  | alias
  | anchor
  | tag
  | tagText
  | directiveText
  | blockScalar
  | doubleQuoted
  | quoted
  | node
  | blockNode
  | flowNode
  | blockCollection
  | blockMapping
  | flowSequence
  | flowMapping
  | duplicateAnchor (name : String)
  | singleDocument
  | mapping
  | orderedMap
  | pairs
deriving Repr, DecidableEq

def Activity.text : Activity → String
  | .nextToken => "while scanning for the next token"
  | .simpleKey => "while scanning a simple key"
  | .directive => "while scanning a directive"
  | .alias => "while scanning an alias"
  | .anchor => "while scanning an anchor"
  | .tag => "while scanning a tag"
  | .tagText => "while parsing a tag"
  | .directiveText => "while parsing a directive"
  | .blockScalar => "while scanning a block scalar"
  | .doubleQuoted => "while scanning a double-quoted scalar"
  | .quoted => "while scanning a quoted scalar"
  | .node => "while parsing a node"
  | .blockNode => "while parsing a block node"
  | .flowNode => "while parsing a flow node"
  | .blockCollection => "while parsing a block collection"
  | .blockMapping => "while parsing a block mapping"
  | .flowSequence => "while parsing a flow sequence"
  | .flowMapping => "while parsing a flow mapping"
  | .duplicateAnchor name => "found duplicate anchor " ++ Text.quoted name ++ "; first occurrence"
  | .singleDocument => "expected a single document in the stream"
  | .mapping => "while constructing a mapping"
  | .orderedMap => "while constructing an ordered map"
  | .pairs => "while constructing pairs"

inductive Expectation where
  | nameCharacter
  | digit
  | digitOrPoint
  | digitOrBlank
  | blank
  | lineEnd
  | tagClose
  | tagMark
  | uri
  | uriEscape
  | blockIndicator
  | escapeDigits (count : Nat)
deriving Repr, DecidableEq

def Expectation.text : Expectation → String
  | .nameCharacter => "alphabetic or numeric character"
  | .digit => "a digit"
  | .digitOrPoint => "a digit or '.'"
  | .digitOrBlank => "a digit or ' '"
  | .blank => "' '"
  | .lineEnd => "a comment or a line break"
  | .tagClose => "'>'"
  | .tagMark => "'!'"
  | .uri => "URI"
  | .uriEscape => "URI escape sequence of 2 hexadecimal numbers"
  | .blockIndicator => "chomping or indentation indicators"
  | .escapeDigits count => s!"escape sequence of {count} hexadecimal numbers"

inductive Problem where
  | noTokenStart (found : Option Char)
  | keyWithoutValue
  | entryNotAllowed
  | keyNotAllowed
  | valueNotAllowed
  | expected (what : Expectation) (found : Option Char)
  | zeroIndentation
  | unknownEscape (found : Option Char)
  | undecodableEscape (fault : Text.Utf8Fault)
  | endInsideQuotes
  | separatorInsideQuotes
  | noDocumentStart (found : TokenKind)
  | noNode (found : TokenKind)
  | noBlockEnd (found : TokenKind)
  | noFlowItemEnd (closing found : TokenKind)
  | duplicateVersion
  | unsupportedVersion
  | duplicateHandle (handle : String)
  | undefinedHandle (handle : String)
  | undefinedAlias (name : String)
  | secondOccurrence
  | anotherDocument
  | wrongShape (expected found : NodeShape)
  | notMergeable (found : NodeShape)
  | notMergeableItem (found : NodeShape)
  | unusableKey
  | noItemSequence (found : NodeShape)
  | noItemMapping (found : NodeShape)
  | notOneItem (count : Nat)
  | notAscii (chars : String)
  | notBase64 (cause : String)
  | unknownTag (tag : String)
deriving Repr

def notAsciiText (chars : List Char) : String :=
  let before := chars.takeWhile fun c => c.toNat < 128
  let run := (chars.drop before.length).takeWhile fun c => 128 ≤ c.toNat
  let first := before.length
  let place :=
    match run with
    | [c] =>
      let code :=
        if c.toNat < 256 then "\\x" ++ Text.hexText 2 c.toNat
        else if c.toNat < 65536 then "\\u" ++ Text.hexText 4 c.toNat
        else "\\U" ++ Text.hexText 8 c.toNat
      s!"character '{code}' in position {first}"
    | _ => s!"characters in position {first}-{first + run.length - 1}"
  s!"'ascii' codec can't encode {place}: ordinal not in range(128)"

def Problem.text : Problem → String
  | .noTokenStart found =>
    "found character " ++ quotedChar found ++ " that cannot start any token"
  | .keyWithoutValue => "could not find expected ':'"
  | .entryNotAllowed => "sequence entries are not allowed here"
  | .keyNotAllowed => "mapping keys are not allowed here"
  | .valueNotAllowed => "mapping values are not allowed here"
  | .expected what found => "expected " ++ what.text ++ ", but found " ++ quotedChar found
  | .zeroIndentation => "expected indentation indicator in the range 1-9, but found 0"
  | .unknownEscape found => "found unknown escape character " ++ quotedChar found
  | .undecodableEscape fault => fault.message
  | .endInsideQuotes => "found unexpected end of stream"
  | .separatorInsideQuotes => "found unexpected document separator"
  | .noDocumentStart found =>
    "expected '<document start>', but found " ++ Text.quoted found.name
  | .noNode found => "expected the node content, but found " ++ Text.quoted found.name
  | .noBlockEnd found => "expected <block end>, but found " ++ Text.quoted found.name
  | .noFlowItemEnd closing found =>
    "expected ',' or '" ++ closing.name ++ "', but got " ++ Text.quoted found.name
  | .duplicateVersion => "found duplicate YAML directive"
  | .unsupportedVersion => "found incompatible YAML document (version 1.* is required)"
  | .duplicateHandle handle => "duplicate tag handle " ++ Text.quoted handle
  | .undefinedHandle handle => "found undefined tag handle " ++ Text.quoted handle
  | .undefinedAlias name => "found undefined alias " ++ Text.quoted name
  | .secondOccurrence => "second occurrence"
  | .anotherDocument => "but found another document"
  | .wrongShape wanted found => s!"expected a {wanted.name} node, but found {found.name}"
  | .notMergeable found =>
    s!"expected a mapping or list of mappings for merging, but found {found.name}"
  | .notMergeableItem found => s!"expected a mapping for merging, but found {found.name}"
  | .unusableKey => "found unhashable key"
  | .noItemSequence found => s!"expected a sequence, but found {found.name}"
  | .noItemMapping found => s!"expected a mapping of length 1, but found {found.name}"
  | .notOneItem count => s!"expected a single mapping item, but found {count} items"
  | .notAscii chars =>
    "failed to convert base64 data into ascii: " ++ notAsciiText chars.toList
  | .notBase64 cause => "failed to decode base64 data: " ++ cause
  | .unknownTag tag =>
    "could not determine a constructor for the tag " ++ Text.quoted tag

inductive ContentFault where
  | emptyNumber
  | notWhole (base : Nat) (chars : String)
  | notNumber (chars : String)
  | notFlag (chars : String)
  | notTime
  | timeOfMapping
  | partTooLarge
  | noSuchCharacter (code : Nat)
  | unpaired (code : Nat)
  | outOfRange (fault : Calendar.RangeFault)
  | offsetTooLarge (span : Int)
  | endlessText
deriving Repr

namespace ContentFault

def shownLength : Nat := 200

def kind : ContentFault → FaultKind
  | .emptyNumber => .index
  | .notFlag _ => .key
  | .notTime => .attribute
  | .timeOfMapping => .type
  | .partTooLarge => .overflow
  | .endlessText => .recursion
  | .unpaired _ => .unpaired
  | .noSuchCharacter code => if Nat.pow 2 31 ≤ code then .overflow else .value
  | .notWhole .. | .notNumber _ | .outOfRange _ | .offsetTooLarge _ => .value

def message : ContentFault → String
  | .emptyNumber => "string index out of range"
  | .notWhole base chars =>
    s!"invalid literal for int() with base {base}: "
      ++ String.ofList ((Text.quotedChars chars.toList).take shownLength)
  | .notNumber chars => "could not convert string to float: " ++ Text.quoted chars
  | .notFlag chars => Text.quoted chars
  | .notTime => "'NoneType' object has no attribute 'groupdict'"
  | .timeOfMapping => "expected string or bytes-like object, got 'list'"
  | .partTooLarge => "int too large to convert to float"
  | .endlessText => "maximum recursion depth exceeded"
  | .noSuchCharacter code =>
    if Nat.pow 2 31 ≤ code then "Python int too large to convert to C int"
    else "chr() arg not in range(0x110000)"
  | .unpaired code => "half of a surrogate pair: " ++ Text.hexText 4 code
  | .outOfRange fault => fault.message
  | .offsetTooLarge span =>
    "offset must be a timedelta strictly between -timedelta(hours=24) and timedelta(hours=24), not "
      ++ spanText span ++ "."

end ContentFault

inductive Failure where
  | unreadable (found : Char) (position : Nat)
  | malformed (layer : Layer) (context : Option Activity) (contextPlace : Option Mark)
      (problem : Problem) (place : Mark)
  | content (fault : ContentFault)
  | exhausted
deriving Repr

def Mark.snippet (mark : Mark) (source : Array Char) : String :=
  let onLine (c : Char) : Bool := !isBreak c
  let before :=
    ((source.extract (mark.index - 37) mark.index).toList.reverse.takeWhile onLine).reverse
  let after := (source.extract mark.index (mark.index + 37)).toList.takeWhile onLine
  let dots := " ... "
  let (head, before) :=
    if before.length = 37 then (dots, before.drop 5) else ("", before)
  let (tail, after) :=
    if after.length = 37 then (dots, after.take 32) else ("", after)
  "    " ++ head ++ String.ofList (before ++ after) ++ tail ++ "\n"
    ++ String.ofList (List.replicate (4 + before.length + head.length) ' ') ++ "^"

def Mark.text (mark : Mark) (source : Array Char) : String :=
  s!"  in \"<unicode string>\", line {mark.line + 1}, column {mark.column + 1}:\n"
    ++ mark.snippet source

namespace Failure

def text (failure : Failure) (source : Array Char) : String :=
  match failure with
  | .unreadable found position =>
    let code := Text.hexText 4 found.toNat
    s!"unacceptable character #x{code}: special characters are not allowed\n"
      ++ s!"  in \"<unicode string>\", position {position}"
  | .malformed _ context contextPlace problem place =>
    let contextLines := match context with | some activity => [activity.text] | none => []
    let contextPlaces :=
      match contextPlace with
      | some mark =>
        if mark.line = place.line ∧ mark.column = place.column then [] else [mark.text source]
      | none => []
    "\n".intercalate (contextLines ++ contextPlaces ++ [problem.text, place.text source])
  | .content fault => fault.message
  | .exhausted => ""

def place? : Failure → Option Mark
  | .malformed _ _ _ _ place => some place
  | .unreadable .. | .content _ | .exhausted => none

end Failure

abbrev Attempt := Except Failure

end Yaml

end FormCompiler
