import FormCompiler.Yaml.Token.Stream

set_option autoImplicit false

namespace FormCompiler.Yaml

inductive EventBody where
  | streamStart
  | streamEnd
  | documentStart
  | documentEnd
  | alias (name : String)
  | scalar (anchor tag : Option String) (resolvable : Bool) (chars : String)
  | sequenceStart (anchor tag : Option String)
  | mappingStart (anchor tag : Option String)
  | sequenceEnd
  | mappingEnd
deriving Repr

structure Event where
  body : EventBody
  start : Mark
deriving Repr

/-- What is to be read next. -/
inductive Goal where
  | streamStart
  | firstDocument
  | documentStart
  | documentContent
  | documentEnd
  | blockNode
  | blockSequenceFirst
  | blockSequenceEntry
  | indentlessEntry
  | blockMappingFirst
  | blockMappingKey
  | blockMappingValue
  | flowSequenceFirst
  | flowSequenceEntry
  | pairKey
  | pairValue
  | pairEnd
  | flowMappingFirst
  | flowMappingKey
  | flowMappingValue
  | flowMappingEmptyValue
  | done
deriving Repr, DecidableEq

structure GrammarState where
  tokens : Stream Token
  waiting : List Goal := []
  openings : List Mark := []
  handles : Entries String String := []

abbrev Grammar := StateT GrammarState Attempt

namespace Grammar

def defaultHandles : Entries String String :=
  [("!", "!"), ("!!", "tag:yaml.org,2002:")]

def peek : Grammar Token := do
  let { tokens, .. } ← get
  match tokens.items with
  | token :: _ => return token
  | [] => throw tokens.stop

def take : Grammar Token := do
  let token ← peek
  modify fun state =>
    { state with tokens := { state.tokens with items := state.tokens.items.tail } }
  return token

def nextIs (test : TokenKind → Bool) : Grammar Bool :=
  return test (← peek).kind

def wait (goal : Goal) : Grammar Unit :=
  modify fun state => { state with waiting := goal :: state.waiting }

def resume : Grammar Goal := do
  match (← get).waiting with
  | goal :: rest =>
    modify fun state => { state with waiting := rest }
    return goal
  | [] => return .done

def openCollection (start : Mark) : Grammar Unit :=
  modify fun state => { state with openings := start :: state.openings }

def closeCollection : Grammar Unit :=
  modify fun state => { state with openings := state.openings.tail }

def opening : Grammar Mark :=
  return (← get).openings.headD ⟨0, 0, 0⟩

def refuse {α : Type} (context : Option (Activity × Mark)) (problem : Problem) (place : Mark) :
    Grammar α :=
  throw (.malformed .events (context.map Prod.fst) (context.map Prod.snd) problem place)

def isOneOf (kinds : List TokenKind) (kind : TokenKind) : Bool :=
  kinds.any fun other => other.name == kind.name

def emptyScalar (place : Mark) (next : Goal) : Grammar (Event × Goal) :=
  return (⟨.scalar none none true "", place⟩, next)

structure NodeLead where
  anchor : Option String := none
  tag : Option (Option String × String × Mark) := none
  start : Option Mark := none

def takeAnchor (lead : NodeLead) : Grammar NodeLead := do
  let token ← peek
  match token.kind with
  | .anchor name =>
    let _ ← take
    return { lead with anchor := some name, start := lead.start.or (some token.start) }
  | _ => return lead

def takeTag (lead : NodeLead) : Grammar NodeLead := do
  let token ← peek
  match token.kind with
  | .tag handle suffix =>
    let _ ← take
    return { lead with
      tag := some (handle, suffix, token.start), start := lead.start.or (some token.start) }
  | _ => return lead

def nodeLead : Grammar NodeLead := do
  let lead ← takeAnchor {}
  if lead.anchor.isSome then takeTag lead
  else
    let lead ← takeTag lead
    if lead.tag.isSome then takeAnchor lead else return lead

def fullTag (lead : NodeLead) : Grammar (Option String) := do
  match lead.tag with
  | none => return none
  | some (none, suffix, _) => return some suffix
  | some (some handle, suffix, place) =>
    match Entries.get? (← get).handles handle with
    | some base => return some (base ++ suffix)
    | none => refuse (some (.node, lead.start.getD place)) (.undefinedHandle handle) place

-- A node, which may be an alias. Block collections stand only in block context, and a sequence
-- without indentation only under a key.
def node (inBlock indentless : Bool) : Grammar (Event × Goal) := do
  let token ← peek
  match token.kind with
  | .alias name =>
    let _ ← take
    return (⟨.alias name, token.start⟩, ← resume)
  | _ =>
    let lead ← nodeLead
    let tag ← fullTag lead
    let token ← peek
    let start := lead.start.getD token.start
    -- A lone exclamation mark leaves the type to the characters, even to quoted ones.
    let isNeutral := tag == some "!"
    let given := if isNeutral then none else tag
    match token.kind, inBlock with
    | .blockEntry, _ =>
      if indentless then return (⟨.sequenceStart lead.anchor given, start⟩, .indentlessEntry)
      else missing lead tag given start token
    | .scalar chars plain, _ =>
      let _ ← take
      let resolvable := (plain && tag.isNone) || isNeutral
      return (⟨.scalar lead.anchor given resolvable chars, start⟩, ← resume)
    | .flowSequenceStart, _ =>
      return (⟨.sequenceStart lead.anchor given, start⟩, .flowSequenceFirst)
    | .flowMappingStart, _ =>
      return (⟨.mappingStart lead.anchor given, start⟩, .flowMappingFirst)
    | .blockSequenceStart, true =>
      return (⟨.sequenceStart lead.anchor given, start⟩, .blockSequenceFirst)
    | .blockMappingStart, true =>
      return (⟨.mappingStart lead.anchor given, start⟩, .blockMappingFirst)
    | _, _ => missing lead tag given start token
where
  missing (lead : NodeLead) (tag given : Option String) (start : Mark) (token : Token) :
      Grammar (Event × Goal) := do
    if lead.anchor.isSome || tag.isSome then
      return (⟨.scalar lead.anchor given given.isNone "", start⟩, ← resume)
    else
      refuse (some (if inBlock then .blockNode else .flowNode, start)) (.noNode token.kind)
        token.start

def nodeUnless (stops : List TokenKind) (place : Mark) (next : Goal)
    (read : Grammar (Event × Goal)) : Grammar (Event × Goal) := do
  if ← nextIs (isOneOf stops) then emptyScalar place next
  else
    wait next
    read

def endCollection (body : EventBody) : Grammar (Event × Goal) := do
  let token ← take
  let next ← resume
  closeCollection
  return (⟨body, token.start⟩, next)

def directives : Nat → Bool → Entries String String → Grammar (Entries String String)
  | 0, _, _ => throw .exhausted
  | steps + 1, versionSeen, handles => do
    let token ← peek
    match token.kind with
    | .directive (.version major _) =>
      let _ ← take
      if versionSeen then refuse none .duplicateVersion token.start
      else if major != 1 then refuse none .unsupportedVersion token.start
      else directives steps true handles
    | .directive (.tag handle lead) =>
      let _ ← take
      if Entries.contains handles handle then refuse none (.duplicateHandle handle) token.start
      else directives steps versionSeen (Entries.set handles handle lead)
    | .directive (.unknown _) =>
      let _ ← take
      directives steps versionSeen handles
    | _ => return handles

def skipDocumentEnds : Nat → Grammar Unit
  | 0 => throw .exhausted
  | steps + 1 => do
    if ← nextIs (isOneOf [.documentEnd]) then
      let _ ← take
      skipDocumentEnds steps

def documentStart : Grammar (Event × Goal) := do
  let room := (← get).tokens.items.length + 1
  skipDocumentEnds room
  let first ← peek
  match first.kind with
  | .streamEnd =>
    let _ ← take
    return (⟨.streamEnd, first.start⟩, .done)
  | _ =>
    let handles ← directives room false []
    let token ← peek
    match token.kind with
    | .documentStart =>
      let _ ← take
      modify fun state =>
        { state with
          handles := defaultHandles.foldl (fun known entry =>
            if Entries.contains known entry.1 then known else known ++ [entry]) handles }
      wait .documentEnd
      return (⟨.documentStart, first.start⟩, .documentContent)
    | found => refuse none (.noDocumentStart found) token.start

def blockSequenceEntry : Grammar (Event × Goal) := do
  let token ← peek
  match token.kind with
  | .blockEntry =>
    let _ ← take
    nodeUnless [.blockEntry, .blockEnd] token.stop .blockSequenceEntry (node true false)
  | .blockEnd => endCollection .sequenceEnd
  | found => refuse (some (.blockCollection, ← opening)) (.noBlockEnd found) token.start

def indentlessEntry : Grammar (Event × Goal) := do
  let token ← peek
  match token.kind with
  | .blockEntry =>
    let _ ← take
    nodeUnless [.blockEntry, .key, .value, .blockEnd] token.stop .indentlessEntry (node true false)
  | _ => return (⟨.sequenceEnd, token.start⟩, ← resume)

def blockMappingKey : Grammar (Event × Goal) := do
  let token ← peek
  match token.kind with
  | .key =>
    let _ ← take
    nodeUnless [.key, .value, .blockEnd] token.stop .blockMappingValue (node true true)
  | .blockEnd => endCollection .mappingEnd
  | found => refuse (some (.blockMapping, ← opening)) (.noBlockEnd found) token.start

def blockMappingValue : Grammar (Event × Goal) := do
  let token ← peek
  match token.kind with
  | .value =>
    let _ ← take
    nodeUnless [.key, .value, .blockEnd] token.stop .blockMappingKey (node true true)
  | _ => emptyScalar token.start .blockMappingKey

def itemSeparator (activity : Activity) (closing : TokenKind) : Grammar Unit := do
  let token ← peek
  match token.kind with
  | .flowEntry =>
    let _ ← take
  | found => refuse (some (activity, ← opening)) (.noFlowItemEnd closing found) token.start

def flowSequenceEntry (first : Bool) : Grammar (Event × Goal) := do
  if ← nextIs (isOneOf [.flowSequenceEnd]) then endCollection .sequenceEnd
  else
    if !first then itemSeparator .flowSequence .flowSequenceEnd
    let token ← peek
    match token.kind with
    | .key => return (⟨.mappingStart none none, token.start⟩, .pairKey)
    | .flowSequenceEnd => endCollection .sequenceEnd
    | _ =>
      wait .flowSequenceEntry
      node false false

def flowMappingKey (first : Bool) : Grammar (Event × Goal) := do
  if ← nextIs (isOneOf [.flowMappingEnd]) then endCollection .mappingEnd
  else
    if !first then itemSeparator .flowMapping .flowMappingEnd
    let token ← peek
    match token.kind with
    | .key =>
      let _ ← take
      nodeUnless [.value, .flowEntry, .flowMappingEnd] token.stop .flowMappingValue
        (node false false)
    | .flowMappingEnd => endCollection .mappingEnd
    | _ =>
      wait .flowMappingEmptyValue
      node false false

def flowValue (closing : TokenKind) (next : Goal) : Grammar (Event × Goal) := do
  let token ← peek
  match token.kind with
  | .value =>
    let _ ← take
    nodeUnless [.flowEntry, closing] token.stop next (node false false)
  | _ => emptyScalar token.start next

def enterCollection : Grammar Unit := do
  let token ← take
  openCollection token.start

def next (goal : Goal) : Grammar (Event × Goal) := do
  match goal with
  | .streamStart =>
    let token ← take
    return (⟨.streamStart, token.start⟩, .firstDocument)
  | .firstDocument =>
    let token ← peek
    match token.kind with
    | .directive _ | .documentStart | .streamEnd => documentStart
    | _ =>
      modify fun state => { state with handles := defaultHandles }
      wait .documentEnd
      return (⟨.documentStart, token.start⟩, .blockNode)
  | .documentStart => documentStart
  | .documentContent =>
    let token ← peek
    match token.kind with
    | .directive _ | .documentStart | .documentEnd | .streamEnd =>
      emptyScalar token.start (← resume)
    | _ => node true false
  | .documentEnd =>
    let token ← peek
    match token.kind with
    | .documentEnd =>
      let _ ← take
      return (⟨.documentEnd, token.start⟩, .documentStart)
    | _ => return (⟨.documentEnd, token.start⟩, .documentStart)
  | .blockNode => node true false
  | .blockSequenceFirst => enterCollection; blockSequenceEntry
  | .blockSequenceEntry => blockSequenceEntry
  | .indentlessEntry => indentlessEntry
  | .blockMappingFirst => enterCollection; blockMappingKey
  | .blockMappingKey => blockMappingKey
  | .blockMappingValue => blockMappingValue
  | .flowSequenceFirst => enterCollection; flowSequenceEntry true
  | .flowSequenceEntry => flowSequenceEntry false
  | .pairKey =>
    let token ← take
    nodeUnless [.value, .flowEntry, .flowSequenceEnd] token.stop .pairValue (node false false)
  | .pairValue => flowValue .flowSequenceEnd .pairEnd
  | .pairEnd => return (⟨.mappingEnd, (← peek).start⟩, .flowSequenceEntry)
  | .flowMappingFirst => enterCollection; flowMappingKey true
  | .flowMappingKey => flowMappingKey false
  | .flowMappingValue => flowValue .flowMappingEnd .flowMappingKey
  | .flowMappingEmptyValue => emptyScalar (← peek).start .flowMappingKey
  | .done => throw .exhausted

end Grammar

namespace Event

def collect : Nat → Goal → GrammarState → Array Event → Stream Event
  | 0, _, _, events => ⟨events.toList, .exhausted⟩
  | steps + 1, goal, state, events =>
    if goal = .done then ⟨events.toList, .exhausted⟩
    else
      match (Grammar.next goal).run state with
      | .ok ((event, goal), state) => collect steps goal state (events.push event)
      | .error failure => ⟨events.toList, failure⟩

def ofTokens (tokens : Stream Token) : Stream Event :=
  collect (4 * tokens.items.length + 16) .streamStart { tokens } #[]

end Event

end FormCompiler.Yaml
