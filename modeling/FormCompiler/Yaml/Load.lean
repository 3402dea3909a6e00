import FormCompiler.Graph.Basic
import FormCompiler.Value.Equality
import FormCompiler.Yaml.Node
import FormCompiler.Yaml.Scalar

set_option autoImplicit false

namespace FormCompiler.Yaml

structure Construction where
  nodes : Array Node
  cells : Array (Option Cell)
  met : Array Nat := #[]
  rounds : Nat

abbrev Construct := StateT Construction Attempt

namespace Construct

def refuse {α : Type} (context : Option (Activity × Mark)) (problem : Problem) (place : Mark) :
    Construct α :=
  throw (.malformed .values (context.map Prod.fst) (context.map Prod.snd) problem place)

def content {α : Type} (result : Scalar.Content α) : Construct α :=
  match result with
  | .ok a => return a
  | .error fault => throw (.content fault)

def node (number : Nat) : Construct Node := do
  match (← get).nodes[number]? with
  | some node => return node
  | none => throw .exhausted

def setCell (number : Nat) (cell : Cell) : Construct Unit :=
  modify fun state => { state with cells := state.cells.setIfInBounds number (some cell) }

def addCell (cell : Cell) : Construct Nat := do
  let number := (← get).cells.size
  modify fun state => { state with cells := state.cells.push (some cell) }
  return number

def cell? (number : Nat) : Construct (Option Cell) :=
  return (← get).cells[number]?.join

-- The characters of a scalar; a mapping stands for the value under its value key. More steps than
-- there are nodes lead nowhere.
def scalarText : Nat → Nat → Construct String
  | 0, _ => throw (.content .endlessText)
  | steps + 1, number => do
    let found ← node number
    match found.content with
    | .scalar chars => return chars
    | .sequence _ => refuse none (.wrongShape .scalar .sequence) found.start
    | .mapping entries =>
      let state ← get
      let isValueKey (entry : Nat × Nat) : Bool :=
        (state.nodes[entry.1]?).any fun key => key.tag == .value
      match entries.find? isValueKey with
      | some (_, value) => scalarText steps value
      | none => refuse none (.wrongShape .scalar .mapping) found.start

def scalarValue (number : Nat) : Construct Value := do
  let found ← node number
  let chars ← scalarText ((← get).nodes.size + 1) number
  match found.tag with
  | .null => return .null
  | .flag => return .bool (← content (Scalar.flag chars))
  | .whole => return .int (← content (Scalar.whole chars.toList))
  | .number => return .float (← content (Scalar.number (number + 1) chars))
  | .binary => liftM (Scalar.binary found.start chars)
  | .time =>
    match found.content with
    | .scalar _ => content (Scalar.time chars.toList)
    | _ => throw (.content .timeOfMapping)
  | .text => return .text chars
  | tag => refuse none (.unknownTag tag.name) found.start

def meet (number : Nat) (cell : Cell) : Construct Unit := do
  setCell number cell
  modify fun state => { state with met := state.met.push number }

def construct (number : Nat) : Construct Unit := do
  if (← cell? number).isSome then return
  let found ← node number
  match found.tag with
  | .sequence | .orderedMap | .pairs => meet number (.list [])
  | .mapping => meet number (.map [])
  | .set => meet number (.set [])
  | .merge | .value | .other _ => refuse none (.unknownTag found.tag.name) found.start
  | _ => setCell number (.scalar (← scalarValue number))

def entriesOf (number : Nat) : Construct (List (Nat × Nat)) := do
  match (← node number).content with
  | .mapping entries => return entries
  | _ => return []

def setEntries (number : Nat) (entries : List (Nat × Nat)) : Construct Unit :=
  modify fun state =>
    { state with
      nodes := state.nodes.modify number fun node => { node with content := .mapping entries } }

def setTag (number : Nat) (tag : Tag) : Construct Unit :=
  modify fun state =>
    { state with nodes := state.nodes.modify number fun node => { node with tag } }

def splitAtMerge (entries : List (Nat × Nat)) :
    Construct (List (Nat × Nat) × List (Nat × Nat)) := do
  let nodes := (← get).nodes
  return entries.span fun entry => !(nodes[entry.1]?).any fun key => key.tag == .merge

def settleKey (key : Nat) : Construct Unit := do
  if (← node key).tag == .value then setTag key .text

-- Replaces the merge keys of a mapping by the entries of what they merge, which then stand before
-- the mapping's own. A round takes one merge key off for good before it starts others.
def flatten : Nat → Nat → List (Nat × Nat) → Construct Unit
  | 0, _, _ => throw .exhausted
  | steps + 1, number, merged => do
    match ← splitAtMerge (← entriesOf number) with
    | (entries, []) =>
      entries.forM fun (key, _) => settleKey key
      unless merged.isEmpty do setEntries number (merged ++ entries)
    | (before, (_, value) :: after) =>
      -- The key is gone before its sources are flattened, so a mapping may even merge itself.
      setEntries number (before ++ after)
      let owner ← node number
      let source ← node value
      let found ←
        match source.content with
        | .mapping _ =>
          flatten steps value []
          entriesOf value
        | .sequence items =>
          let parts ← items.mapM fun item => do
            let part ← node item
            match part.content with
            | .mapping _ =>
              flatten steps item []
              entriesOf item
            | other =>
              refuse (some (.mapping, owner.start)) (.notMergeableItem other.shape) part.start
          -- Of equal keys the last one counts, so earlier sources stand after later ones.
          pure parts.reverse.flatten
        | .scalar _ => refuse (some (.mapping, owner.start)) (.notMergeable .scalar) source.start
      flatten steps number (merged ++ found)

def flattenRounds (nodes : Array Node) : Nat :=
  nodes.foldl (fun count node =>
    match node.content with
    | .mapping entries => count + entries.length
    | _ => count) 1

def mappingEntries (number : Nat) : Construct (Entries Value Nat) := do
  let found ← node number
  match found.content with
  | .mapping _ =>
    flatten (← get).rounds number []
    (← entriesOf number).foldlM (fun written (key, value) => do
      construct key
      match ← cell? key with
      | some (.scalar keyValue) =>
        construct value
        return Entries.set written keyValue value
      | _ => refuse (some (.mapping, found.start)) .unusableKey (← node key).start) []
  | other => refuse none (.wrongShape .mapping other.shape) found.start

def orderedEntry (activity : Activity) (owner : Mark) (number : Nat) : Construct Nat := do
  let item ← node number
  match item.content with
  | .mapping [(key, value)] =>
    construct key
    construct value
    addCell (.tuple [key, value])
  | .mapping entries => refuse (some (activity, owner)) (.notOneItem entries.length) item.start
  | other => refuse (some (activity, owner)) (.noItemMapping other.shape) item.start

def fill (number : Nat) : Construct Unit := do
  let found ← node number
  let ordered (activity : Activity) : Construct Unit := do
    match found.content with
    | .sequence items =>
      setCell number (.list (← items.mapM (orderedEntry activity found.start)))
    | other => refuse (some (activity, found.start)) (.noItemSequence other.shape) found.start
  match found.tag with
  | .sequence =>
    match found.content with
    | .sequence items =>
      items.forM construct
      setCell number (.list items)
    | other => refuse none (.wrongShape .sequence other.shape) found.start
  | .orderedMap => ordered .orderedMap
  | .pairs => ordered .pairs
  | .set => setCell number (.set (Entries.keys (← mappingEntries number)))
  | _ => setCell number (.map (← mappingEntries number))

def fillFrom : Nat → Nat → Construct Unit
  | 0, _ => throw .exhausted
  | steps + 1, position => do
    match (← get).met[position]? with
    | some number =>
      fill number
      fillFrom steps (position + 1)
    | none => return

def document (root : Nat) : Construct Unit := do
  construct root
  fillFrom ((← get).nodes.size + 1) 0

end Construct

def NodeTable.graph (table : NodeTable) : Attempt Graph := do
  let start : Construction :=
    { nodes := table.nodes
      cells := Array.replicate table.nodes.size none
      rounds := Construct.flattenRounds table.nodes }
  let ((), final) ← (Construct.document table.root).run start
  return final.cells.map fun cell => cell.getD (.scalar .null)

def isReadable (c : Char) : Bool :=
  let n := c.toNat
  n == 9 || n == 10 || n == 13 || (32 ≤ n && n ≤ 126) || n == 0x85
    || (0xA0 ≤ n && n ≤ 0xD7FF) || (0xE000 ≤ n && n ≤ 0xFFFD) || 0x10000 ≤ n

/-- The graph of a text's one document and the cell of its root; an empty text stands for null. -/
def load (chars : List Char) : Attempt (Graph × Nat) := do
  match chars.findIdx? fun c => !isReadable c with
  | some position => throw (.unreadable (chars.getD position ' ') position)
  | none =>
    match ← NodeTable.ofEvents (Event.ofTokens (Stream.ofChars chars)) with
    | some table => return (← table.graph, table.root)
    | none => return (#[.scalar .null], 0)

end FormCompiler.Yaml
