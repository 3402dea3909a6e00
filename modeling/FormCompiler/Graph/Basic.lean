import FormCompiler.Value.Equality

set_option autoImplicit false

namespace FormCompiler

/-- One value whose parts are other cells. Keys of mappings and members of sets have no parts. -/
inductive Cell where
  | scalar (value : Value)
  | list (items : List Nat)
  | map (entries : List (Value × Nat))
  | tuple (items : List Nat)
  | set (members : List Value)
deriving Repr, Inhabited

abbrev Graph := Array Cell

namespace Cell

-- The guard does not look into tuples, and so they have no parts here.
def parts? : Cell → Option (List Nat)
  | .list items => some items
  | .map entries => some (entries.map Prod.snd)
  | .scalar _ | .tuple _ | .set _ => none

def held : Cell → List Nat
  | .list items | .tuple items => items
  | .map entries => entries.map Prod.snd
  | .scalar _ | .set _ => []

def isTuple : Cell → Bool
  | .tuple _ => true
  | _ => false

def value (part : Nat → Value) : Cell → Value
  | .scalar value => value
  | .list items => .list (items.map part)
  | .map entries => .map (entries.map fun entry => (entry.1, part entry.2))
  | .tuple items => .tuple (items.map part)
  | .set members => .set members

end Cell

namespace Graph

def parts? (graph : Graph) (index : Nat) : Option (List Nat) :=
  (graph[index]?).bind Cell.parts?

def held (graph : Graph) (index : Nat) : List Nat :=
  ((graph[index]?).map Cell.held).getD []

/-- Whether all ways down through the parts of a value end within a number of levels. -/
def ends (graph : Graph) : Nat → Nat → Bool
  | 0, _ => false
  | levels + 1, index => (graph.held index).all (ends graph levels)

-- A tuple that leads back to itself, or to another one that does.
def isKnot (graph : Graph) (index : Nat) : Bool :=
  (graph[index]?).any Cell.isTuple && !graph.ends (graph.size + 1) index

section Compare

variable (part : Nat → Nat → Option Bool)

def compareParts? : List Nat → List Nat → Option Bool
  | [], [] => some true
  | a :: as, b :: bs => part a b <&&> compareParts? as bs
  | _, _ => some false

def compareEntries? (other : List (Value × Nat)) : List (Value × Nat) → Option Bool
  | [] => some true
  | (key, a) :: rest =>
    match other.find? fun entry => key.same entry.1 with
    | some (_, b) => part a b <&&> compareEntries? other rest
    | none => some false

end Compare

-- The comparison of two values, part after part up to the first that differ. A part is equal to
-- itself without a look into it. Two parts that are met again before they are done with are
-- compared without end, so that there are no more levels than pairs of cells.
def compare? (graph : Graph) : Nat → List (Nat × Nat) → Nat → Nat → Option Bool
  | 0, _, _, _ => none
  | levels + 1, begun, a, b =>
    if a = b then some true
    else if begun.contains (a, b) then none
    else
      let part := compare? graph levels ((a, b) :: begun)
      match graph[a]?, graph[b]? with
      | some (.list as), some (.list bs) =>
        if as.length = bs.length then compareParts? part as bs else some false
      | some (.tuple as), some (.tuple bs) => compareParts? part as bs
      | some (.map as), some (.map bs) =>
        if as.length = bs.length then compareEntries? part bs as else some false
      | some (.set as), some (.set bs) => some ((Value.set as).same (.set bs))
      | some (.scalar a), some (.scalar b) => some (a.same b)
      | _, _ => some false

def sameCells? (graph : Graph) (a b : Nat) : Option Bool :=
  graph.compare? (graph.size * graph.size + 1) [] a b

-- Of tuples that compare as equal the first one gives the number.
def knotNumber (graph : Graph) (index : Nat) : Nat :=
  ((List.range graph.size).find? fun other => graph.sameCells? other index == some true).getD index

-- Equal knots have one number, and the graph tells whether their comparison ends.
def compareKnots? (graph : Graph) (a b : Nat) : Option Bool :=
  (graph.sameCells? a b).map fun _ => a == b

def keyObstacle? : Value → Option Obstacle
  | .bytes _ => some .bytesKey
  | .date _ => some .dateKey
  | .dateTime _ => some .dateTimeKey
  | _ => none

-- The first obstacle on the way through the parts of a value, in their order.
def obstacle? (graph : Graph) : Nat → List Nat → Nat → Option Obstacle
  | 0, _, _ => some .again
  | levels + 1, path, index =>
    if path.contains index then some .again
    else
      match graph[index]? with
      | none => none
      | some (.map entries) => entries.findSome? fun entry =>
          keyObstacle? entry.1 <|> obstacle? graph levels (index :: path) entry.2
      | some cell => cell.held.findSome? (obstacle? graph levels (index :: path))

def knot (graph : Graph) (index : Nat) : Value :=
  .knot (graph.knotNumber index) ((graph.obstacle? (graph.size + 1) [] index).getD .again)

def unfold (graph : Graph) : Nat → Nat → Value
  | 0, index => graph.knot index
  | levels + 1, index =>
    if graph.isKnot index then graph.knot index
    else
      match graph[index]? with
      | some cell => cell.value (unfold graph levels)
      | none => .null

-- The value with every shared part written out. Cycles that go through tuples end in knots; a graph
-- with no other cycles has no more levels than cells.
def value (graph : Graph) (index : Nat) : Value :=
  unfold graph (graph.size + 1) index

mutual

def addValue (graph : Graph) : Value → Graph × Nat
  | .list items =>
    let (graph, parts) := addItems graph items
    let index := graph.size
    (graph.push (.list parts), index)
  | .map entries =>
    let (graph, parts) := addEntries graph entries
    let index := graph.size
    (graph.push (.map parts), index)
  | value =>
    let index := graph.size
    (graph.push (.scalar value), index)
termination_by structural value => value

def addItems (graph : Graph) : List Value → Graph × List Nat
  | [] => (graph, [])
  | item :: rest =>
    let (graph, index) := addValue graph item
    let (graph, indices) := addItems graph rest
    (graph, index :: indices)
termination_by structural items => items

def addEntries (graph : Graph) : List (Value × Value) → Graph × List (Value × Nat)
  | [] => (graph, [])
  | (key, value) :: rest =>
    let (graph, index) := addValue graph value
    let (graph, entries) := addEntries graph rest
    (graph, (key, index) :: entries)
termination_by structural entries => entries

end

def addItem (graph : Graph) (list : Nat) (item : Value) : Graph :=
  let (graph, index) := addValue graph item
  graph.modify list fun
    | .list items => .list (items ++ [index])
    | cell => cell

def items (graph : Graph) (index : Nat) : List Nat :=
  match graph[index]? with
  | some (.list items) | some (.tuple items) => items
  | _ => []

def entries (graph : Graph) (index : Nat) : List (Value × Nat) :=
  match graph[index]? with
  | some (.map entries) => entries
  | _ => []

def ofValue (value : Value) : Graph × Nat :=
  addValue #[] value

end Graph

end FormCompiler
