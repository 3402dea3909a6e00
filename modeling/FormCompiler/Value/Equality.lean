import FormCompiler.Value.Basic

set_option autoImplicit false

namespace FormCompiler

namespace Value

/-- Numbers and truth values on one scale: an integer where there is one. -/
inductive Quantity where
  | whole (n : Int)
  | broken (x : Double)

def quantity? : Value → Option Quantity
  | .bool flag => some (.whole (if flag then 1 else 0))
  | .int n => some (.whole n)
  | .float x =>
    match x.toInt? with
    | some n => some (.whole n)
    | none => some (.broken x)
  | _ => none

def Quantity.same : Quantity → Quantity → Bool
  | .whole a, .whole b => a == b
  | .broken x, .broken y => x.same y
  | _, _ => false

def sameScalar : Value → Value → Bool
  | .null, .null => true
  | .text a, .text b => a == b
  | .bytes a, .bytes b => a == b
  | .date a, .date b => a == b
  | .dateTime a, .dateTime b => a.same b
  | .handler a, .handler b => a == b
  | .knot a _, .knot b _ => a == b
  | a, b =>
    match a.quantity?, b.quantity? with
    | some p, some q => p.same q
    | _, _ => false

mutual

def same : Value → Value → Bool
  | .list a, .list b => sameItems a b
  | .tuple a, .tuple b => sameItems a b
  | .map a, .map b => a.length == b.length && entriesWithin a b
  | .set a, .set b => a.length == b.length && itemsWithin a b
  | a, b => sameScalar a b
termination_by structural a => a

def sameItems : List Value → List Value → Bool
  | [], [] => true
  | a :: as, b :: bs => same a b && sameItems as bs
  | _, _ => false
termination_by structural a => a

def entriesWithin : List (Value × Value) → List (Value × Value) → Bool
  | [], _ => true
  | (key, value) :: rest, other =>
    (match other.find? fun entry => same key entry.1 with
      | some entry => same value entry.2
      | none => false) && entriesWithin rest other
termination_by structural a => a

def itemsWithin : List Value → List Value → Bool
  | [], _ => true
  | a :: rest, other => (other.any fun b => same a b) && itemsWithin rest other
termination_by structural a => a

end

instance : BEq Value := ⟨same⟩

section Compare

variable (knots : Nat → Nat → Option Bool)

mutual

-- The comparison as it goes on, part after part up to the first that differ. Two knots may lead one
-- into the other without end, and then there is no result.

def compare? : Value → Value → Option Bool
  | .knot a _, .knot b _ => knots a b
  | .list a, .list b => if a.length == b.length then compareItems? a b else some false
  | .tuple a, .tuple b => compareItems? a b
  | .map a, .map b => if a.length == b.length then compareEntries? a b else some false
  | a, b => some (same a b)
termination_by structural a => a

def compareItems? : List Value → List Value → Option Bool
  | [], [] => some true
  | a :: as, b :: bs => compare? a b <&&> compareItems? as bs
  | _, _ => some false
termination_by structural a => a

def compareEntries? : List (Value × Value) → List (Value × Value) → Option Bool
  | [], _ => some true
  | (key, value) :: rest, other =>
    match other.find? fun entry => same key entry.1 with
    | some entry => compare? value entry.2 <&&> compareEntries? rest other
    | none => some false
termination_by structural a => a

end

end Compare

end Value

def Props.write (props : Props) (bag : Bag) : Props :=
  Entries.update props bag.toProps

end FormCompiler
