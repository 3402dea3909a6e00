import FormCompiler.Graph.Basic

set_option autoImplicit false

namespace FormCompiler

structure Limits where
  depth : Int := 64
  values : Int := 100000
deriving Repr, DecidableEq

inductive LimitFault where
  | tooDeep (depth limit : Int)
  | tooLarge (limit : Int)
deriving Repr, DecidableEq

def LimitFault.message : LimitFault → String
  | .tooDeep depth limit => s!"Nesting depth {depth} exceeds maximum {limit}"
  | .tooLarge limit => s!"Document expands to more than {limit} values"

/-- How many levels lie below a value, and how many values it holds, itself included. -/
structure Extent where
  height : Nat
  size : Nat
deriving Repr, DecidableEq

namespace Extent

def leaf : Extent := ⟨0, 1⟩

def withPart (whole part : Extent) : Extent :=
  ⟨max whole.height (part.height + 1), whole.size + part.size⟩

end Extent

inductive Progress where
  | unseen
  | open
  | measured (extent : Extent)
deriving Repr, DecidableEq

namespace Graph

abbrev Survey := Array Progress

def Survey.at (survey : Survey) (index : Nat) : Progress :=
  survey[index]?.getD .unseen

/-- Measures the parts of a collection one after another and stops as soon as it is too large. -/
def measureParts (limits : Limits)
    (measurePart : Nat → Survey → Except LimitFault (Extent × Survey)) :
    List Nat → Extent → Survey → Except LimitFault (Extent × Survey)
  | [], whole, survey => .ok (whole, survey)
  | part :: rest, whole, survey =>
    match measurePart part survey with
    | .error fault => .error fault
    | .ok (extent, survey) =>
      let whole := whole.withPart extent
      if limits.values < whole.size then .error (.tooLarge limits.values)
      else measureParts limits measurePart rest whole survey

-- Measures the value of a cell that stands at the given depth. The levels bound the number of
-- collections that are open at one time. Assumed: calls may nest as deep as that, where a setting
-- of the runtime limits them.
def measure (graph : Graph) (limits : Limits) :
    Nat → Nat → Int → Survey → Except LimitFault (Extent × Survey)
  | 0, _, _, _ => .error (.tooDeep (limits.depth + 1) limits.depth)
  | levels + 1, index, depth, survey =>
    if limits.depth < depth then .error (.tooDeep depth limits.depth)
    else
      match graph.parts? index with
      | none => .ok (.leaf, survey)
      | some parts =>
        match survey.at index with
        | .measured extent =>
          if limits.depth < depth + extent.height then
            .error (.tooDeep (depth + extent.height) limits.depth)
          else .ok (extent, survey)
        -- It lies inside itself, so every depth is passed.
        | .open => .error (.tooDeep (limits.depth + 1) limits.depth)
        | .unseen =>
          match measureParts limits
              (fun part survey => measure graph limits levels part (depth + 1) survey)
              parts .leaf (survey.setIfInBounds index .open) with
          | .error fault => .error fault
          | .ok (extent, survey) =>
            .ok (extent, survey.setIfInBounds index (.measured extent))

/-- Accepts the value of a cell that stays within the limits when it stands at the given depth. -/
def checkLimits (graph : Graph) (index : Nat) (limits : Limits) (depth : Int) :
    Except LimitFault Unit :=
  (measure graph limits (graph.size + 2) index depth
    (Array.replicate graph.size .unseen)).map fun _ => ()

end Graph

end FormCompiler
