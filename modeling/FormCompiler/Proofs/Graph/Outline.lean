import FormCompiler.Graph.Guard

set_option autoImplicit false

namespace FormCompiler

inductive Outline where
  | leaf
  | whole (parts : List Outline)

namespace Outline

@[elab_as_elim, induction_eliminator]
theorem induct {motive : Outline → Prop} (leaf : motive .leaf)
    (whole : ∀ parts, (∀ part ∈ parts, motive part) → motive (.whole parts)) :
    ∀ outline, motive outline
  | .leaf => leaf
  | .whole parts => whole parts fun part _ => induct leaf whole part

mutual

def height : Outline → Nat
  | .leaf => 0
  | .whole parts => heights parts
termination_by structural outline => outline

def heights : List Outline → Nat
  | [] => 0
  | part :: rest => max (height part + 1) (heights rest)
termination_by structural parts => parts

end

mutual

def size : Outline → Nat
  | .leaf => 1
  | .whole parts => 1 + sizes parts
termination_by structural outline => outline

def sizes : List Outline → Nat
  | [] => 0
  | part :: rest => size part + sizes rest
termination_by structural parts => parts

end

def extent (outline : Outline) : Extent := ⟨outline.height, outline.size⟩

mutual

-- Visits every value, each before its parts, and fails at the first one that lies too deep or makes
-- what it is a part of too large.
def walk (limits : Limits) (depth : Int) : Outline → Except LimitFault Extent
  | .leaf =>
    if limits.depth < depth then .error (.tooDeep depth limits.depth) else .ok .leaf
  | .whole parts =>
    if limits.depth < depth then .error (.tooDeep depth limits.depth)
    else walkParts limits (depth + 1) .leaf parts
termination_by structural outline => outline

def walkParts (limits : Limits) (depth : Int) (whole : Extent) :
    List Outline → Except LimitFault Extent
  | [] => .ok whole
  | part :: rest =>
    match walk limits depth part with
    | .error fault => .error fault
    | .ok extent =>
      if limits.values < (whole.withPart extent).size then .error (.tooLarge limits.values)
      else walkParts limits depth (whole.withPart extent) rest
termination_by structural parts => parts

end

theorem walk_of_too_deep {limits : Limits} {depth : Int} (deep : limits.depth < depth)
    (outline : Outline) : outline.walk limits depth = .error (.tooDeep depth limits.depth) := by
  cases outline <;> simp [walk, deep]

theorem parts_within_iff {depth limit : Int} (parts : List Outline) (within : depth ≤ limit) :
    (∀ part ∈ parts, depth + 1 + part.height ≤ limit) ↔ depth + heights parts ≤ limit := by
  induction parts with
  | nil => simpa [heights] using within
  | cons first rest ih =>
    simp only [List.forall_mem_cons, ih, heights]
    omega

theorem walkParts_eq_ok_iff {limits : Limits} {depth : Int} {parts : List Outline}
    (each : ∀ part ∈ parts, ∀ found, walk limits depth part = .ok found ↔
      found = part.extent ∧ depth + part.height ≤ limits.depth ∧ part.size ≤ limits.values)
    {whole : Extent} (room : whole.size ≤ limits.values) (found : Extent) :
    walkParts limits depth whole parts = .ok found ↔
      found = ⟨max whole.height (heights parts), whole.size + sizes parts⟩ ∧
        (∀ part ∈ parts, depth + part.height ≤ limits.depth) ∧
        (whole.size + sizes parts : Int) ≤ limits.values := by
  induction parts generalizing whole with
  | nil =>
    obtain ⟨height, size⟩ := whole
    simp only [walkParts, heights, sizes, Except.ok.injEq]
    constructor
    · rintro rfl
      simpa using room
    · rintro ⟨same, -⟩
      simpa using same.symm
  | cons first rest ih =>
    have firstExact := each first (by simp)
    have restExact : ∀ part ∈ rest, ∀ found, walk limits depth part = .ok found ↔
        found = part.extent ∧ depth + part.height ≤ limits.depth ∧ part.size ≤ limits.values :=
      fun part member => each part (List.mem_cons_of_mem _ member)
    simp only [walkParts, List.forall_mem_cons, heights, sizes]
    cases walked : walk limits depth first with
    | error fault =>
      -- The walk fails exactly if this part is refused, whatever room the whole has.
      have refused : ¬(depth + first.height ≤ limits.depth ∧ first.size ≤ limits.values) := by
        intro accepted
        have good := (firstExact first.extent).mpr ⟨rfl, accepted⟩
        rw [walked] at good
        cases good
      simp only [reduceCtorEq, false_iff]
      rintro ⟨-, ⟨within, -⟩, fits⟩
      exact refused ⟨within, by omega⟩
    | ok part =>
      obtain ⟨rfl, within, fits⟩ := (firstExact part).mp walked
      by_cases large : limits.values < (whole.withPart first.extent).size
      · simp only [large, if_true, reduceCtorEq, false_iff]
        rintro ⟨-, -, total⟩
        simp only [Extent.withPart, extent] at large
        omega
      · simp only [large, if_false]
        rw [ih restExact (by omega)]
        simp only [Extent.withPart, extent, Nat.max_assoc, Nat.add_assoc, Int.natCast_add,
          Int.add_assoc, within, true_and]

theorem walk_eq_ok_iff {limits : Limits} (positive : 1 ≤ limits.values) (depth : Int)
    (outline : Outline) (found : Extent) :
    outline.walk limits depth = .ok found ↔
      found = outline.extent ∧ depth + outline.height ≤ limits.depth ∧
        outline.size ≤ limits.values := by
  induction outline generalizing depth found with
  | leaf =>
    by_cases deep : limits.depth < depth
    · simp only [walk, deep, if_true, reduceCtorEq, height, false_iff]
      rintro ⟨-, within, -⟩
      omega
    · simp only [walk, deep, if_false, Except.ok.injEq, extent, height, size, Extent.leaf]
      constructor
      · rintro rfl
        exact ⟨rfl, by omega, by omega⟩
      · rintro ⟨rfl, -⟩
        rfl
  | whole parts ih =>
    by_cases deep : limits.depth < depth
    · simp only [walk, deep, if_true, reduceCtorEq, false_iff]
      rintro ⟨-, within, -⟩
      omega
    · have inside := parts_within_iff parts (show depth ≤ limits.depth by omega)
      simp only [walk, deep, if_false]
      rw [walkParts_eq_ok_iff (fun part member found => ih part member (depth + 1) found)
        (by simpa [Extent.leaf] using positive), inside]
      simp [Extent.leaf, extent, height, size]

theorem size_lt_of_walkParts_tooLarge {limits : Limits} (positive : 1 ≤ limits.values)
    {depth limit : Int} {parts : List Outline}
    (each : ∀ part ∈ parts, walk limits depth part = .error (.tooLarge limit) →
      limits.values < part.size)
    {whole : Extent} (large : walkParts limits depth whole parts = .error (.tooLarge limit)) :
    limits.values < whole.size + sizes parts := by
  induction parts generalizing whole with
  | nil => simp [walkParts] at large
  | cons first rest ih =>
    simp only [walkParts] at large
    simp only [sizes]
    cases walked : walk limits depth first with
    | error fault =>
      simp only [walked, Except.error.injEq] at large
      subst large
      have bound := each first (by simp) walked
      omega
    | ok part =>
      obtain ⟨rfl, -, -⟩ := (walk_eq_ok_iff positive _ _ _).mp walked
      simp only [walked] at large
      split at large
      · next larger =>
        simp only [Extent.withPart, extent] at larger
        omega
      · have bound := ih (fun part member => each part (List.mem_cons_of_mem _ member)) large
        simp only [Extent.withPart, extent] at bound
        omega

theorem size_lt_of_walk_tooLarge {limits : Limits} (positive : 1 ≤ limits.values)
    {depth limit : Int} {outline : Outline}
    (large : outline.walk limits depth = .error (.tooLarge limit)) :
    limits.values < outline.size := by
  induction outline generalizing depth with
  | leaf =>
    simp only [walk] at large
    split at large <;> simp at large
  | whole parts ih =>
    simp only [walk] at large
    split at large
    · simp at large
    · have bound := size_lt_of_walkParts_tooLarge positive (fun part member => ih part member) large
      simpa [Extent.leaf, size] using bound

end Outline

mutual

def Value.outline : Value → Outline
  | .list items => .whole (outlines items)
  | .map entries => .whole (entryOutlines entries)
  | _ => .leaf
termination_by structural value => value

def Value.outlines : List Value → List Outline
  | [] => []
  | item :: rest => outline item :: outlines rest
termination_by structural items => items

def Value.entryOutlines : List (Value × Value) → List Outline
  | [] => []
  | (_, value) :: rest => outline value :: entryOutlines rest
termination_by structural entries => entries

end

@[simp] theorem Value.outlines_eq_map (items : List Value) :
    Value.outlines items = items.map Value.outline := by
  induction items with
  | nil => rfl
  | cons item rest ih => simp [Value.outlines, ih]

@[simp] theorem Value.entryOutlines_eq_map (entries : List (Value × Value)) :
    Value.entryOutlines entries = entries.map fun entry => entry.2.outline := by
  induction entries with
  | nil => rfl
  | cons entry rest ih => simp [Value.entryOutlines, ih]

inductive Verdict where
  | accepted
  | tooDeep
  | tooLarge
deriving Repr, DecidableEq

def Verdict.of {α : Type} : Except LimitFault α → Verdict
  | .ok _ => .accepted
  | .error (.tooDeep ..) => .tooDeep
  | .error (.tooLarge _) => .tooLarge

theorem Verdict.of_eq_accepted_iff {α : Type} (outcome : Except LimitFault α) :
    Verdict.of outcome = .accepted ↔ ∃ found, outcome = .ok found := by
  cases outcome with
  | ok found => simp [Verdict.of]
  | error fault => cases fault <;> simp [Verdict.of]

theorem Outline.verdict_of_too_high {limits : Limits} (positive : 1 ≤ limits.values) {depth : Int}
    {outline : Outline} (small : outline.size ≤ limits.values)
    (high : limits.depth < depth + outline.height) :
    Verdict.of (outline.walk limits depth) = .tooDeep := by
  cases walked : outline.walk limits depth with
  | ok found =>
    have within := ((Outline.walk_eq_ok_iff positive _ _ _).mp walked).2.1
    omega
  | error fault =>
    cases fault with
    | tooDeep => rfl
    | tooLarge =>
      have large := Outline.size_lt_of_walk_tooLarge positive walked
      omega

end FormCompiler
