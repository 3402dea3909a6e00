import FormCompiler.Json.Export
import Mathlib.Tactic.Common

set_option autoImplicit false

namespace FormCompiler

namespace Value

def hasKeyText : Value → Bool
  | .null | .bool _ | .int _ | .float _ | .text _ => true
  | _ => false

end Value

inductive Json.Refusal where
  | key (key : Value)
  | knot (number : Nat) (obstacle : Obstacle)

namespace Value

open Json (Refusal)

mutual

-- What is refused at any depth of a value, in the order in which it is met.

def refusals : Value → List Refusal
  | .list items => refusalsIn items
  | .tuple items => refusalsIn items
  | .set items => refusalsIn items
  | .map entries => refusalsUnder entries
  | .knot number obstacle => [.knot number obstacle]
  | _ => []
termination_by structural value => value

def refusalsIn : List Value → List Refusal
  | [] => []
  | item :: rest => refusals item ++ refusalsIn rest
termination_by structural items => items

def refusalsUnder : List (Value × Value) → List Refusal
  | [] => []
  | (key, item) :: rest =>
    (if key.hasKeyText then [] else [.key key]) ++ (refusals item ++ refusalsUnder rest)
termination_by structural entries => entries

end

theorem refusalsIn_eq (items : List Value) : refusalsIn items = items.flatMap refusals := by
  induction items with
  | nil => rfl
  | cons item rest ih => simp [refusalsIn, ih]

theorem refusalsUnder_eq (entries : List (Value × Value)) :
    refusalsUnder entries = entries.flatMap fun entry =>
      (if entry.1.hasKeyText then [] else [.key entry.1]) ++ entry.2.refusals := by
  induction entries with
  | nil => rfl
  | cons entry rest ih => simp [refusalsUnder, ih]

theorem mem_refusals_map_iff (entries : List (Value × Value)) (refusal : Refusal) :
    refusal ∈ (Value.map entries).refusals ↔
      ∃ entry ∈ entries, (refusal = .key entry.1 ∧ entry.1.hasKeyText = false) ∨
        refusal ∈ entry.2.refusals := by
  simp only [refusals, refusalsUnder_eq, List.mem_flatMap, List.mem_append]
  refine exists_congr fun entry => and_congr_right fun _ => or_congr_left ?_
  cases texted : entry.1.hasKeyText <;> simp

@[simp] theorem refusals_ofBag (bag : Bag) :
    (ofBag bag).refusals = bag.flatMap fun entry => entry.2.refusals := by
  simp [ofBag, Bag.toProps, refusals, refusalsUnder_eq, hasKeyText, List.flatMap_map]

end Value

namespace Json

def Refusal.fault (oneLine : Bool) : Refusal → ExportFault
  | .key refused => .key (keyTypeName oneLine refused)
  | .knot _ obstacle => obstacleFault oneLine obstacle

def FailsFor {α : Type} (oneLine : Bool) (refusals : List Refusal)
    (outcome : Except ExportFault α) : Prop :=
  match refusals with
  | [] => ∃ result, outcome = .ok result
  | refusal :: _ => outcome = .error (refusal.fault oneLine)

namespace FailsFor

variable {α β : Type} {oneLine : Bool} {refusals more : List Refusal}

theorem ok (result : α) : FailsFor oneLine [] (.ok result) := ⟨result, rfl⟩

theorem bind {first : Except ExportFault α} {next : α → Except ExportFault β}
    (fails : FailsFor oneLine refusals first)
    (later : ∀ result, FailsFor oneLine more (next result)) :
    FailsFor oneLine (refusals ++ more) (first >>= next) := by
  cases refusals with
  | nil =>
    obtain ⟨result, rfl⟩ := fails
    exact later result
  | cons refusal rest =>
    have failed : first = .error (refusal.fault oneLine) := fails
    subst failed
    rfl

theorem map {outcome : Except ExportFault α} (fails : FailsFor oneLine refusals outcome)
    (change : α → β) : FailsFor oneLine refusals (outcome.map change) := by
  cases refusals with
  | nil =>
    obtain ⟨result, rfl⟩ := fails
    exact .ok _
  | cons refusal rest =>
    have failed : outcome = .error (refusal.fault oneLine) := fails
    subst failed
    rfl

theorem isOk_iff {outcome : Except ExportFault α} (fails : FailsFor oneLine refusals outcome) :
    (∃ result, outcome = .ok result) ↔ refusals = [] := by
  cases refusals with
  | nil => exact ⟨fun _ => rfl, fun _ => fails⟩
  | cons refusal rest =>
    have failed : outcome = .error (refusal.fault oneLine) := fails
    simp [failed]

end FailsFor

theorem keyText_failsFor (oneLine : Bool) (key : Value) :
    FailsFor oneLine (if key.hasKeyText then [] else [.key key]) (keyText oneLine key) := by
  cases key with
  | null | bool | int | float | text => exact .ok _
  | list | tuple | map | set | bytes | date | dateTime | handler | knot => rfl

mutual

theorem wide_failsFor (oneLine : Bool) :
    ∀ value : Value, FailsFor oneLine value.refusals (wide oneLine value)
  | .list items => (wideItems_failsFor oneLine items).map _
  | .tuple items => (wideItems_failsFor oneLine items).map _
  | .set items => (wideItems_failsFor oneLine items).map _
  | .map entries => (wideFields_failsFor oneLine entries).map _
  | .knot .. => rfl
  | .null | .bool _ | .int _ | .float _ | .text _ | .bytes _ | .date _ | .dateTime _
  | .handler _ => .ok _

theorem wideItems_failsFor (oneLine : Bool) :
    ∀ items : List Value, FailsFor oneLine (Value.refusalsIn items) (wideItems oneLine items)
  | [] => .ok _
  | item :: rest =>
    (wide_failsFor oneLine item).bind fun written =>
      (wideItems_failsFor oneLine rest).map (written :: ·)

theorem wideFields_failsFor (oneLine : Bool) :
    ∀ entries : List (Value × Value),
      FailsFor oneLine (Value.refusalsUnder entries) (wideFields oneLine entries)
  | [] => .ok _
  | (key, item) :: rest =>
    (keyText_failsFor oneLine key).bind fun text =>
      (wide_failsFor oneLine item).bind fun written =>
        (wideFields_failsFor oneLine rest).map ((text, written) :: ·)

end

mutual

theorem refusals_of_compact? {levels : Nat} :
    ∀ {value : Value} {tree : Tree}, compact? levels value = some tree → value.refusals = []
  | .list items, _, given => by
    simp only [compact?] at given
    split at given
    · cases given
    · obtain ⟨trees, inner, -⟩ := Option.map_eq_some_iff.mp given
      exact refusalsIn_of_compactItems? inner
  | .tuple items, _, given => by
    obtain ⟨trees, inner, -⟩ := Option.map_eq_some_iff.mp given
    exact refusalsIn_of_compactItems? inner
  | .set items, _, given => by
    simp only [compact?] at given
    split at given
    · cases given
    · obtain ⟨trees, inner, -⟩ := Option.map_eq_some_iff.mp given
      exact refusalsIn_of_compactItems? inner
  | .map entries, _, given => by
    simp only [compact?] at given
    split at given
    · cases given
    · obtain ⟨fields, inner, -⟩ := Option.map_eq_some_iff.mp given
      exact refusalsUnder_of_compactFields? inner
  | .null, _, _ | .bool _, _, _ | .int _, _, _ | .float _, _, _ | .text _, _, _ | .bytes _, _, _
  | .date _, _, _ | .dateTime _, _, _ | .handler _, _, _ => rfl

theorem refusalsIn_of_compactItems? {levels : Nat} :
    ∀ {items : List Value} {trees : List Tree},
      compactItems? levels items = some trees → Value.refusalsIn items = []
  | [], _, _ => rfl
  | item :: rest, _, given => by
    simp only [compactItems?, bind, Option.bind_eq_some_iff] at given
    obtain ⟨tree, first, trees, others, -⟩ := given
    simp only [Value.refusalsIn, refusals_of_compact? first, refusalsIn_of_compactItems? others,
      List.append_nil]

theorem refusalsUnder_of_compactFields? {levels : Nat} :
    ∀ {entries : List (Value × Value)} {fields : List (String × Tree)},
      compactFields? levels entries = some fields → Value.refusalsUnder entries = []
  | [], _, _ => rfl
  | (key, item) :: rest, _, given => by
    cases key with
    | text chars =>
      simp only [compactFields?, bind, Option.bind_eq_some_iff] at given
      obtain ⟨tree, first, fields, others, -⟩ := given
      simp only [Value.refusalsUnder, Value.hasKeyText, if_true, refusals_of_compact? first,
        refusalsUnder_of_compactFields? others, List.append_nil]
    | _ => cases given

end

theorem toJson_failsFor (value : Value) (indent : Option String) :
    FailsFor indent.isNone value.refusals (value.toJson indent) := by
  cases indent with
  | some unit => exact (wide_failsFor false value).map _
  | none =>
    simp only [Value.toJson]
    cases compacted : compact? compactLevels value with
    | none => exact (wide_failsFor true value).map _
    | some tree =>
      -- The compact form takes no keys but texts.
      rw [refusals_of_compact? compacted]
      exact .ok _

end Json

end FormCompiler
