import FormCompiler.Form.Parse
import FormCompiler.Proofs.Form.Refusals

set_option autoImplicit false

namespace FormCompiler

open Json (Refusal)

-- A comparison ends with the right result unless a knot keeps it from an end.
inductive Comparison (bound : List Refusal) : Option Bool → Bool → Prop where
  | ends (same : Bool) : Comparison bound (some same) same
  | endless (same : Bool) {number : Nat} {obstacle : Obstacle}
      (knot : .knot number obstacle ∈ bound) : Comparison bound none same

def Knotwise (knots : Nat → Nat → Option Bool) : Prop :=
  ∀ a b, knots a b = none ∨ knots a b = some (a == b)

theorem Graph.compareKnots?_knotwise (graph : Graph) : Knotwise graph.compareKnots? := by
  intro a b
  rw [compareKnots?]
  cases graph.sameCells? a b with
  | none => exact .inl rfl
  | some => exact .inr rfl

variable {bound : List Refusal} {knots : Nat → Nat → Option Bool}

namespace Comparison

theorem and {found rest : Option Bool} {same others : Bool} (first : Comparison bound found same)
    (later : Comparison bound rest others) :
    Comparison bound (found <&&> rest) (same && others) := by
  cases first with
  | endless _ knot => exact .endless _ knot
  | ends =>
    cases same with
    | false => exact .ends false
    | true => exact later

theorem eq_of_some {result same : Bool} (comparison : Comparison bound (some result) same) :
    result = same := by
  cases comparison
  rfl

theorem guarded {found : Option Bool} {same : Bool} (first : Bool)
    (later : first = true → Comparison bound found same) :
    Comparison bound (if first then found else some false) (first && same) := by
  cases first with
  | false => exact .ends false
  | true => exact later rfl

end Comparison

namespace Value

theorem sameItems_length {as bs : List Value} (same : sameItems as bs = true) :
    as.length = bs.length := by
  induction as generalizing bs with
  | nil =>
    cases bs with
    | nil => rfl
    | cons => cases same
  | cons a as ih =>
    cases bs with
    | nil => cases same
    | cons b bs =>
      simp only [sameItems, Bool.and_eq_true] at same
      simp [ih same.2]

theorem sameItems_eq (as bs : List Value) :
    sameItems as bs = (as.length == bs.length && sameItems as bs) := by
  cases same : sameItems as bs with
  | false => simp
  | true => simp [sameItems_length same]

mutual

theorem compare?_comparison (knotwise : Knotwise knots) : ∀ a b : Value, a.refusals ⊆ bound →
    Comparison bound (a.compare? knots b) (a.same b)
  | .knot a _, b, among => by
    cases b with
    | knot b _ =>
      simp only [compare?, same, sameScalar]
      rcases knotwise a b with endless | ends
      · exact endless ▸ .endless _ (among (List.mem_singleton_self _))
      · exact ends ▸ .ends _
    | _ => exact .ends _
  | .list as, b, among => by
    cases b with
    | list bs =>
      simp only [compare?, same]
      rw [sameItems_eq]
      exact .guarded _ fun _ => compareItems?_comparison knotwise as bs among
    | _ => exact .ends _
  | .tuple as, b, among => by
    cases b with
    | tuple bs => exact compareItems?_comparison knotwise as bs among
    | _ => exact .ends _
  | .map as, b, among => by
    cases b with
    | map bs => exact .guarded _ fun _ => compareEntries?_comparison knotwise as bs among
    | _ => exact .ends _
  | .null, _, _ | .bool _, _, _ | .int _, _, _ | .float _, _, _ | .text _, _, _ | .set _, _, _
  | .bytes _, _, _ | .date _, _, _ | .dateTime _, _, _ | .handler _, _, _ => .ends _

theorem compareItems?_comparison (knotwise : Knotwise knots) : ∀ as bs : List Value,
    refusalsIn as ⊆ bound → Comparison bound (compareItems? knots as bs) (sameItems as bs)
  | [], [], _ => .ends true
  | [], _ :: _, _ | _ :: _, [], _ => .ends false
  | a :: as, b :: bs, among =>
    have parts := List.append_subset.mp among
    (compare?_comparison knotwise a b parts.1).and (compareItems?_comparison knotwise as bs parts.2)

theorem compareEntries?_comparison (knotwise : Knotwise knots) :
    ∀ as bs : List (Value × Value), refusalsUnder as ⊆ bound →
      Comparison bound (compareEntries? knots as bs) (entriesWithin as bs)
  | [], _, _ => .ends true
  | (key, value) :: rest, other, among => by
    have parts := List.append_subset.mp among
    simp only [compareEntries?, entriesWithin]
    cases other.find? fun entry => same key entry.1 with
    | none => exact .ends false
    | some entry =>
      exact (compare?_comparison knotwise value entry.2 (List.append_subset.mp parts.2).1).and
        (compareEntries?_comparison knotwise rest other (List.append_subset.mp parts.2).2)

end

theorem compareBags?_comparison (knotwise : Knotwise knots) {a b : Bag}
    (among : ∀ entry ∈ a, entry.2.refusals ⊆ bound) :
    Comparison bound (Component.compareBags? knots a b) (a.same b) := by
  refine compare?_comparison knotwise _ _ ?_
  rw [refusals_ofBag]
  exact fun refusal refused =>
    have ⟨entry, member, inside⟩ := List.mem_flatMap.mp refused
    among entry member inside

end Value

namespace Component

theorem sameAll_length {as bs : List Component} (same : sameAll as bs = true) :
    as.length = bs.length := by
  induction as generalizing bs with
  | nil =>
    cases bs with
    | nil => rfl
    | cons => cases same
  | cons a as ih =>
    cases bs with
    | nil => cases same
    | cons b bs =>
      simp only [sameAll, Bool.and_eq_true] at same
      simp [ih same.2]

theorem sameAll_eq (as bs : List Component) :
    sameAll as bs = (as.length == bs.length && sameAll as bs) := by
  cases same : sameAll as bs with
  | false => simp
  | true => simp [sameAll_length same]

mutual

theorem compare?_comparison (knotwise : Knotwise knots) : ∀ a b : Component,
    RefusalsAmong [a] bound → Comparison bound (a.compare? knots b) (a.same b)
  | ⟨type, name, properties, layout, children⟩, b, among => by
    obtain ⟨own, below, -⟩ := RefusalsAmong.cons_iff.mp among
    have named : name.refusals ⊆ bound := own name (List.mem_cons_self ..)
    have props : ∀ entry ∈ properties, entry.2.refusals ⊆ bound := fun entry member =>
      own entry.2 (List.mem_cons_of_mem _ (List.mem_map_of_mem (List.mem_append_left _ member)))
    have placed : ∀ entry ∈ layout, entry.2.refusals ⊆ bound := fun entry member =>
      own entry.2 (List.mem_cons_of_mem _ (List.mem_map_of_mem (List.mem_append_right _ member)))
    simp only [same, compare?, Bool.and_assoc]
    rw [sameAll_eq]
    exact .and (.ends _) <| .and (Value.compare?_comparison knotwise _ _ named) <|
      .and (Value.compareBags?_comparison knotwise props) <|
      .and (Value.compareBags?_comparison knotwise placed) <|
      .and (.ends _) (compareAll?_comparison knotwise children b.children below)

theorem compareAll?_comparison (knotwise : Knotwise knots) : ∀ as bs : List Component,
    RefusalsAmong as bound → Comparison bound (compareAll? knots as bs) (sameAll as bs)
  | [], [], _ => .ends true
  | [], _ :: _, _ | _ :: _, [], _ => .ends false
  | a :: as, b :: bs, among =>
    have ⟨own, below, others⟩ := RefusalsAmong.cons_iff.mp among
    (compare?_comparison knotwise a b (.cons own below (.nil _))).and
      (compareAll?_comparison knotwise as bs others)

end

end Component

namespace Form

theorem compareLists?_comparison (document : Value) (graph : Graph) :
    Comparison document.refusals ((ofDocument document).compareLists? graph)
      (Component.sameAll (ofDocument document).components
        (ofDocument document).container.children) := by
  rw [Component.sameAll_eq]
  exact .and (.ends _) (Component.compareAll?_comparison graph.compareKnots?_knotwise _ _
    (components_refusals document))

variable {registry : Registry} {options : FormOptions} {maxDepth : Int} {text : String}
  {document : Document}

theorem holdsItself_of_endless (found : Document.read text fileName maxDepth = .ok document)
    (endless : (ofDocument document.value).compareLists? document.graph = none) :
    document.HoldsItself := by
  have comparison := compareLists?_comparison document.value document.graph
  rw [endless] at comparison
  obtain - | ⟨-, knot⟩ := comparison
  by_contra finite
  exact (Document.knotless_iff found).mpr finite _ _ knot

theorem accept_of_endless
    (endless : (ofDocument document.value).compareLists? document.graph = none) :
    accept registry options document = .error (.fault .recursion endlessComparisonMessage) := by
  simp only [accept, endless]

theorem accept_of_valid {same : Bool}
    (ends : (ofDocument document.value).compareLists? document.graph = some same)
    (valid : ((ofDocument document.value).validate registry options).valid = true) :
    accept registry options document =
      .ok ⟨ofDocument document.value,
        documentWarnings document.value ((ofDocument document.value).validate registry options),
        document⟩ := by
  simp only [accept, ends, valid, if_true]

theorem accept_of_invalid {same : Bool}
    (ends : (ofDocument document.value).compareLists? document.graph = some same)
    (invalid : ((ofDocument document.value).validate registry options).valid = false) :
    accept registry options document =
      .error (.invalid (rejection
        ((ofDocument document.value).validate registry options).errors)) := by
  simp only [accept, ends, invalid, Bool.false_eq_true, if_false]

end Form

end FormCompiler
