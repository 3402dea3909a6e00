import FormCompiler.Proofs.Document.Reading
import FormCompiler.Proofs.Form.Nesting
import FormCompiler.Proofs.Graph.Knots
import FormCompiler.Proofs.Json.Exportable

set_option autoImplicit false

namespace FormCompiler

open Json (Refusal)

namespace Value

theorem refusals_of_scalar {value : Value} (scalar : value.isScalar = true) :
    value.refusals = [] := by
  cases value with
  | list | tuple | map | set | handler | knot => cases scalar
  | null | bool | int | float | text | bytes | date | dateTime => rfl

theorem refusalsIn_of_scalars {members : List Value}
    (scalars : ∀ member ∈ members, member.isScalar = true) : refusalsIn members = [] := by
  rw [refusalsIn_eq, List.flatMap_eq_nil_iff]
  exact fun member isMember => refusals_of_scalar (scalars member isMember)

theorem Gives.refusals_subset {whole part : Value} (gives : whole.Gives part) :
    part.refusals ⊆ whole.refusals := by
  obtain rfl | ⟨entries, rfl, entry, member, rfl⟩ := gives
  · exact List.nil_subset _
  · exact fun refusal refused =>
      (mem_refusals_map_iff entries refusal).mpr ⟨entry, member, .inr refused⟩

theorem refusals_subset_of_asBag (value : Value) :
    ∀ entry ∈ value.asBag, entry.2.refusals ⊆ value.refusals := by
  cases value with
  | map entries =>
    refine Entries.forall_update (fun item : Value => item.refusals ⊆ (Value.map entries).refusals)
      (by simp) ?_
    refine List.forall_mem_map.mpr fun entry member => ?_
    exact Gives.refusals_subset (.inr ⟨entries, rfl, entry, member, rfl⟩)
  | _ => simp [asBag]

/-- The scalars that have no text as a key. -/
inductive DateOrBytes : Value → Prop where
  | bytes (data : List UInt8) : DateOrBytes (.bytes data)
  | date (day : Date) : DateOrBytes (.date day)
  | dateTime (time : DateTime) : DateOrBytes (.dateTime time)

theorem dateOrBytes_of_scalar {key : Value} (scalar : key.isScalar = true)
    (textless : key.hasKeyText = false) : key.DateOrBytes := by
  cases key with
  | bytes data => exact .bytes data
  | date day => exact .date day
  | dateTime time => exact .dateTime time
  | list | tuple | map | set | handler | knot => cases scalar
  | null | bool | int | float | text => cases textless

/-- No part of a value lacks an end. -/
def Knotless (value : Value) : Prop := ∀ number obstacle, Refusal.knot number obstacle ∉ value.refusals

end Value

inductive Json.Refusal.OfDocument : Refusal → Prop where
  | key {key : Value} (kind : key.DateOrBytes) : OfDocument (.key key)
  | knot (number : Nat) (obstacle : Obstacle) : OfDocument (.knot number obstacle)

namespace Graph

open Yaml (Fitting)

variable {graph : Graph} {count levels index : Nat}

-- A cell refuses what its parts refuse, and its own keys.
theorem mem_refusals_value_iff {number : Nat} {cell : Cell} (fits : cell.Fits count number)
    (part : Nat → Value) (refusal : Refusal) :
    refusal ∈ (cell.value part).refusals ↔
      (∃ held ∈ cell.held, refusal ∈ (part held).refusals) ∨
        ∃ entries, cell = .map entries ∧ ∃ entry ∈ entries,
          refusal = .key entry.1 ∧ entry.1.hasKeyText = false := by
  cases cell with
  | scalar value => simp [Cell.value, Cell.held, Value.refusals_of_scalar fits]
  | set members => simp [Cell.value, Cell.held, Value.refusals, Value.refusalsIn_of_scalars fits]
  | list parts | tuple parts =>
    simp [Cell.value, Cell.held, Value.refusals, Value.refusalsIn_eq]
  | map entries =>
    simp only [Cell.value, Cell.held, Value.mem_refusals_map_iff, and_or_left, exists_or]
    rw [or_comm]
    refine or_congr ?_ (by simp)
    constructor
    · rintro ⟨_, written, inside⟩
      obtain ⟨entry, member, rfl⟩ := List.mem_map.mp written
      exact ⟨entry.2, List.mem_map_of_mem member, inside⟩
    · rintro ⟨_, held, inside⟩
      obtain ⟨entry, member, rfl⟩ := List.mem_map.mp held
      exact ⟨_, List.mem_map_of_mem member, inside⟩

theorem knot_ofDocument (index : Nat) :
    ∀ refusal ∈ (graph.knot index).refusals, refusal.OfDocument := by
  simp [knot, Value.refusals, Refusal.OfDocument.knot]

theorem not_knotless_knot (index : Nat) : ¬(graph.knot index).Knotless :=
  fun knotless => knotless _ _ (List.mem_singleton_self _)

theorem unfold_refusals (fitting : Fitting count graph) (levels index : Nat) :
    ∀ refusal ∈ (graph.unfold levels index).refusals, refusal.OfDocument := by
  induction levels generalizing index with
  | zero => exact knot_ofDocument index
  | succ levels ih =>
    intro refusal refused
    cases found : graph[index]? with
    | none => simp [unfold_of_none found, Value.refusals] at refused
    | some cell =>
      cases knot : graph.isKnot index with
      | true =>
        rw [unfold_of_isKnot knot] at refused
        exact knot_ofDocument index refusal refused
      | false =>
        have fits := fitting index cell found
        rw [unfold_of_not_isKnot knot found, mem_refusals_value_iff fits] at refused
        rcases refused with ⟨part, -, inside⟩ | ⟨entries, rfl, entry, member, rfl, textless⟩
        · exact ih part refusal inside
        · exact .key (Value.dateOrBytes_of_scalar (fits entry member).1 textless)

theorem unfold_knotless_iff (fitting : Fitting count graph) :
    (graph.unfold levels index).Knotless ↔ graph.opened.Shallow levels index := by
  induction levels generalizing index with
  | zero => exact iff_of_false (not_knotless_knot index) id
  | succ levels ih =>
    cases found : graph[index]? with
    | none =>
      have held : graph.held index = [] := by simp [held, found]
      simp [unfold_of_none found, Value.Knotless, Value.refusals, Shallow, opened_holds_iff, held]
    | some cell =>
      have held : graph.held index = cell.held := by simp [held, found]
      cases knot : graph.isKnot index with
      | true =>
        have cyclic := (isKnot_iff.mp knot).2
        rw [unfold_of_isKnot knot]
        exact iff_of_false (not_knotless_knot index) fun shallow =>
          grounded_iff.mp shallow.grounded cyclic
      | false =>
        simp only [Shallow, opened_holds_iff, held, ← ih, Value.Knotless,
          unfold_of_not_isKnot knot found, mem_refusals_value_iff (fitting index cell found)]
        constructor
        · exact fun knotless part member number obstacle inside =>
            knotless number obstacle (.inl ⟨part, member, inside⟩)
        · rintro each number obstacle (⟨part, member, inside⟩ | ⟨entries, -, entry, -, same, -⟩)
          · exact each part member number obstacle inside
          · cases same

end Graph

namespace Document

variable {text file : String} {maxDepth : Int} {document : Document}

/-- Some part of the document is a part of itself, which only a tuple lets the guard pass. -/
def HoldsItself (document : Document) : Prop :=
  document.graph.opened.ReachesCycle document.root

theorem refusals_of_read (found : read text file maxDepth = .ok document) :
    ∀ refusal ∈ document.value.refusals, refusal.OfDocument := by
  obtain ⟨loaded, -⟩ := read_eq_ok_iff.mp found
  obtain ⟨count, fitting⟩ := Yaml.load_fitting loaded
  exact Graph.unfold_refusals fitting _ _

theorem knotless_iff (found : read text file maxDepth = .ok document) :
    document.value.Knotless ↔ ¬document.HoldsItself := by
  obtain ⟨loaded, -⟩ := read_eq_ok_iff.mp found
  obtain ⟨count, fitting⟩ := Yaml.load_fitting loaded
  have same : document.graph.opened.size = document.graph.size := Array.size_map
  rw [value, Graph.value, Graph.unfold_knotless_iff fitting]
  constructor
  · exact fun shallow => Graph.grounded_iff.mp shallow.grounded
  · exact fun finite => same ▸ Graph.shallow_of_acyclic finite

end Document

namespace Component

def values (component : Component) : List Value :=
  component.name :: (component.properties ++ component.layout).map Prod.snd

def RefusalsAmong (components : List Component) (refusals : List Refusal) : Prop :=
  ∀ component ∈ preorderAll components, ∀ value ∈ component.values, value.refusals ⊆ refusals

namespace RefusalsAmong

theorem nil (refusals : List Refusal) : RefusalsAmong [] refusals := by
  simp [RefusalsAmong, preorderAll]

theorem mono {components : List Component} {refusals more : List Refusal}
    (among : RefusalsAmong components refusals) (le : refusals ⊆ more) :
    RefusalsAmong components more :=
  fun component member value given => List.Subset.trans (among component member value given) le

theorem cons_iff {component : Component} {rest : List Component} {refusals : List Refusal} :
    RefusalsAmong (component :: rest) refusals ↔
      (∀ value ∈ component.values, value.refusals ⊆ refusals) ∧
        RefusalsAmong component.children refusals ∧ RefusalsAmong rest refusals := by
  simp only [RefusalsAmong, preorderAll_cons, List.forall_mem_cons, List.forall_mem_append]

theorem cons {component : Component} {rest : List Component} {refusals : List Refusal}
    (own : ∀ value ∈ component.values, value.refusals ⊆ refusals)
    (children : RefusalsAmong component.children refusals) (others : RefusalsAmong rest refusals) :
    RefusalsAmong (component :: rest) refusals :=
  cons_iff.mpr ⟨own, children, others⟩

end RefusalsAmong

theorem values_refusals {component : Component} {name properties layout : Value}
    {refusals : List Refusal}
    (fromName : component.name = if name.isNull then .text "" else name)
    (fromProperties : component.properties = properties.asBag)
    (fromLayout : component.layout = layout.asBag) (inName : name.refusals ⊆ refusals)
    (inProperties : properties.refusals ⊆ refusals) (inLayout : layout.refusals ⊆ refusals) :
    ∀ value ∈ component.values, value.refusals ⊆ refusals := by
  intro value given
  rw [values, List.mem_cons, List.mem_map, fromName, fromProperties, fromLayout] at given
  rcases given with rfl | ⟨entry, member, rfl⟩
  · split
    · exact List.nil_subset _
    · exact inName
  · rcases List.mem_append.mp member with member | member
    · exact List.Subset.trans (properties.refusals_subset_of_asBag entry member) inProperties
    · exact List.Subset.trans (layout.refusals_subset_of_asBag entry member) inLayout

theorem ofList_refusals : ∀ value : Value, RefusalsAmong (ofList value) value.refusals := by
  refine (ofItems.mutual_induct
    (fun items => RefusalsAmong (ofItems items) (Value.refusalsIn items))
    (fun entries => RefusalsAmong (childrenOf entries) (Value.refusalsUnder entries))
    (fun value => RefusalsAmong (ofList value) value.refusals)
    ?list ?tuple ?noList ?noItems ?component ?stray ?noEntries ?children ?otherKey).2.2
  -- One case for each branch of the functions that read a list, its items and a component's fields.
  case list => exact fun items ih => ih
  case tuple => exact fun items ih => ih
  case noList =>
    intro value notList notTuple
    cases value with
    | list items => exact absurd rfl (notList items)
    | tuple items => exact absurd rfl (notTuple items)
    | _ => exact .nil _
  case noItems => exact .nil _
  case component =>
    intro entries rest ihEntries ihRest
    have inside : (Value.map entries).refusals ⊆ Value.refusalsIn (.map entries :: rest) :=
      List.subset_append_left _ _
    have given (field : String) :
        ((Value.map entries).field field).refusals ⊆ Value.refusalsIn (.map entries :: rest) :=
      List.Subset.trans ((Value.map entries).gives_field field).refusals_subset inside
    refine .cons ?_ (ihEntries.mono inside) (ihRest.mono (List.subset_append_right _ _))
    exact values_refusals rfl rfl rfl (given "name") (given "properties")
      (given "layout_properties")
  case stray =>
    intro head rest notMap ih
    have skipped : ofItems (head :: rest) = ofItems rest := by
      cases head with
      | map entries => exact absurd rfl (notMap entries)
      | _ => rfl
    exact skipped ▸ ih.mono (List.subset_append_right _ _)
  case noEntries => exact .nil _
  case children =>
    intro value rest ih
    refine ih.mono ?_
    simp [Value.refusalsUnder, Value.hasKeyText]
  case otherKey =>
    intro key value rest otherKey ih
    simp only [childrenOf]
    refine ih.mono fun refused inside => ?_
    simp [Value.refusalsUnder, inside]

end Component

namespace Form

open Component (RefusalsAmong)

theorem components_refusals (document : Value) :
    RefusalsAmong (ofDocument document).components document.refusals :=
  (Component.ofList_refusals _).mono (document.gives_field "components").refusals_subset

theorem container_refusals (document : Value) :
    RefusalsAmong [(ofDocument document).container] document.refusals := by
  have container := (document.gives_field "container").refusals_subset
  have given (field : String) :
      (Bag.value (document.field "container").asBag field).refusals ⊆ document.refusals :=
    List.Subset.trans ((document.field "container").gives_of_asBag field).refusals_subset
      container
  refine .cons ?_ ?_ (.nil _)
  · exact Component.values_refusals rfl rfl rfl (given "name") (given "properties")
      (given "layout_properties")
  · simp only [ofDocument, containerOf]
    -- The children come from the container's own list or from the flat one of the form.
    split
    · exact (Component.ofList_refusals _).mono (given "components")
    · exact components_refusals document

end Form

end FormCompiler
