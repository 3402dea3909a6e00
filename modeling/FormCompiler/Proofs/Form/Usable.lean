import FormCompiler.Form.Record
import Mathlib.Data.List.Forall2
import Mathlib.Tactic.Common

set_option autoImplicit false

namespace FormCompiler

namespace Checked

variable {α β : Type}

theorem seq_eq_good_iff (f : Checked (α → β)) (x : Checked α) (result : β) :
    f <*> x = .good result ↔ ∃ g a, f = .good g ∧ x = .good a ∧ g a = result := by
  change ap f x = .good result ↔ _
  cases f <;> cases x <;> simp [ap]

theorem map_eq_good_iff (f : α → β) (x : Checked α) (result : β) :
    f <$> x = .good result ↔ ∃ a, x = .good a ∧ f a = result := by
  change map f x = .good result ↔ _
  cases x <;> simp [map]

theorem under_eq_good_iff (step : String) (x : Checked α) (result : α) :
    x.under step = .good result ↔ x = .good result := by
  cases x <;> simp [under]

end Checked

namespace Component

def isChildrenKey : Value → Bool
  | .text "components" => true
  | _ => false

def ownFields (entries : List (Value × Value)) : List (Value × Value) :=
  entries.filter fun entry => !isChildrenKey entry.1

def listedChildren? (entries : List (Value × Value)) : Option (List Value) :=
  match Reading.field? entries "components" with
  | none => some []
  | some source => Reading.items? source

theorem isChildrenKey_text (key : String) :
    isChildrenKey (.text key) = decide (key = "components") := by
  by_cases same : key = "components"
  · subst same
    rfl
  · simp only [isChildrenKey, same, decide_false]
    split
    · next written => exact absurd (Value.text.inj written) same
    · rfl

theorem field?_ownFields (entries : List (Value × Value)) (name : String) :
    Reading.field? (ownFields entries) name =
      if name = "components" then none else Reading.field? entries name := by
  induction entries with
  | nil => simp [ownFields, Reading.field?]
  | cons entry rest ih =>
    obtain ⟨key, value⟩ := entry
    by_cases children : isChildrenKey key = true
    · have skipped : ownFields ((key, value) :: rest) = ownFields rest := by
        simp [ownFields, children]
      rw [skipped, ih]
      cases key with
      | text chars =>
        rw [isChildrenKey_text, decide_eq_true_eq] at children
        by_cases same : name = "components"
        · simp [same]
        · have differs : "components" ≠ name := Ne.symm same
          simp [Reading.field?, children, same, differs]
      | _ => cases children
    · have kept : ownFields ((key, value) :: rest) = (key, value) :: ownFields rest := by
        simp [ownFields, children]
      rw [kept]
      cases key with
      | text chars =>
        rw [isChildrenKey_text, decide_eq_true_eq] at children
        by_cases same : chars = name
        · subst same
          simp [Reading.field?, children]
        · simp [Reading.field?, same, ih]
      | _ => simpa [Reading.field?] using ih

theorem readChildren_eq (entries : List (Value × Value)) :
    readChildren entries =
      match Reading.field? entries "components" with
      | none => .good []
      | some source => (readList source).under "components" := by
  induction entries with
  | nil => rfl
  | cons entry rest ih =>
    obtain ⟨key, value⟩ := entry
    cases key with
    | text chars =>
      by_cases same : chars = "components"
      · subst same
        simp [readChildren, Reading.field?]
      · simp [readChildren, Reading.field?, same, ih]
    | _ => simpa [readChildren, Reading.field?] using ih

theorem readItems_eq_good_iff (index : Nat) (items : List Value) (components : List Component) :
    readItems index items = .good components ↔
      List.Forall₂ (fun item component => read item = .good component) items components := by
  induction items generalizing index components with
  | nil => simp [readItems, eq_comm]
  | cons item rest ih =>
    simp only [readItems, Checked.seq_eq_good_iff, Checked.map_eq_good_iff,
      Checked.under_eq_good_iff, ih, List.forall₂_cons_left_iff]
    constructor
    · rintro ⟨_, others, ⟨component, first, rfl⟩, later, rfl⟩
      exact ⟨component, others, first, later, rfl⟩
    · rintro ⟨component, others, first, later, rfl⟩
      exact ⟨_, others, ⟨component, first, rfl⟩, later, rfl⟩

theorem readList_eq_good_iff (source : Value) (components : List Component) :
    readList source = .good components ↔ ∃ items, Reading.items? source = some items ∧
      List.Forall₂ (fun item component => read item = .good component) items components := by
  cases source <;> simp [readList, Reading.items?, readItems_eq_good_iff, Checked.fail]

theorem readChildren_eq_good_iff (entries : List (Value × Value)) (components : List Component) :
    readChildren entries = .good components ↔ ∃ items, listedChildren? entries = some items ∧
      List.Forall₂ (fun item component => read item = .good component) items components := by
  rw [readChildren_eq, listedChildren?]
  cases Reading.field? entries "components" with
  | none => simp [eq_comm]
  | some source => simp [Checked.under_eq_good_iff, readList_eq_good_iff]

theorem read_map_iff (entries : List (Value × Value)) (component : Component) :
    read (.map entries) = .good component ↔
      Reading.withDefault entries "type" "" Reading.text = .good component.type ∧
      Reading.withDefault entries "name" (.text "") Reading.any = .good component.name ∧
      Reading.withDefault entries "properties" [] Reading.bag = .good component.properties ∧
      Reading.withDefault entries "layout_properties" [] Reading.bag = .good component.layout ∧
      readChildren entries = .good component.children := by
  obtain ⟨type, name, properties, layout, children⟩ := component
  simp only [read, Checked.seq_eq_good_iff, Checked.map_eq_good_iff]
  constructor
  · rintro ⟨_, _, ⟨_, _, ⟨_, _, ⟨_, _, ⟨_, isType, rfl⟩, isName, rfl⟩, areProperties, rfl⟩, isLayout,
      rfl⟩, areChildren, same⟩
    cases same
    exact ⟨isType, isName, areProperties, isLayout, areChildren⟩
  · rintro ⟨isType, isName, areProperties, isLayout, areChildren⟩
    exact ⟨_, _, ⟨_, _, ⟨_, _, ⟨_, _, ⟨_, isType, rfl⟩, isName, rfl⟩, areProperties, rfl⟩, isLayout,
      rfl⟩, areChildren, rfl⟩

theorem read_map_eq_good_iff (entries : List (Value × Value)) (component : Component) :
    read (.map entries) = .good component ↔
      read (.map (ownFields entries)) = .good { component with children := [] } ∧
        readChildren entries = .good component.children := by
  have childless : readChildren (ownFields entries) = .good [] := by
    rw [readChildren_eq, field?_ownFields, if_pos rfl]
  have field {α : Type} (name : String) (differs : name ≠ "components") (default : α)
      (reading : Value → Checked α) :
      Reading.withDefault (ownFields entries) name default reading =
        Reading.withDefault entries name default reading := by
    rw [Reading.withDefault, Reading.withDefault, field?_ownFields, if_neg differs]
  rw [read_map_iff, read_map_iff, field "type" (by decide), field "name" (by decide),
    field "properties" (by decide), field "layout_properties" (by decide)]
  simp only [childless, and_true, and_assoc]

theorem children_of_ownFields {entries : List (Value × Value)} {head : Component}
    (own : read (.map (ownFields entries)) = .good head) : head.children = [] := by
  have read := ((read_map_iff _ _).mp own).2.2.2.2
  rw [readChildren_eq, field?_ownFields, if_pos rfl] at read
  cases head
  cases read
  rfl

-- A value that is a component, and so are all those listed in it at any depth.
inductive Usable : Value → Prop where
  | mapping {entries : List (Value × Value)} {head : Component} {items : List Value}
    (own : read (.map (ownFields entries)) = .good head)
    (listed : listedChildren? entries = some items) (each : ∀ item ∈ items, Usable item) :
    Usable (.map entries)

theorem exists_forall₂_iff {α β : Type} {relation : α → β → Prop} (items : List α) :
    (∃ results, List.Forall₂ relation items results) ↔
      ∀ item ∈ items, ∃ result, relation item result := by
  induction items with
  | nil => simp
  | cons item rest ih =>
    rw [List.forall_mem_cons, ← ih]
    constructor
    · rintro ⟨results, all⟩
      cases all with
      | cons first others => exact ⟨⟨_, first⟩, _, others⟩
    · rintro ⟨⟨result, first⟩, results, others⟩
      exact ⟨result :: results, .cons first others⟩

theorem readable_of_usable {value : Value} (usable : Usable value) :
    ∃ component, read value = .good component := by
  induction usable with
  | @mapping entries head items own listed each ih =>
    obtain ⟨components, areChildren⟩ := (exists_forall₂_iff items).mpr ih
    have below := (readChildren_eq_good_iff entries components).mpr ⟨items, listed, areChildren⟩
    have same : { head with children := [] } = head := by
      have none := children_of_ownFields own
      cases head
      cases none
      rfl
    refine ⟨{ head with children := components }, ?_⟩
    rw [read_map_eq_good_iff, same]
    exact ⟨own, below⟩

theorem usable_of_readable :
    ∀ value : Value, (∃ component, read value = .good component) → Usable value := by
  -- By the recursion of the reading; a list is usable item by item.
  refine read.induct
    (fun value => (∃ component, read value = .good component) → Usable value)
    (fun entries => ∀ items, listedChildren? entries = some items →
      ∀ item ∈ items, (∃ component, read item = .good component) → Usable item)
    (fun value => ∀ items, Reading.items? value = some items →
      ∀ item ∈ items, (∃ component, read item = .good component) → Usable item)
    (fun _ items => ∀ item ∈ items, (∃ component, read item = .good component) → Usable item)
    ?mapping ?noMapping ?list ?tuple ?set ?noList ?noItems ?items ?noEntries ?children ?otherKey
  case mapping =>
    intro entries below
    rintro ⟨component, reads⟩
    obtain ⟨own, areChildren⟩ := (read_map_eq_good_iff entries component).mp reads
    obtain ⟨items, listed, each⟩ := (readChildren_eq_good_iff _ _).mp areChildren
    have readable := (exists_forall₂_iff items).mp ⟨_, each⟩
    exact .mapping own listed fun item member =>
      below items listed item member (readable item member)
  case noMapping =>
    intro value notMap
    rintro ⟨component, reads⟩
    cases value with
    | map entries => exact absurd rfl (notMap entries)
    | _ => cases reads
  case list =>
    intro items ih listed same
    cases same
    exact ih
  case tuple =>
    intro items ih listed same
    cases same
    exact ih
  case set =>
    intro items ih listed same
    cases same
    exact ih
  case noList =>
    intro value notList notTuple notSet items listed
    cases value with
    | list items => exact absurd rfl (notList items)
    | tuple items => exact absurd rfl (notTuple items)
    | set items => exact absurd rfl (notSet items)
    | _ => cases listed
  case noItems => simp
  case items =>
    intro index item rest first others
    exact List.forall_mem_cons.mpr ⟨first, others⟩
  case noEntries =>
    intro items listed
    cases listed
    simp
  case children => exact fun value rest ih => ih
  case otherKey =>
    intro key value rest otherKey ih
    have passed : listedChildren? ((key, value) :: rest) = listedChildren? rest := by
      rw [listedChildren?, listedChildren?]
      cases key with
      | text name =>
        have differs : name ≠ "components" := fun same => otherKey (same ▸ rfl)
        rw [Reading.field?, if_neg differs]
      | _ => rfl
    rwa [passed]

theorem usable_iff (value : Value) : Usable value ↔ ∃ component, read value = .good component :=
  ⟨readable_of_usable, usable_of_readable value⟩

end Component

end FormCompiler
