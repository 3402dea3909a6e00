import FormCompiler.Proofs.Tree.Position
import Mathlib.Data.List.Basic

set_option autoImplicit false

namespace FormCompiler.Component

def atAll? (components : List Component) : List Nat → Option Component
  | [] => none
  | index :: rest => (components[index]?).bind (·.at? rest)

mutual

def placed : Component → List (List Nat × Component)
  | ⟨type, name, properties, layout, children⟩ =>
    ([], ⟨type, name, properties, layout, children⟩) :: placedAll 0 children
termination_by structural component => component

def placedAll (start : Nat) : List Component → List (List Nat × Component)
  | [] => []
  | component :: rest =>
    (placed component).map (fun entry => (start :: entry.1, entry.2)) ++ placedAll (start + 1) rest
termination_by structural components => components

end

theorem placed_eq (component : Component) :
    component.placed = ([], component) :: placedAll 0 component.children := by
  cases component
  rfl

theorem placedAll_map_snd_of {components : List Component}
    (each : ∀ component ∈ components, component.placed.map Prod.snd = component.preorder)
    (start : Nat) : (placedAll start components).map Prod.snd = preorderAll components := by
  induction components generalizing start with
  | nil => rfl
  | cons component rest ih =>
    have first := each component List.mem_cons_self
    have later := ih (fun other member => each other (List.mem_cons_of_mem _ member)) (start + 1)
    simp [placedAll, preorderAll, ← first, later, Function.comp_def]

theorem placed_map_snd (component : Component) :
    component.placed.map Prod.snd = component.preorder := by
  induction component using Component.induct with
  | step component ih =>
    rw [placed_eq, preorder_eq, List.map_cons, placedAll_map_snd_of ih, preorderAll_eq_flatMap]

theorem placedAll_map_snd (start : Nat) (components : List Component) :
    (placedAll start components).map Prod.snd = preorderAll components :=
  placedAll_map_snd_of (fun component _ => component.placed_map_snd) start

theorem mem_placedAll_of {components : List Component}
    (each : ∀ component ∈ components, ∀ position source,
      (position, source) ∈ component.placed ↔ component.at? position = some source)
    (start : Nat) (position : List Nat) (source : Component) :
    (position, source) ∈ placedAll start components ↔
      ∃ index rest, position = (start + index) :: rest ∧
        atAll? components (index :: rest) = some source := by
  induction components generalizing start with
  | nil => simp [placedAll, atAll?]
  | cons component others ih =>
    have first := each component List.mem_cons_self
    have later := ih (fun other member => each other (List.mem_cons_of_mem _ member)) (start + 1)
    simp only [placedAll, List.mem_append, List.mem_map, Prod.mk.injEq, Prod.exists, later]
    constructor
    · rintro (⟨rest, found, inside, rfl, rfl⟩ | ⟨index, rest, rfl, found⟩)
      · exact ⟨0, rest, rfl, by simpa [atAll?] using (first rest found).mp inside⟩
      · exact ⟨index + 1, rest, by rw [Nat.add_assoc, Nat.add_comm 1],
          by simpa [atAll?] using found⟩
    · rintro ⟨index, rest, rfl, found⟩
      cases index with
      | zero =>
        have here : component.at? rest = some source := by simpa [atAll?] using found
        exact .inl ⟨rest, source, (first rest source).mpr here, rfl, rfl⟩
      | succ index =>
        exact .inr ⟨index, rest, by rw [Nat.add_assoc, Nat.add_comm 1],
          by simpa [atAll?] using found⟩

theorem mem_placed_iff (component : Component) (position : List Nat) (source : Component) :
    (position, source) ∈ component.placed ↔ component.at? position = some source := by
  induction component using Component.induct generalizing position source with
  | step component ih =>
    rw [placed_eq, List.mem_cons, mem_placedAll_of ih]
    cases position with
    | nil => simp [at?, eq_comm]
    | cons index rest => simp [at?_cons, atAll?]

theorem mem_placedAll_iff (components : List Component) (position : List Nat)
    (source : Component) :
    (position, source) ∈ placedAll 0 components ↔ atAll? components position = some source := by
  rw [mem_placedAll_of (fun component _ => component.mem_placed_iff)]
  cases position with
  | nil => simp [atAll?]
  | cons index rest => simp

theorem mem_preorderAll_iff {components : List Component} {source : Component} :
    source ∈ preorderAll components ↔ ∃ position, atAll? components position = some source := by
  rw [← placedAll_map_snd 0]
  simp [mem_placedAll_iff]

theorem placedAll_sorted_of {components : List Component}
    (each : ∀ component ∈ components, (component.placed.map Prod.fst).Pairwise (· < ·))
    (start : Nat) : ((placedAll start components).map Prod.fst).Pairwise (· < ·) := by
  induction components generalizing start with
  | nil => exact .nil
  | cons component rest ih =>
    have first := each component List.mem_cons_self
    have later := ih (fun other member => each other (List.mem_cons_of_mem _ member)) (start + 1)
    have own : (component.placed.map fun entry => start :: entry.1).Pairwise (· < ·) := by
      rw [List.pairwise_map] at first ⊢
      exact first.imp fun lower => List.cons_lt_cons_iff.mpr (.inr ⟨rfl, lower⟩)
    simp only [placedAll, List.map_append, List.map_map, List.pairwise_append]
    refine ⟨own, later, ?_⟩
    -- Positions in the first tree have a lower first index than those in the others.
    intro left inFirst right inRest
    obtain ⟨entry, -, rfl⟩ := List.mem_map.mp inFirst
    obtain ⟨⟨position, source⟩, member, rfl⟩ := List.mem_map.mp inRest
    obtain ⟨index, more, rfl, -⟩ :=
      (mem_placedAll_of (fun component _ => component.mem_placed_iff) _ _ _).mp member
    exact List.cons_lt_cons_iff.mpr (.inl (by omega))

theorem placed_sorted (component : Component) :
    (component.placed.map Prod.fst).Pairwise (· < ·) := by
  induction component using Component.induct with
  | step component ih =>
    rw [placed_eq, List.map_cons, List.pairwise_cons]
    refine ⟨fun position member => ?_, placedAll_sorted_of ih 0⟩
    obtain ⟨⟨place, source⟩, inside, rfl⟩ := List.mem_map.mp member
    obtain ⟨index, rest, rfl, -⟩ :=
      (mem_placedAll_of (fun component _ => component.mem_placed_iff) _ _ _).mp inside
    exact List.nil_lt_cons _ _

theorem placedAll_sorted (start : Nat) (components : List Component) :
    ((placedAll start components).map Prod.fst).Pairwise (· < ·) :=
  placedAll_sorted_of (fun component _ => component.placed_sorted) start

end FormCompiler.Component
