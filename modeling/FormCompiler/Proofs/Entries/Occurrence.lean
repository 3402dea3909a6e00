import FormCompiler.Entries
import Mathlib.Data.List.Basic

set_option autoImplicit false

namespace FormCompiler

variable {α β : Type}

structure ListsOnce [BEq α] (listed met : List α) : Prop where
  mem_iff : ∀ item, item ∈ listed ↔ item ∈ met
  ordered : listed.Pairwise fun earlier later => met.idxOf earlier < met.idxOf later

namespace ListsOnce

variable [BEq α] {listed met : List α}

theorem nil : ListsOnce ([] : List α) [] := ⟨fun _ => Iff.rfl, .nil⟩

theorem nodup (once : ListsOnce listed met) : listed.Nodup := by
  apply once.ordered.imp
  rintro earlier later lower rfl
  exact Nat.lt_irrefl _ lower

variable [LawfulBEq α]

theorem meet (once : ListsOnce listed met) (item : α) :
    ListsOnce (if item ∈ listed then listed else listed ++ [item]) (met ++ [item]) := by
  -- What was met before keeps its place among the items met.
  have kept : listed.Pairwise fun earlier later =>
      (met ++ [item]).idxOf earlier < (met ++ [item]).idxOf later := by
    apply once.ordered.imp_of_mem
    intro earlier later isEarlier isLater lower
    rwa [List.idxOf_append_of_mem ((once.mem_iff _).mp isEarlier),
      List.idxOf_append_of_mem ((once.mem_iff _).mp isLater)]
  by_cases known : item ∈ listed
  · rw [if_pos known]
    refine ⟨fun other => ?_, kept⟩
    rw [List.mem_append, List.mem_singleton, ← once.mem_iff]
    constructor
    · exact .inl
    · rintro (member | rfl)
      · exact member
      · exact known
  · rw [if_neg known]
    have new : item ∉ met := fun member => known ((once.mem_iff item).mpr member)
    refine ⟨fun other => by simp [once.mem_iff], List.pairwise_append.mpr ⟨kept, by simp, ?_⟩⟩
    intro earlier isEarlier later isLater
    cases List.mem_singleton.mp isLater
    have before := (once.mem_iff earlier).mp isEarlier
    rw [List.idxOf_append_of_mem before, List.idxOf_append_of_notMem new]
    have inside := List.idxOf_lt_length_of_mem before
    omega

theorem foldl (once : ListsOnce listed met) (items : List α) :
    ListsOnce
      (items.foldl (fun seen item => if seen.contains item then seen else seen ++ [item]) listed)
      (met ++ items) := by
  induction items generalizing listed met with
  | nil => simpa using once
  | cons item rest ih =>
    have step := ih (once.meet item)
    simpa [List.contains_iff_mem] using step

theorem keys_set {entries : Entries α β} (once : ListsOnce (Entries.keys entries) met) (key : α)
    (value : β) : ListsOnce (Entries.keys (Entries.set entries key value)) (met ++ [key]) := by
  rw [Entries.keys_set]
  simpa using once.meet key

end ListsOnce

def lastGiven? (given : α → Option β) (items : List α) : Option β :=
  items.reverse.findSome? given

theorem lastGiven?_eq_some_iff (given : α → Option β) (items : List α) (result : β) :
    lastGiven? given items = some result ↔ ∃ earlier item later,
      items = earlier ++ item :: later ∧ given item = some result ∧
        ∀ other ∈ later, given other = none := by
  rw [lastGiven?, List.findSome?_eq_some_iff]
  constructor
  · rintro ⟨later, item, earlier, split, gives, none⟩
    refine ⟨earlier.reverse, item, later.reverse, ?_, gives, by simpa using none⟩
    simpa using congrArg List.reverse split
  · rintro ⟨earlier, item, later, rfl, gives, none⟩
    exact ⟨later.reverse, item, earlier.reverse, by simp, gives, by simpa using none⟩

theorem lastGiven?_of_form {γ : Type} {given : α → Option β} {form : γ → α} {store : γ → β}
    (forms : ∀ item result, given item = some result ↔
      ∃ part, item = form part ∧ result = store part) (items : List α) (result : β) :
    lastGiven? given items = some result ↔ ∃ earlier part later,
      items = earlier ++ form part :: later ∧ (∀ other, form other ∉ later) ∧
        result = store part := by
  have silent (item : α) : given item = none ↔ ∀ part, item ≠ form part := by
    rw [Option.eq_none_iff_forall_ne_some]
    constructor
    · rintro none part rfl
      exact none (store part) ((forms _ _).mpr ⟨part, rfl, rfl⟩)
    · intro differs other gives
      obtain ⟨part, same, -⟩ := (forms _ _).mp gives
      exact differs part same
  rw [lastGiven?_eq_some_iff]
  constructor
  · rintro ⟨earlier, item, later, rfl, gives, none⟩
    obtain ⟨part, rfl, stored⟩ := (forms _ _).mp gives
    exact ⟨earlier, part, later, rfl,
      fun other member => (silent _).mp (none _ member) other rfl, stored⟩
  · rintro ⟨earlier, part, later, rfl, others, stored⟩
    refine ⟨earlier, form part, later, rfl, (forms _ _).mpr ⟨part, rfl, stored⟩, ?_⟩
    intro item member
    rw [silent]
    rintro other rfl
    exact others other member

theorem lastGiven?_cons (given : α → Option β) (item : α) (items : List α) :
    lastGiven? given (item :: items) = (lastGiven? given items).or (given item) := by
  simp [lastGiven?, List.findSome?_append]

end FormCompiler
