import FormCompiler.Entries
import Mathlib.Data.List.Basic

set_option autoImplicit false

namespace FormCompiler

namespace Entries

variable {κ α : Type} [BEq κ] [LawfulBEq κ]

-- Only the first entry under a key is found, so that repeated keys would make the order count.
theorem get?_of_perm {first second : Entries κ α} (distinct : (keys second).Nodup)
    (same : first.Perm second) (key : κ) : get? first key = get? second key := by
  cases found : get? first key with
  | some value =>
    have member : (key, value) ∈ second := same.subset (mem_of_get? found)
    exact (get?_of_mem distinct member).symm
  | none =>
    have absent : key ∉ keys second := by
      intro known
      have known : key ∈ keys first := (same.map Prod.fst).symm.subset known
      rw [← isSome_get?_iff, found] at known
      cases known
    exact ((get?_eq_none_iff second key).mpr absent).symm

theorem get?_filter_keys (keep : κ → Bool) (entries : Entries κ α) (key : κ) :
    get? (entries.filter fun entry => keep entry.1) key =
      if keep key then get? entries key else none := by
  induction entries with
  | nil => simp [get?]
  | cons entry rest ih =>
    by_cases same : entry.1 = key
    · by_cases kept : keep key = true <;> simp_all [get?]
    · by_cases kept : keep entry.1 = true <;> simp [get?, same, kept, ih]

end Entries

end FormCompiler
