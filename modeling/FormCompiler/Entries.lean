set_option autoImplicit false

namespace FormCompiler

abbrev Entries (κ α : Type) := List (κ × α)

namespace Entries

variable {κ α : Type} [BEq κ]

def get? : Entries κ α → κ → Option α
  | [], _ => none
  | (k, a) :: rest, key => if k == key then some a else get? rest key

def contains (entries : Entries κ α) (key : κ) : Bool :=
  (get? entries key).isSome

def set : Entries κ α → κ → α → Entries κ α
  | [], key, value => [(key, value)]
  | (k, a) :: rest, key, value =>
    if k == key then (k, value) :: rest else (k, a) :: set rest key value

def erase : Entries κ α → κ → Entries κ α
  | [], _ => []
  | (k, a) :: rest, key => if k == key then erase rest key else (k, a) :: erase rest key

/-- Writes the entries of `later` one after another. -/
def update (base later : Entries κ α) : Entries κ α :=
  later.foldl (fun written entry => set written entry.1 entry.2) base

def ofList (pairs : List (κ × α)) : Entries κ α :=
  update [] pairs

def keys (entries : Entries κ α) : List κ :=
  entries.map Prod.fst

theorem forall_entry_set (fitsKey : κ → Prop) (fits : α → Prop) {entries : Entries κ α} {key : κ}
    {value : α} (each : ∀ entry ∈ entries, fitsKey entry.1 ∧ fits entry.2)
    (fit : fitsKey key ∧ fits value) :
    ∀ entry ∈ set entries key value, fitsKey entry.1 ∧ fits entry.2 := by
  induction entries with
  | nil => simpa [set] using fit
  | cons entry rest ih =>
    obtain ⟨first, others⟩ := List.forall_mem_cons.mp each
    simp only [set]
    split
    · exact List.forall_mem_cons.mpr ⟨⟨first.1, fit.2⟩, others⟩
    · exact List.forall_mem_cons.mpr ⟨first, ih others⟩

theorem forall_entry_update (fitsKey : κ → Prop) (fits : α → Prop) {base later : Entries κ α}
    (each : ∀ entry ∈ base, fitsKey entry.1 ∧ fits entry.2)
    (added : ∀ entry ∈ later, fitsKey entry.1 ∧ fits entry.2) :
    ∀ entry ∈ update base later, fitsKey entry.1 ∧ fits entry.2 := by
  induction later generalizing base with
  | nil => exact each
  | cons entry rest ih =>
    obtain ⟨first, others⟩ := List.forall_mem_cons.mp added
    exact ih (forall_entry_set fitsKey fits each first) others

theorem forall_set (fits : α → Prop) {entries : Entries κ α} {key : κ} {value : α}
    (each : ∀ entry ∈ entries, fits entry.2) (fit : fits value) :
    ∀ entry ∈ set entries key value, fits entry.2 := by
  simpa using forall_entry_set (fun _ => True) fits
    (fun entry member => ⟨trivial, each entry member⟩) ⟨trivial, fit⟩

theorem forall_update (fits : α → Prop) {base later : Entries κ α}
    (each : ∀ entry ∈ base, fits entry.2) (added : ∀ entry ∈ later, fits entry.2) :
    ∀ entry ∈ update base later, fits entry.2 := by
  simpa using forall_entry_update (fun _ => True) fits
    (fun entry member => ⟨trivial, each entry member⟩)
    fun entry member => ⟨trivial, added entry member⟩

theorem exists_mem_of_get? {entries : Entries κ α} {key : κ} {value : α}
    (found : get? entries key = some value) : ∃ entry ∈ entries, entry.2 = value := by
  induction entries with
  | nil => cases found
  | cons entry rest ih =>
    simp only [get?] at found
    split at found
    · exact ⟨entry, List.mem_cons_self, Option.some.inj found⟩
    · obtain ⟨later, member, same⟩ := ih found
      exact ⟨later, List.mem_cons_of_mem _ member, same⟩

section Lawful

variable [LawfulBEq κ]

theorem mem_of_get? {entries : Entries κ α} {key : κ} {value : α}
    (found : get? entries key = some value) : (key, value) ∈ entries := by
  induction entries with
  | nil => cases found
  | cons entry rest ih =>
    simp only [get?] at found
    split at found
    · next same =>
      cases found
      rw [← eq_of_beq same]
      exact List.mem_cons_self
    · exact List.mem_cons_of_mem _ (ih found)

theorem isSome_get?_iff (entries : Entries κ α) (key : κ) :
    (get? entries key).isSome = true ↔ key ∈ keys entries := by
  induction entries with
  | nil => simp [get?, keys]
  | cons entry rest ih =>
    by_cases same : entry.1 = key
    · simp [get?, keys, same]
    · have apart : key ≠ entry.1 := Ne.symm same
      simpa [get?, keys, same, apart] using ih

theorem get?_eq_none_iff (entries : Entries κ α) (key : κ) :
    get? entries key = none ↔ key ∉ keys entries := by
  rw [← isSome_get?_iff, Option.not_isSome_iff_eq_none]

theorem get?_of_mem {entries : Entries κ α} {entry : κ × α} (distinct : (keys entries).Nodup)
    (member : entry ∈ entries) : get? entries entry.1 = some entry.2 := by
  induction entries with
  | nil => cases member
  | cons first rest ih =>
    obtain ⟨new, others⟩ := List.nodup_cons.mp distinct
    cases List.mem_cons.mp member with
    | inl same => simp [same, get?]
    | inr later =>
      have differs : first.1 ≠ entry.1 := fun same => new (same ▸ List.mem_map_of_mem later)
      simpa [get?, differs] using ih others later

theorem get?_set (entries : Entries κ α) (key other : κ) (value : α) :
    get? (set entries key value) other =
      if key == other then some value else get? entries other := by
  induction entries with
  | nil => simp [set, get?]
  | cons entry rest ih =>
    obtain ⟨k, a⟩ := entry
    by_cases same : k = key
    · subst same
      by_cases h : k = other <;> simp [set, get?, h]
    · by_cases h : k = other
      · subst h
        have ne : key ≠ k := fun e => same e.symm
        simp [set, get?, same, ne]
      · simp [set, get?, same, h, ih]

theorem get?_erase (entries : Entries κ α) (key other : κ) :
    get? (erase entries key) other =
      if key == other then none else get? entries other := by
  induction entries with
  | nil => simp [erase, get?]
  | cons entry rest ih =>
    obtain ⟨k, a⟩ := entry
    by_cases same : k = key
    · subst same
      by_cases h : k = other
      · subst h
        simpa [erase] using ih
      · simp [erase, get?, h, ih]
    · by_cases h : k = other
      · subst h
        have ne : key ≠ k := fun e => same e.symm
        simp [erase, get?, same, ne]
      · simp [erase, get?, same, h, ih]

theorem keys_set (entries : Entries κ α) (key : κ) (value : α) :
    keys (set entries key value) =
      if key ∈ keys entries then keys entries else keys entries ++ [key] := by
  induction entries with
  | nil => simp [set, keys]
  | cons entry rest ih =>
    obtain ⟨k, a⟩ := entry
    simp only [keys, set, List.map_cons] at ih ⊢
    by_cases same : k = key
    · simp [same]
    · have differs : key ≠ k := fun e => same e.symm
      by_cases known : key ∈ rest.map Prod.fst <;> simp [same, ih, differs, known]

theorem mem_keys_update (base later : Entries κ α) (key : κ) :
    key ∈ keys (update base later) ↔ key ∈ keys base ∨ key ∈ keys later := by
  induction later generalizing base with
  | nil => simp [update, keys]
  | cons entry rest ih =>
    have step := ih (set base entry.1 entry.2)
    simp only [update, List.foldl_cons] at step ⊢
    have keyed : key ∈ keys (set base entry.1 entry.2) ↔ key ∈ keys base ∨ key = entry.1 := by
      rw [keys_set]
      by_cases known : entry.1 ∈ keys base
      · simp only [known, if_true]
        exact ⟨.inl, fun either => either.elim id fun same => same ▸ known⟩
      · simp [known]
    rw [step, keyed, or_assoc]
    simp [keys]

theorem mem_keys_ofList (pairs : List (κ × α)) (key : κ) :
    key ∈ keys (ofList pairs) ↔ key ∈ keys pairs := by
  rw [ofList, mem_keys_update]
  simp [keys]

theorem nodup_keys_update {base : Entries κ α} (distinct : (keys base).Nodup)
    (later : Entries κ α) : (keys (update base later)).Nodup := by
  induction later generalizing base with
  | nil => exact distinct
  | cons entry rest ih =>
    refine ih ?_
    rw [keys_set]
    by_cases known : entry.1 ∈ keys base
    · simpa only [known, if_true] using distinct
    · simp only [known, if_false]
      refine List.nodup_append.mpr ⟨distinct, by simp, ?_⟩
      intro earlier member added new same
      cases List.mem_singleton.mp new
      exact known (same ▸ member)

theorem set_of_notMem {entries : Entries κ α} {key : κ} (new : key ∉ keys entries) (value : α) :
    set entries key value = entries ++ [(key, value)] := by
  induction entries with
  | nil => rfl
  | cons entry rest ih =>
    obtain ⟨differs, others⟩ := not_or.mp (fun known => new (List.mem_cons.mpr known))
    have other : (entry.1 == key) = false := by simpa using Ne.symm differs
    simp [set, other, ih others]

theorem update_of_nodup {base later : Entries κ α} (distinct : (keys (base ++ later)).Nodup) :
    update base later = base ++ later := by
  induction later generalizing base with
  | nil => simp [update]
  | cons entry rest ih =>
    have new : entry.1 ∉ keys base := by
      intro known
      rw [keys, List.map_append, List.nodup_append] at distinct
      exact distinct.2.2 _ known _ List.mem_cons_self rfl
    have step : update base (entry :: rest) = update (set base entry.1 entry.2) rest := rfl
    rw [step, set_of_notMem new, ih (by simpa using distinct)]
    simp

theorem ofList_of_nodup {pairs : List (κ × α)} (distinct : (keys pairs).Nodup) :
    ofList pairs = pairs :=
  update_of_nodup distinct

theorem get?_update (base later : Entries κ α) (key : κ) :
    get? (update base later) key =
      ((later.reverse.find? fun entry => entry.1 == key).map Prod.snd).or (get? base key) := by
  induction later generalizing base with
  | nil => simp [update]
  | cons entry rest ih =>
    have step := ih (set base entry.1 entry.2)
    simp only [update, List.foldl_cons] at step ⊢
    rw [step, get?_set, List.reverse_cons, List.find?_append]
    cases rest.reverse.find? fun entry => entry.1 == key with
    | some found => rfl
    | none => cases same : entry.1 == key <;> simp [same]

theorem get?_update_ofList (base later : Entries κ α) (key : κ) :
    get? (update base later) key = (get? (ofList later) key).or (get? base key) := by
  simp [ofList, get?_update, get?]

theorem get?_foldl_erase (entries later : Entries κ α) (key : κ) :
    get? (later.foldl (fun kept entry => erase kept entry.1) entries) key =
      if key ∈ keys later then none else get? entries key := by
  induction later generalizing entries with
  | nil => simp [keys]
  | cons entry rest ih =>
    have step := ih (erase entries entry.1)
    rw [get?_erase] at step
    rw [List.foldl_cons, step]
    have erased : key ∈ keys (entry :: rest) ↔ entry.1 = key ∨ key ∈ keys rest := by
      simp [keys, eq_comm]
    by_cases same : entry.1 = key <;> by_cases later : key ∈ keys rest <;>
      simp [erased, same, later]

end Lawful

end Entries

end FormCompiler
