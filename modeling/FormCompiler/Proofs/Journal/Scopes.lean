import FormCompiler.Journal
import Mathlib.Data.List.Basic
import Mathlib.Logic.Function.Basic

set_option autoImplicit false

namespace FormCompiler

/-- The same keys are bound to the same values, in whatever order. -/
def SameBindings (first second : Bag) : Prop :=
  ∀ key, Entries.get? first key = Entries.get? second key

namespace SameBindings

variable {first second third : Bag}

theorem refl (context : Bag) : SameBindings context context := fun _ => rfl

theorem trans (left : SameBindings first second) (right : SameBindings second third) :
    SameBindings first third :=
  fun key => (left key).trans (right key)

end SameBindings

def Overrides (context bindings outer : Bag) : Prop :=
  ∀ key, Entries.get? context key =
    (Entries.get? (Entries.ofList bindings) key).or (Entries.get? outer key)

theorem Overrides.of_same {context other bindings outer : Bag}
    (same : SameBindings other context) (overrides : Overrides context bindings outer) :
    Overrides other bindings outer :=
  fun key => (same key).trans (overrides key)

namespace Scope

theorem bind_overrides (context bindings : Bag) :
    Overrides ((enter context bindings).bind context) bindings context :=
  Entries.get?_update_ofList context bindings

theorem get?_previous (context bindings : Bag) (key : String) :
    Entries.get? (Entries.ofList (enter context bindings).previous) key =
      if key ∈ Entries.keys bindings then Entries.get? context key else none := by
  -- All that is noted for the key is the value it has in the context.
  have noted : ∀ entry ∈ (enter context bindings).previous, entry.1 = key →
      key ∈ Entries.keys bindings ∧ Entries.get? context key = some entry.2 := by
    intro entry member same
    obtain ⟨binding, isBinding, found⟩ := List.mem_filterMap.mp member
    obtain ⟨value, known, rfl⟩ := Option.map_eq_some_iff.mp found
    have bound : binding.1 ∈ Entries.keys bindings := List.mem_map_of_mem isBinding
    cases same
    exact ⟨bound, known⟩
  rw [Entries.ofList, Entries.get?_update]
  cases last : (enter context bindings).previous.reverse.find? fun entry => entry.1 == key with
  | some entry =>
    have member := List.mem_reverse.mp (List.mem_of_find?_eq_some last)
    obtain ⟨bound, known⟩ := noted entry member (by simpa using List.find?_some last)
    simp [bound, known]
  | none =>
    split
    · next bound =>
      obtain ⟨binding, isBinding, rfl⟩ := List.mem_map.mp bound
      cases known : Entries.get? context binding.1 with
      | none => rfl
      | some value =>
        have member : (binding.1, value) ∈ (enter context bindings).previous :=
          List.mem_filterMap.mpr ⟨binding, isBinding, by rw [known]; rfl⟩
        have unnoted := List.find?_eq_none.mp last _ (List.mem_reverse.mpr member)
        simp at unnoted
    · rfl

theorem restore_undoes {context bindings inside : Bag}
    (kept : SameBindings inside ((enter context bindings).bind context)) :
    SameBindings ((enter context bindings).restore inside) context := by
  intro key
  have erased := Entries.get?_foldl_erase inside bindings key
  have own : (enter context bindings).bindings = bindings := rfl
  rw [restore, own, Entries.get?_update_ofList, get?_previous, erased]
  by_cases bound : key ∈ Entries.keys bindings
  · simp [bound]
  · have unbound : Entries.get? (Entries.ofList bindings) key = none := by
      rwa [Entries.get?_eq_none_iff, Entries.mem_keys_ofList]
    simp [bound, kept key, bind_overrides context bindings key, unbound]

end Scope

-- Programs that enter and leave scopes in proper nesting. Scopes are objects that go by numbers,
-- and each keeps its own notes; a failure leaves all scopes up to the next rescue.
inductive ScopeProgram where
  | skip
  | fail
  | within (object : Nat) (body : ScopeProgram)
  | andThen (first second : ScopeProgram)
  | rescue (body : ScopeProgram)

structure ScopeState where
  context : Bag
  -- What each scope noted when it was entered last.
  noted : Nat → Bag

namespace ScopeState

def enter (object : Nat) (bindings : Bag) (state : ScopeState) : ScopeState :=
  let scope := Scope.enter state.context bindings
  { context := scope.bind state.context
    noted := Function.update state.noted object scope.previous }

def leave (object : Nat) (bindings : Bag) (state : ScopeState) : ScopeState :=
  let scope : Scope := ⟨bindings, state.noted object⟩
  { state with context := scope.restore state.context }

end ScopeState

-- The context right before a scope was entered, everywhere inside between the scopes that were entered
-- there, and right after the scope was left.
structure ScopeVisit where
  object : Nat
  before : Bag
  inside : List Bag
  after : Bag

structure ScopeRun where
  state : ScopeState
  failed : Bool := false
  -- The contexts around the outermost scopes.
  seen : List Bag := []
  visits : List ScopeVisit := []

namespace ScopeProgram

variable (bindings : Nat → Bag)

def run : ScopeProgram → ScopeState → ScopeRun
  | skip, state => { state }
  | fail, state => { state, failed := true }
  | within object body, state =>
    let entered := state.enter object (bindings object)
    let ran := body.run entered
    -- A scope is left in the same way whether or not its body has failed.
    let left := ran.state.leave object (bindings object)
    let visit : ScopeVisit :=
      { object
        before := state.context
        inside := entered.context :: ran.seen ++ [ran.state.context]
        after := left.context }
    { state := left
      failed := ran.failed
      seen := [state.context, left.context]
      visits := visit :: ran.visits }
  | andThen first second, state =>
    let ran := first.run state
    if ran.failed then ran
    else
      let later := second.run ran.state
      { later with seen := ran.seen ++ later.seen, visits := ran.visits ++ later.visits }
  | rescue body, state => { body.run state with failed := false }

/-- No scope is entered again before it is left. -/
def EntersApart (entered : List Nat) : ScopeProgram → Prop
  | skip | fail => True
  | within object body => object ∉ entered ∧ body.EntersApart (object :: entered)
  | andThen first second => first.EntersApart entered ∧ second.EntersApart entered
  | rescue body => body.EntersApart entered

end ScopeProgram

-- The notes that count are those of the scopes around the run, which are yet to be left.
structure ScopeRun.Clean (bindings : Nat → Bag) (entered : List Nat) (start : ScopeState)
    (ran : ScopeRun) : Prop where
  context : SameBindings ran.state.context start.context
  noted : ∀ object ∈ entered, ran.state.noted object = start.noted object
  seen : ∀ context ∈ ran.seen, SameBindings context start.context
  visits : ∀ visit ∈ ran.visits, SameBindings visit.after visit.before ∧
    ∀ context ∈ visit.inside, Overrides context (bindings visit.object) visit.before

namespace ScopeProgram

def perform (bindings : Nat → Bag) : ScopeProgram → Logged Bool
  | skip => return false
  | fail => return true
  | within object body => Logged.within (bindings object) (body.perform bindings)
  | andThen first second => do
    if ← first.perform bindings then return true
    second.perform bindings
  | rescue body => do
    let _ ← body.perform bindings
    return false

variable {bindings : Nat → Bag} {entered : List Nat} {state : ScopeState}

theorem within_clean {object : Nat} {body : ScopeProgram} (apart : object ∉ entered)
    (clean : (body.run bindings (state.enter object (bindings object))).Clean bindings
      (object :: entered) (state.enter object (bindings object))) :
    ((within object body).run bindings state).Clean bindings entered state := by
  have overrides := Scope.bind_overrides state.context (bindings object)
  -- The body has not touched the scope's notes, so that these are still those of its start.
  have notes : (body.run bindings (state.enter object (bindings object))).state.noted object =
      (Scope.enter state.context (bindings object)).previous := by
    rw [clean.noted object List.mem_cons_self]
    exact Function.update_self object _ _
  have restored : SameBindings ((within object body).run bindings state).state.context
      state.context := by
    simp only [run, ScopeState.leave, notes]
    exact Scope.restore_undoes clean.context
  refine ⟨restored, ?_, ?_, ?_⟩
  · intro other member
    have differs : other ≠ object := fun same => apart (same ▸ member)
    have kept := clean.noted other (List.mem_cons_of_mem _ member)
    exact kept.trans (Function.update_of_ne differs _ _)
  · intro context member
    obtain rfl | rfl : context = state.context ∨ context = _ := by simpa [run] using member
    · exact .refl _
    · exact restored
  · intro visit member
    cases List.mem_cons.mp member with
    | inr inner => exact clean.visits visit inner
    | inl same =>
      subst same
      refine ⟨restored, fun context inside => ?_⟩
      obtain rfl | known | rfl : context = _ ∨ context ∈ _ ∨ context = _ := by
        simpa using inside
      · exact overrides
      · exact overrides.of_same (clean.seen context known)
      · exact overrides.of_same clean.context

theorem andThen_clean {first second : ScopeProgram}
    (clean : (first.run bindings state).Clean bindings entered state)
    (later : (second.run bindings (first.run bindings state).state).Clean bindings entered
      (first.run bindings state).state) :
    ((andThen first second).run bindings state).Clean bindings entered state := by
  by_cases failed : (first.run bindings state).failed = true
  · simpa [run, failed] using clean
  · simp only [run, failed, Bool.false_eq_true, if_false]
    refine ⟨later.context.trans clean.context, ?_, ?_, ?_⟩
    · intro object member
      exact (later.noted object member).trans (clean.noted object member)
    · intro context member
      cases List.mem_append.mp member with
      | inl early => exact clean.seen context early
      | inr late => exact (later.seen context late).trans clean.context
    · exact List.forall_mem_append.mpr ⟨clean.visits, later.visits⟩

theorem run_clean (program : ScopeProgram) (apart : program.EntersApart entered)
    (state : ScopeState) : (program.run bindings state).Clean bindings entered state := by
  induction program generalizing entered state with
  | skip => exact ⟨.refl _, fun _ _ => rfl, by simp [run], by simp [run]⟩
  | fail => exact ⟨.refl _, fun _ _ => rfl, by simp [run], by simp [run]⟩
  | within object body ih => exact within_clean apart.1 (ih apart.2 _)
  | andThen first second firstIh secondIh =>
    exact andThen_clean (firstIh apart.1 state) (secondIh apart.2 _)
  | rescue body ih =>
    have clean := ih apart state
    exact ⟨clean.context, clean.noted, clean.seen, clean.visits⟩

theorem run_eq_perform (program : ScopeProgram) (apart : program.EntersApart entered)
    {state : ScopeState} {journal : Journal} (same : journal.context = state.context) :
    ((program.perform bindings).run journal).1 = (program.run bindings state).failed ∧
      ((program.perform bindings).run journal).2.context =
        (program.run bindings state).state.context := by
  induction program generalizing entered state journal with
  | skip | fail => exact ⟨rfl, same⟩
  | within object body ih =>
    let inner : Journal :=
      { journal with
        context := (Scope.enter journal.context (bindings object)).bind journal.context }
    have entering : inner.context = (state.enter object (bindings object)).context := by
      simp only [inner, same]
      rfl
    obtain ⟨failed, context⟩ := ih apart.2 entering
    -- Nothing in the body has changed what the scope noted.
    have clean : (body.run bindings (state.enter object (bindings object))).Clean bindings
        (object :: entered) (state.enter object (bindings object)) := body.run_clean apart.2 _
    have notes := clean.noted object List.mem_cons_self
    have noted : (state.enter object (bindings object)).noted object =
        (Scope.enter state.context (bindings object)).previous := Function.update_self object _ _
    refine ⟨failed, ?_⟩
    simp only [run, ScopeState.leave, notes, noted, ← context, ← same]
    rfl
  | andThen first second firstIh secondIh =>
    obtain ⟨failed, context⟩ := firstIh apart.1 same
    have step : ((andThen first second).perform bindings).run journal =
        if ((first.perform bindings).run journal).1 then
          (true, ((first.perform bindings).run journal).2)
        else (second.perform bindings).run ((first.perform bindings).run journal).2 := by
      change (if ((first.perform bindings).run journal).1 then (pure true : Logged Bool)
        else second.perform bindings).run ((first.perform bindings).run journal).2 = _
      split <;> rfl
    rw [step, failed]
    by_cases stopped : (first.run bindings state).failed = true
    · simp [run, stopped, context]
    · simpa [run, stopped] using secondIh apart.2 context
  | rescue body ih =>
    exact ⟨rfl, (ih apart same).2⟩

-- A scope that is entered again before it is left loses what it noted first.
example :
    let twice := within 0 (within 0 skip)
    let ran := twice.run (fun _ => [("file", .text "inner")]) ⟨[("file", .text "outer")], fun _ => []⟩
    ran.state.context = [("file", .text "inner")] := rfl

end ScopeProgram

namespace Logged

variable {α β : Type}

-- The body of a scope runs in the context around it, overridden by what the scope binds, and then
-- the scope is left.
theorem within_run (bindings : Bag) (body : Logged α) (journal : Journal) :
    ∃ inner : Journal, inner.entries = journal.entries ∧
      Overrides inner.context bindings journal.context ∧
      (within bindings body).run journal =
        let ran := body.run inner
        let scope := Scope.enter journal.context bindings
        (ran.1, { ran.2 with context := scope.restore ran.2.context }) :=
  ⟨{ journal with context := (Scope.enter journal.context bindings).bind journal.context }, rfl,
    Scope.bind_overrides _ _, rfl⟩

theorem within_writeEntry (bindings : Bag) (entry : LogEntry) (journal : Journal) :
    ∃ fields, ((within bindings (writeEntry entry)).run journal).2.entries =
        journal.entries.push ⟨entry.level, entry.event, fields⟩ ∧
      ∀ key, Entries.get? fields key = ((Entries.get? (Entries.ofList entry.fields) key).or
        (Entries.get? (Entries.ofList bindings) key)).or (Entries.get? journal.context key) := by
  obtain ⟨inner, same, overrides, run⟩ := within_run bindings (writeEntry entry) journal
  refine ⟨Entries.update inner.context entry.fields, ?_, fun key => ?_⟩
  · rw [run, ← same]
    rfl
  · rw [Entries.get?_update_ofList, overrides key, Option.or_assoc]

def KeepsContext (step : Logged α) : Prop :=
  ∀ journal, SameBindings (step.run journal).2.context journal.context

namespace KeepsContext

theorem pure (result : α) : KeepsContext (pure result) := fun _ => .refl _

theorem bind {step : Logged α} {next : α → Logged β} (first : KeepsContext step)
    (later : ∀ result, KeepsContext (next result)) : KeepsContext (step >>= next) :=
  fun journal => (later _ _).trans (first journal)

theorem writeEntry (entry : LogEntry) : KeepsContext (writeEntry entry) := fun _ => .refl _

theorem writeAll (entries : List LogEntry) : KeepsContext (writeAll entries) := by
  induction entries with
  | nil => exact .pure ()
  | cons entry rest ih => exact (writeEntry entry).bind fun _ => ih

theorem within {bindings : Bag} {body : Logged α} (kept : KeepsContext body) :
    KeepsContext (within bindings body) :=
  fun _ => Scope.restore_undoes (kept _)

end KeepsContext

end Logged

end FormCompiler
