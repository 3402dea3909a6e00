import FormCompiler.Yaml.Failure
import Mathlib.Tactic.Common

set_option autoImplicit false

namespace FormCompiler.Yaml

variable {σ α β : Type} {fails : Failure → Prop}

inductive Ends (gives : α → Prop) (fails : Failure → Prop) : Attempt α → Prop
  | ok {result : α} (given : gives result) : Ends gives fails (.ok result)
  | error {failure : Failure} (allowed : fails failure) : Ends gives fails (.error failure)

namespace Ends

theorem mono {gives more : α → Prop} {attempt : Attempt α} (ends : Ends gives fails attempt)
    (le : ∀ result, gives result → more result) : Ends more fails attempt := by
  cases ends with
  | ok given => exact .ok (le _ given)
  | error allowed => exact .error allowed

theorem weaken {gives : α → Prop} {more : Failure → Prop} {attempt : Attempt α}
    (ends : Ends gives fails attempt) (le : ∀ failure, fails failure → more failure) :
    Ends gives more attempt := by
  cases ends with
  | ok given => exact .ok given
  | error allowed => exact .error (le _ allowed)

theorem bind {between : α → Prop} {gives : β → Prop} {attempt : Attempt α} {next : α → Attempt β}
    (ends : Ends between fails attempt)
    (later : ∀ found, between found → Ends gives fails (next found)) :
    Ends gives fails (attempt >>= next) := by
  cases ends with
  | ok given => exact later _ given
  | error allowed => exact .error allowed

theorem ite {gives : α → Prop} {test : Prop} [Decidable test] {first second : Attempt α}
    (holds : test → Ends gives fails first) (else_ : ¬test → Ends gives fails second) :
    Ends gives fails (if test then first else second) := by
  by_cases found : test
  · exact if_pos found ▸ holds found
  · exact if_neg found ▸ else_ found

theorem result {gives : α → Prop} {found : α} (ends : Ends gives fails (.ok found)) :
    gives found := by
  cases ends with
  | ok given => exact given

theorem failure {gives : α → Prop} {found : Failure} (ends : Ends gives fails (.error found)) :
    fails found := by
  cases ends with
  | error allowed => exact allowed

theorem known {gives : α → Prop} {attempt : Attempt α} (ends : Ends gives fails attempt) :
    Ends (fun result => attempt = .ok result ∧ gives result) fails attempt := by
  cases ends with
  | ok given => exact .ok ⟨rfl, given⟩
  | error allowed => exact .error allowed

theorem of_result {gives : α → Prop} {attempt : Attempt α}
    (given : ∀ result, attempt = .ok result → gives result) :
    Ends gives (fun _ => True) attempt := by
  cases attempt with
  | ok result => exact .ok (given result rfl)
  | error failure => exact .error trivial

theorem of_run {attempt : Attempt α} {found : α} (run : attempt = .ok found) :
    Ends (· = found) fails attempt := by
  rw [run]
  exact .ok rfl

theorem andThen {between : α × σ → Prop} {gives : β × σ → Prop} {first : StateT σ Attempt α}
    {next : α → StateT σ Attempt β} {state : σ} (ends : Ends between fails (first.run state))
    (later : ∀ found middle, between (found, middle) →
      Ends gives fails ((next found).run middle)) :
    Ends gives fails ((first >>= next).run state) :=
  ends.bind fun ending given => later ending.1 ending.2 given

end Ends

-- Whatever state of a kind a step starts from, it gives a result of a kind and leaves such a state,
-- or it fails in a way that is allowed.
def Upholds (invariant : σ → Prop) (fails : Failure → Prop) (gives : α → Prop)
    (step : StateT σ Attempt α) : Prop :=
  ∀ state, invariant state →
    Ends (fun ending => invariant ending.2 ∧ gives ending.1) fails (step.run state)

namespace Upholds

variable {invariant : σ → Prop}

theorem pure {gives : α → Prop} {result : α} (given : gives result) :
    Upholds invariant fails gives (pure result) :=
  fun _ holds => .ok ⟨holds, given⟩

theorem bind {between : α → Prop} {gives : β → Prop} {first : StateT σ Attempt α}
    {next : α → StateT σ Attempt β} (upholds : Upholds invariant fails between first)
    (later : ∀ found, between found → Upholds invariant fails gives (next found)) :
    Upholds invariant fails gives (first >>= next) :=
  fun state holds => (upholds state holds).andThen fun found middle given =>
    later found given.2 middle given.1

theorem throw {gives : α → Prop} {failure : Failure} (allowed : fails failure) :
    Upholds invariant fails gives (throw failure : StateT σ Attempt α) :=
  fun _ _ => .error allowed

theorem get : Upholds invariant fails invariant get :=
  fun _ holds => .ok ⟨holds, holds⟩

theorem modify {change : σ → σ} (upholds : ∀ state, invariant state → invariant (change state)) :
    Upholds invariant fails (fun _ => True) (modify change) :=
  fun state holds => .ok ⟨upholds state holds, trivial⟩

theorem lift {gives : α → Prop} {attempt : Attempt α} (ends : Ends gives fails attempt) :
    Upholds invariant fails gives (liftM attempt) := by
  intro state holds
  cases ends with
  | ok given => exact .ok ⟨holds, given⟩
  | error allowed => exact .error allowed

theorem forM {steps : α → StateT σ Attempt Unit} {items : List α}
    (each : ∀ item ∈ items, Upholds invariant fails (fun _ => True) (steps item)) :
    Upholds invariant fails (fun _ => True) (items.forM steps) := by
  induction items with
  | nil => exact pure trivial
  | cons item rest ih =>
    change Upholds invariant fails (fun _ => True) (steps item >>= fun _ => rest.forM steps)
    exact (each item List.mem_cons_self).bind fun _ _ =>
      ih fun other member => each other (List.mem_cons_of_mem _ member)

theorem mapM {gives : β → Prop} {steps : α → StateT σ Attempt β} {items : List α}
    (each : ∀ item ∈ items, Upholds invariant fails gives (steps item)) :
    Upholds invariant fails (fun results => ∀ result ∈ results, gives result)
      (items.mapM steps) := by
  induction items with
  | nil =>
    rw [List.mapM_nil]
    exact pure (by simp)
  | cons item rest ih =>
    rw [List.mapM_cons]
    refine (each item List.mem_cons_self).bind fun first given => ?_
    refine (ih fun other member => each other (List.mem_cons_of_mem _ member)).bind ?_
    exact fun results others => pure (List.forall_mem_cons.mpr ⟨given, others⟩)

theorem foldlM {gives : β → Prop} {steps : β → α → StateT σ Attempt β} {items : List α}
    (each : ∀ item ∈ items, ∀ found, gives found →
      Upholds invariant fails gives (steps found item))
    {start : β} (given : gives start) :
    Upholds invariant fails gives (items.foldlM steps start) := by
  induction items generalizing start with
  | nil => exact pure given
  | cons item rest ih =>
    rw [List.foldlM_cons]
    exact (each item List.mem_cons_self start given).bind fun found next =>
      ih (fun other member => each other (List.mem_cons_of_mem _ member)) next

end Upholds

end FormCompiler.Yaml
