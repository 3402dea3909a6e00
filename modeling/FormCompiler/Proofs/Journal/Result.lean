import FormCompiler.Journal

set_option autoImplicit false

namespace FormCompiler

namespace Logged

variable {α β : Type}

def Gives (step : Logged α) (result : α) : Prop :=
  ∀ journal, (step.run journal).1 = result

namespace Gives

theorem pure (result : α) : Gives (pure result) result := fun _ => rfl

theorem bind {step : Logged α} {next : α → Logged β} {found : α} {result : β}
    (first : Gives step found) (later : Gives (next found) result) :
    Gives (step >>= next) result := by
  intro journal
  change ((next (step.run journal).1).run (step.run journal).2).1 = result
  rw [first journal]
  exact later _

theorem unit (step : Logged Unit) : Gives step () := fun _ => rfl

theorem within {bindings : Bag} {body : Logged α} {result : α} (given : Gives body result) :
    Gives (within bindings body) result :=
  fun _ => given _

end Gives

end Logged

end FormCompiler
