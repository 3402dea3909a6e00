import FormCompiler.Event.Bridge
import FormCompiler.Proofs.Entries.Occurrence
import Mathlib.Data.List.DropRight

set_option autoImplicit false

namespace FormCompiler

def ServerEvent.key (event : ServerEvent) : Handler :=
  ⟨event.event, event.componentType, event.componentName, event.formName⟩

namespace EventCall

def event? (call : EventCall) : Option ServerEvent :=
  match call.read with
  | .good event => some event
  | .bad _ => none

theorem read_ofHandler (handler : Handler) (data : Value) :
    (ofHandler handler data).read =
      (if data.truthy then (Reading.bag data).under "event_data" else .good []).map fun bag =>
        ⟨handler.event, handler.componentType, handler.componentName, handler.formName, bag⟩ := by
  obtain ⟨event, componentType, componentName, formName⟩ := handler
  -- The other parts are texts or missing, and so they are read as they are.
  have parts : (ofHandler ⟨event, componentType, componentName, formName⟩ data).read =
      .ap (.good (ServerEvent.mk event componentType componentName formName))
        (if data.truthy then (Reading.bag data).under "event_data" else .good []) := by
    cases componentName <;> cases formName <;> rfl
  rw [parts]
  cases (if data.truthy then (Reading.bag data).under "event_data" else .good []) <;> rfl

-- Data that the record of an event takes: a mapping whose keys are read as texts, or what counts as
-- false and is left out.
def Accepts (data : Value) : Prop :=
  data.truthy = false ∨ ∃ bag, Reading.bag data = .good bag

theorem event?_ofHandler (handler : Handler) {data : Value} (accepted : Accepts data) :
    ∃ event, (ofHandler handler data).event? = some event ∧ event.key = handler := by
  rw [event?, read_ofHandler]
  by_cases counts : data.truthy = true
  · obtain false | ⟨bag, good⟩ := accepted
    · simp_all
    · simp [counts, good, Checked.under, Checked.map, ServerEvent.key]
  · simp [counts, Checked.map, ServerEvent.key]

end EventCall

namespace Bridge

-- What can happen to a bridge. Another sink may be connected at any time, so that a sink may also
-- answer the same event in different ways.
inductive Operation where
  | dispatch (call : EventCall)
  | notify (call : EventCall)
  | clear
  | connect (sink : Option Sink)

namespace Operation

def isClear : Operation → Bool
  | .clear => true
  | _ => false

def event? : Operation → Option ServerEvent
  | .dispatch call | .notify call => call.event?
  | .clear | .connect _ => none

def sink? : Operation → Option (Option Sink)
  | .connect sink => some sink
  | _ => none

end Operation

def perform (bridge : Bridge) :
    Operation → Bridge × Except DispatchFailure (Option EventReply)
  | .dispatch call =>
    let (bridge, result) := bridge.dispatch call
    (bridge, result.map some)
  | .notify call =>
    let (bridge, reply) := bridge.notify call
    (bridge, .ok reply)
  | .clear => (bridge.clear, .ok none)
  | .connect sink => ({ bridge with sink }, .ok none)

def run (bridge : Bridge) (operations : List Operation) : Bridge :=
  operations.foldl (fun bridge operation => (bridge.perform operation).1) bridge

inductive Dispatched (sink : Option Sink) (call : EventCall) :
    Except DispatchFailure EventReply → Prop where
  | rejected (issues : List Issue) (bad : call.read = .bad issues) :
    Dispatched sink call (.error (.rejected issues))
  | unsent (event : ServerEvent) (good : call.read = .good event) (alone : sink = none) :
    Dispatched sink call (.ok (.event event))
  | replied (event : ServerEvent) (good : call.read = .good event) (serve : Sink)
    (inUse : sink = some serve) (reply : Value) (served : serve event = .ok reply) :
    Dispatched sink call (.ok (.server reply))
  | undelivered (event : ServerEvent) (good : call.read = .good event) (serve : Sink)
    (inUse : sink = some serve) (message : String) (served : serve event = .error message) :
    Dispatched sink call (.error (.undelivered message))

theorem dispatch_dispatched (bridge : Bridge) (call : EventCall) :
    Dispatched bridge.sink call (bridge.dispatch call).2 := by
  cases checked : call.read with
  | bad issues =>
    simp only [dispatch, checked]
    exact .rejected issues checked
  | good event =>
    cases inUse : bridge.sink with
    | none =>
      simp only [dispatch, checked, deliver, inUse]
      exact .unsent event checked rfl
    | some serve =>
      cases served : serve event with
      | ok reply =>
        simp only [dispatch, checked, deliver, inUse, served]
        exact .replied event checked serve rfl reply served
      | error message =>
        simp only [dispatch, checked, deliver, inUse, served]
        exact .undelivered event checked serve rfl message served

theorem dispatch_fst (bridge : Bridge) (call : EventCall) :
    (bridge.dispatch call).1 = { bridge with sent := bridge.sent ++ call.event?.toList } := by
  cases checked : call.read with
  | good event => simp [dispatch, EventCall.event?, checked, record]
  | bad issues => simp [dispatch, EventCall.event?, checked]

-- A handler's call with accepted data adds one event to the record, which is told apart by what the
-- handler holds.
theorem notify_ofHandler_sent (bridge : Bridge) (handler : Handler) {data : Value}
    (accepted : EventCall.Accepts data) :
    ∃ event, event.key = handler ∧
      (bridge.notify (.ofHandler handler data)).1.sent = bridge.sent ++ [event] := by
  obtain ⟨event, good, key⟩ := EventCall.event?_ofHandler handler accepted
  exact ⟨event, key, by simp [notify, dispatch_fst, good]⟩

theorem perform_sent (bridge : Bridge) (operation : Operation) :
    (bridge.perform operation).1.sent =
      if operation.isClear then [] else bridge.sent ++ operation.event?.toList := by
  cases operation with
  | dispatch call | notify call =>
    -- Whether the sink fails does not matter here: the event is recorded before it is handed on.
    simp [perform, notify, dispatch_fst, Operation.isClear, Operation.event?]
  | clear => rfl
  | connect sink => simp [perform, Operation.isClear, Operation.event?]

theorem perform_sink (bridge : Bridge) (operation : Operation) :
    (bridge.perform operation).1.sink = operation.sink?.getD bridge.sink := by
  cases operation with
  | dispatch call | notify call => simp [perform, notify, dispatch_fst, Operation.sink?]
  | clear | connect sink => rfl

section Run

variable (bridge : Bridge) (operations : List Operation)

theorem run_append_singleton (operation : Operation) :
    bridge.run (operations ++ [operation]) = ((bridge.run operations).perform operation).1 := by
  simp [run]

theorem run_sent (empty : bridge.sent = []) :
    (bridge.run operations).sent =
      (operations.rtakeWhile (!·.isClear)).filterMap Operation.event? := by
  induction operations using List.reverseRecOn with
  | nil => exact empty
  | append_singleton operations last ih =>
    rw [run_append_singleton, perform_sent]
    by_cases clears : last.isClear = true
    · simp [clears]
    · -- What is kept since the last clear grows by the last operation.
      cases given : last.event? <;> simp [clears, ih, given]

theorem run_sink :
    (bridge.run operations).sink = (lastGiven? Operation.sink? operations).getD bridge.sink := by
  induction operations using List.reverseRecOn with
  | nil => rfl
  | append_singleton operations last ih =>
    rw [run_append_singleton, perform_sink, ih]
    cases given : last.sink? <;> simp [lastGiven?, given]

end Run

/-- At any time a bridge has recorded the events of all valid calls since the last clear, in their
order and each once. The next call adds its own event if it is valid, also if the sink then fails,
and nothing otherwise. A direct call gives back the reply of the sink, the event itself if there is
none, or the failure; a call by a handler gives back the same, but nothing at all for a failure. -/
theorem run_records (sink : Option Sink) (operations : List Operation) :
    let bridge := run { sink } operations
    let inUse := (lastGiven? Operation.sink? operations).getD sink
    bridge.sent = (operations.rtakeWhile (!·.isClear)).filterMap Operation.event? ∧
    ∀ call, ∃ result, Dispatched inUse call result ∧
      let next : Bridge := { bridge with sent := bridge.sent ++ call.event?.toList }
      bridge.perform (.dispatch call) = (next, result.map some) ∧
      bridge.perform (.notify call) = (next, .ok result.toOption) := by
  intro bridge inUse
  constructor
  · exact run_sent _ _ rfl
  · intro call
    have connected : bridge.sink = inUse := run_sink { sink } operations
    have dispatched := bridge.dispatch_dispatched call
    rw [connected] at dispatched
    exact ⟨(bridge.dispatch call).2, dispatched, by simp [perform, notify, dispatch_fst]⟩

end Bridge

end FormCompiler
