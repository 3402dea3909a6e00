import FormCompiler.Journal
import FormCompiler.Reading

set_option autoImplicit false

namespace FormCompiler

/-- An event as a caller reports it, before its parts are checked. -/
structure EventCall where
  event : Value
  componentType : Value
  componentName : Value := .null
  formName : Value := .null
  data : Value := .null
deriving Repr

structure ServerEvent where
  event : String
  componentType : String
  componentName : Option String
  formName : Option String
  data : Bag
deriving Repr

abbrev Sink := ServerEvent → Except String Value

inductive EventReply where
  | event (event : ServerEvent)
  | server (reply : Value)
deriving Repr

inductive DispatchFailure where
  | rejected (issues : List Issue)
  | undelivered (message : String)
deriving Repr, DecidableEq

def DispatchFailure.rejection : String := "Invalid server event"

def DispatchFailure.message : DispatchFailure → String
  | .rejected _ => rejection
  | .undelivered message => message

inductive ArityFault where
  | missing (names : List String)
  | surplus (given : Nat)
deriving Repr, DecidableEq

def ArityFault.message : ArityFault → String
  | .missing names =>
    let quoted := names.map fun name => "'" ++ name ++ "'"
    let plural := if names.length = 1 then "" else "s"
    s!"QueuedEventBridge.dispatch() missing {names.length} required positional argument{plural}: "
      ++ " and ".intercalate quoted
  | .surplus given =>
    "QueuedEventBridge.dispatch() takes from 3 to 6 positional arguments but "
      ++ s!"{given + 1} were given"

namespace EventCall

def ofArguments : List Value → Except ArityFault EventCall
  | [] => .error (.missing ["event_type", "component_type"])
  | [_] => .error (.missing ["component_type"])
  | event :: componentType :: rest =>
    match rest with
    | [] => .ok { event, componentType }
    | [componentName] => .ok { event, componentType, componentName }
    | [componentName, formName] => .ok { event, componentType, componentName, formName }
    | [componentName, formName, data] =>
      .ok ⟨event, componentType, componentName, formName, data⟩
    | _ => .error (.surplus (rest.length + 2))

def ofHandler (handler : Handler) (data : Value) : EventCall where
  event := .text handler.event
  componentType := .text handler.componentType
  componentName := .ofText? handler.componentName
  formName := .ofText? handler.formName
  data

def read (call : EventCall) : Checked ServerEvent :=
  ServerEvent.mk <$> (Reading.text call.event).under "event_type"
    <*> (Reading.text call.componentType).under "component_type"
    <*> (Reading.optional Reading.text call.componentName).under "component_name"
    <*> (Reading.optional Reading.text call.formName).under "form_name"
    <*> if call.data.truthy then (Reading.bag call.data).under "event_data" else .good []

end EventCall

structure Bridge where
  sink : Option Sink := none
  sent : List ServerEvent := []

namespace Bridge

def record (bridge : Bridge) (event : ServerEvent) : Bridge :=
  { bridge with sent := bridge.sent ++ [event] }

/-- Hands an event to the sink; without one the event itself is the reply. -/
def deliver (bridge : Bridge) (event : ServerEvent) : Except DispatchFailure EventReply :=
  match bridge.sink with
  | none => .ok (.event event)
  | some sink =>
    match sink event with
    | .ok reply => .ok (.server reply)
    | .error message => .error (.undelivered message)

def dispatch (bridge : Bridge) (call : EventCall) :
    Bridge × Except DispatchFailure EventReply :=
  match call.read with
  -- The event is kept whatever the sink makes of it.
  | .good event => (bridge.record event, bridge.deliver event)
  | .bad issues => (bridge, .error (.rejected issues))

/-- A call by a handler: a failure gives no reply. -/
def notify (bridge : Bridge) (call : EventCall) : Bridge × Option EventReply :=
  let (bridge, result) := bridge.dispatch call
  (bridge, result.toOption)

def clear (bridge : Bridge) : Bridge :=
  { bridge with sent := [] }

def dispatchEntries (call : EventCall) : List LogEntry :=
  match call.read with
  | .good _ =>
    [⟨.debug, "event_dispatched", [
      ("event_type", call.event),
      ("component_type", call.componentType),
      ("component_name", call.componentName),
      ("form_name", call.formName)]⟩]
  | .bad _ => []

def failureEntry (call : EventCall) (failure : DispatchFailure) : LogEntry :=
  ⟨.error, "event_dispatch_failed", [
    ("event_type", call.event),
    ("component_type", call.componentType),
    ("component_name", call.componentName),
    ("error", .text failure.message),
    ("exc_info", .bool true)]⟩

def notifyEntries (bridge : Bridge) (call : EventCall) : List LogEntry :=
  match (bridge.dispatch call).2 with
  | .ok _ => dispatchEntries call
  | .error failure => dispatchEntries call ++ [failureEntry call failure]

end Bridge

end FormCompiler
