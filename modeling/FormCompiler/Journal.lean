import FormCompiler.Value.Basic

set_option autoImplicit false

namespace FormCompiler

inductive EntryLevel where
  | debug
  | info
  | warning
  | error
  | critical
deriving Repr, DecidableEq

def EntryLevel.name : EntryLevel → String
  | .debug => "debug"
  | .info => "info"
  | .warning => "warning"
  | .error => "error"
  | .critical => "critical"

structure LogEntry where
  level : EntryLevel
  event : String
  fields : Bag
deriving Repr

/-- An entered scope: what it binds, and the values its keys had before. -/
structure Scope where
  bindings : Bag
  previous : Bag
deriving Repr

inductive ScopeFault where
  | keyNotText
  | reservedKey (key : String)
deriving Repr, DecidableEq

def ScopeFault.message : ScopeFault → String
  | .keyNotText => "keywords must be strings"
  | .reservedKey key =>
    s!"LogContext.__init__() got multiple values for argument '{key}'"

namespace Scope

def ownKey : String := "self"

def bindings? (entries : List (Value × Value)) : Except ScopeFault Bag :=
  match entries.mapM fun (key, value) => key.text?.map fun name => (name, value) with
  | none => .error .keyNotText
  | some bindings =>
    if Entries.contains bindings ownKey then .error (.reservedKey ownKey) else .ok bindings

def enter (context bindings : Bag) : Scope :=
  { bindings
    previous := bindings.filterMap fun entry =>
      (Entries.get? context entry.1).map fun value => (entry.1, value) }

def bind (scope : Scope) (context : Bag) : Bag :=
  Entries.update context scope.bindings

def restore (scope : Scope) (context : Bag) : Bag :=
  Entries.update (scope.bindings.foldl (fun bound entry => Entries.erase bound entry.1) context)
    scope.previous

end Scope

/-- The bound context and the entries written so far. -/
structure Journal where
  context : Bag := []
  entries : Array LogEntry := #[]

abbrev Logged := StateM Journal

namespace Logged

def write (level : EntryLevel) (event : String) (fields : Bag) : Logged Unit :=
  modify fun journal =>
    { journal with
      entries := journal.entries.push ⟨level, event, Entries.update journal.context fields⟩ }

def writeEntry (entry : LogEntry) : Logged Unit :=
  write entry.level entry.event entry.fields

def writeAll (entries : List LogEntry) : Logged Unit :=
  entries.forM writeEntry

/-- Runs a step inside a scope. -/
def within {α : Type} (bindings : Bag) (body : Logged α) : Logged α := do
  let scope := Scope.enter (← get).context bindings
  modify fun journal => { journal with context := scope.bind journal.context }
  let result ← body
  modify fun journal => { journal with context := scope.restore journal.context }
  return result

end Logged

end FormCompiler
