import FormCompiler.Journal
import FormCompiler.Text.Case

set_option autoImplicit false

namespace FormCompiler

def EntryLevel.weight : EntryLevel → Nat
  | .debug => 10
  | .info => 20
  | .warning => 30
  | .error => 40
  | .critical => 50

inductive LogFault where
  | format (text : String)
  | table (text : String)
deriving Repr, DecidableEq

def LogFault.message : LogFault → String
  | .format text => "Unknown level: '" ++ text ++ "'"
  | .table text => "Level not an integer or a valid string: " ++ text

structure LogSetup where
  threshold : Nat
  json : Bool
deriving Repr, DecidableEq

namespace LogSetup

def levels : List EntryLevel := [.debug, .info, .warning, .error, .critical]

def thresholds : Entries String Nat := [
  ("CRITICAL", EntryLevel.weight .critical),
  ("DEBUG", EntryLevel.weight .debug),
  ("ERROR", EntryLevel.weight .error),
  ("FATAL", EntryLevel.weight .critical),
  ("INFO", EntryLevel.weight .info),
  ("NOTSET", 0),
  ("WARN", EntryLevel.weight .warning),
  ("WARNING", EntryLevel.weight .warning)]

def reserved : Entries String LogFault := [
  ("BASIC_FORMAT", .format "%(levelname)s:%(name)s:%(message)s"),
  ("_STYLES", .table ("\x7b'%': (<class 'logging.PercentStyle'>, "
    ++ "'%(levelname)s:%(name)s:%(message)s'), "
    ++ "'\x7b': (<class 'logging.StrFormatStyle'>, "
    ++ "'\x7blevelname\x7d:\x7bname\x7d:\x7bmessage\x7d'), "
    ++ "'$': (<class 'logging.StringTemplateStyle'>, "
    ++ "'$\x7blevelname\x7d:$\x7bname\x7d:$\x7bmessage\x7d')\x7d"))]

def threshold? (name : String) : Except LogFault Nat :=
  let name := Text.asciiUpper name
  match Entries.get? reserved name with
  | some fault => .error fault
  | none => .ok ((Entries.get? thresholds name).getD (EntryLevel.weight .info))

def configure (level : String := "INFO") (json : Bool := false) : Except LogFault LogSetup :=
  (threshold? level).map fun threshold => ⟨threshold, json⟩

def shows (setup : LogSetup) (level : EntryLevel) : Bool :=
  setup.threshold ≤ level.weight

def shown (setup : LogSetup) : List EntryLevel :=
  levels.filter setup.shows

end LogSetup

end FormCompiler
