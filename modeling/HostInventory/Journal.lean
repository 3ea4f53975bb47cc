import HostInventory.Action
import HostInventory.Failure
import HostInventory.Number.Binary64
import HostInventory.Text.Case
import HostInventory.Text.Decoding
import HostInventory.Text.Quoted

/-!
Log events: how grave they are, the values they carry, their line in a log file, and worlds that
keep a journal of them.
-/
namespace HostInventory.Journal

inductive Level where
  | debug
  | info
  | warning
  | error
  | critical
  deriving DecidableEq, Repr

namespace Level

def toNat : Level → Nat
  | .debug => 10
  | .info => 20
  | .warning => 30
  | .error => 40
  | .critical => 50

def name : Level → String
  | .debug => "debug"
  | .info => "info"
  | .warning => "warning"
  | .error => "error"
  | .critical => "critical"

end Level

def basicLayout : String := "%(levelname)s:%(name)s:%(message)s"

def layoutStyles : String :=
  "\x7b'%': (<class 'logging.PercentStyle'>, '%(levelname)s:%(name)s:%(message)s'), " ++
  "'\x7b': (<class 'logging.StrFormatStyle'>, " ++
  "'\x7blevelname\x7d:\x7bname\x7d:\x7bmessage\x7d'), " ++
  "'$': (<class 'logging.StringTemplateStyle'>, " ++
  "'$\x7blevelname\x7d:$\x7bname\x7d:$\x7bmessage\x7d')\x7d"

/-- The threshold that a name stands for, in any case; an unknown name stands for warnings. -/
def threshold (level : String) : Except Failure Nat :=
  match Text.upper level with
  | "CRITICAL" | "FATAL" => .ok 50
  | "ERROR" => .ok 40
  | "WARNING" | "WARN" => .ok 30
  | "INFO" => .ok 20
  | "DEBUG" => .ok 10
  | "NOTSET" => .ok 0
  | "BASIC_FORMAT" => .error (.unknownLevel basicLayout)
  | "_STYLES" => .error (.levelKind layoutStyles)
  | _ => .ok 30

inductive Datum where
  | absent
  | truth (b : Bool)
  | whole (n : Int)
  | real (x : Float)
  | text (s : String)
  | list (items : List Datum)
  | record (entries : List (String × Datum))
  deriving Inhabited

namespace Datum

mutual

def shown : Datum → String
  | .absent => "None"
  | .truth b => if b then "True" else "False"
  | .whole n => Numeral.text n
  | .real x => FloatText.text x
  | .text s => Text.quoted s
  | .list items => "[" ++ ", ".intercalate (shownItems items) ++ "]"
  | .record entries => "\x7b" ++ ", ".intercalate (shownEntries entries) ++ "\x7d"

def shownItems : List Datum → List String
  | [] => []
  | item :: rest => shown item :: shownItems rest

def shownEntries : List (String × Datum) → List String
  | [] => []
  | (key, value) :: rest => (Text.quoted key ++ ": " ++ shown value) :: shownEntries rest

end

def plain : Datum → String
  | .text s => s
  | value => value.shown

def kind : Datum → String
  | .absent => "NoneType"
  | .truth _ => "bool"
  | .whole _ => "int"
  | .real _ => "float"
  | .text _ => "str"
  | .list _ => "list"
  | .record _ => "dict"

def isNothing : Datum → Bool
  | .absent => true
  | .truth b => !b
  | .whole n => n == 0
  | .real x => x == 0
  | .text s => s.isEmpty
  | .list items => items.isEmpty
  | .record entries => entries.isEmpty

def needsQuotes (c : Char) : Bool :=
  c == ' ' || c == '\t' || c == '=' || c == '\r' || c == '\n' || c == '"' || c == '\''

/-- A value after `key=`: texts stand bare where that is unambiguous. -/
def bare : Datum → String
  | .text s => if s.toList.any needsQuotes then Text.quoted s else s
  | value => value.shown

end Datum

end HostInventory.Journal

namespace HostInventory

namespace Journal

structure Event where
  level : Level
  logger : String
  name : String
  fields : List (String × Datum) := []

namespace Event

/-- The ways in which an event is noted, each with its level and the name of what takes it. -/
def methods : List (String × Level × String) :=
  [("debug", .debug, "debug"), ("info", .info, "info"), ("warning", .warning, "warning"),
    ("warn", .warning, "warning"), ("error", .error, "error"), ("exception", .error, "exception"),
    ("critical", .critical, "critical"), ("fatal", .critical, "fatal")]

def takenByMethod : List String := ["self", "event"]

/-- An event noted in one of the ways that there are; no field may have the name of what is given
beside the fields. -/
def noted (logger method name : String) (fields : List (String × Datum)) :
    Except Failure Event :=
  match methods.lookup method with
  | none => .error (.noMethod method)
  | some (level, taker) =>
    match (fields.map (·.1)).find? takenByMethod.contains with
    | some field => .error (.fieldTwice taker field)
    | none =>
      if (fields.map (·.1)).contains "method_name" then
        .error (.fieldTwice "_proxy_to_logger" "method_name")
      else
        .ok { level, logger := if logger.isEmpty then "root" else logger, name, fields }

/-- The keys that the journal itself fills in, and those that ask for a report on a failure or on
the running program, of which there is none: a field under one of them is dropped. -/
def isReserved (key : String) : Bool :=
  ["level", "logger", "timestamp", "exc_info", "stack_info"].contains key

def ownFields (event : Event) : List (String × Datum) :=
  event.fields.filter fun (key, _) => !isReserved key

def isPlaced (key : String) : Bool := ["logger_name", "stack", "exception"].contains key

def padRight (width : Nat) (s : String) : String :=
  s ++ String.ofList (List.replicate (width - s.length) ' ')

/-- `[level] event [logger] key=value …`, in columns, the keys in ascending order. -/
def firstLine (event : Event) : String :=
  let fields := (event.ownFields.filter fun (key, _) => !isPlaced key).mergeSort
    fun a b => decide (a.1 ≤ b.1)
  let second := (event.ownFields.lookup "logger_name").map fun name => "[" ++ name.plain ++ "]"
  " ".intercalate
    (("[" ++ padRight 9 event.level.name ++ "]") :: padRight 30 event.name ::
      ("[" ++ event.logger ++ "]") :: second.toList ++
      fields.map fun (key, value) => key ++ "=" ++ value.bare)

/-- A report that stands under an event, if a field holds one. -/
def report? (event : Event) (key : String) : Except Failure (Option String) :=
  match event.ownFields.lookup key with
  | none | some .absent => .ok none
  | some (.text s) => .ok (some s)
  | some value => .error (.notJoinable value.kind)

def hasException (event : Event) : Bool :=
  match event.ownFields.lookup "exception" with
  | none | some .absent => false
  | some _ => true

/-- The text of an event: its line, and under it the stack and the failure that it reports. -/
def text (event : Event) : Except Failure String := do
  let stack := match ← event.report? "stack" with
    | none => ""
    | some stack =>
      "\n" ++ stack ++
        if event.hasException then "\n\n" ++ String.ofList (List.replicate 79 '=') ++ "\n" else ""
  let exception := match ← event.report? "exception" with
    | none => ""
    | some exception => "\n" ++ exception
  return event.firstLine ++ stack ++ exception

def lines (event : Event) : Except Failure (List String) := do
  let text ← event.text
  return (Text.splitLines (Text.unifyNewlines text.toList)).map String.ofList

end Event

def kept (threshold : Nat) (events : List Event) : List Event :=
  events.filter fun event => decide (threshold ≤ event.level.toNat)

end Journal

class Journal (σ : Type) where
  note : Journal.Event → σ → σ

instance {τ σ : Type} [Journal σ] : Journal (τ × σ) where
  note event := fun (own, world) => (own, Journal.note event world)

def Action.log {σ : Type} [Journal σ] (event : Journal.Event) : Action σ Unit :=
  ExceptT.mk fun world => (.ok (), Journal.note event world)

end HostInventory
