import HostInventory.Failure
import HostInventory.Number.Measures
import HostInventory.Number.Numeral
import HostInventory.Text.Words

/-!
Process listings: a header line and one row per process, with the fifteen columns `s pid ppid user
uid group gid nlwp pri vsz rss etime time comm args`, the last of which may hold blanks.
-/
namespace HostInventory

inductive ProcessStatus where
  | running
  | sleeping
  | waiting
  | zombie
  | stopped
  | other
  deriving DecidableEq, Repr

namespace ProcessStatus

def ofLetter (letter : String) : ProcessStatus :=
  match letter with
  | "O" => running
  | "S" => sleeping
  | "R" | "W" => waiting
  | "Z" => zombie
  | "T" => stopped
  | _ => other

def name : ProcessStatus → String
  | running => "running"
  | sleeping => "sleeping"
  | waiting => "waiting"
  | zombie => "zombie"
  | stopped => "stopped"
  | other => "other"

end ProcessStatus

/-- One process. Sizes are in kilobytes; `elapsedTime` and `cpuTime` are durations as printed. -/
structure ProcessRecord where
  pid : Int
  parentPid : Int
  state : String
  user : String
  uid : Int
  group : String
  gid : Int
  threadCount : Int
  priority : Int
  virtualSize : Int
  residentSize : Int
  elapsedTime : String
  cpuTime : String
  command : String
  fullArgs : String
  deriving DecidableEq, Repr

namespace ProcessRecord

def status (process : ProcessRecord) : ProcessStatus := .ofLetter process.state

def elapsedSeconds (process : ProcessRecord) : Except Failure Int :=
  Duration.secondsOr 0 process.elapsedTime

def cpuSeconds (process : ProcessRecord) : Except Failure Int :=
  Duration.secondsOr 0 process.cpuTime

end ProcessRecord

end HostInventory

namespace HostInventory.ProcessRow

def width : Nat := 15

/-- The record in the columns of a row. A pid known beforehand stands in for the pid column; numbers
that cannot be read count as zero. -/
def ofColumns (known : Option Int) : List String → Except Failure ProcessRecord
  | state :: pid :: parentPid :: user :: uid :: group :: gid :: threadCount :: priority ::
      virtualSize :: residentSize :: elapsedTime :: cpuTime :: command :: fullArgs :: _ =>
    .ok {
      pid := known.getD (Numeral.integerOr 0 pid)
      parentPid := Numeral.integerOr 0 parentPid
      state, user
      uid := Numeral.integerOr 0 uid
      group
      gid := Numeral.integerOr 0 gid
      threadCount := Numeral.integerOr 0 threadCount
      priority := Numeral.integerOr 0 priority
      virtualSize := Numeral.integerOr 0 virtualSize
      residentSize := Numeral.integerOr 0 residentSize
      elapsedTime, cpuTime, command, fullArgs }
  | _ => .error .missingColumn

def read? (known : Option Int) (row : String) : Option ProcessRecord :=
  (Text.fields? row width).bind fun columns => (ofColumns known columns).toOption

end HostInventory.ProcessRow

namespace HostInventory

/-- The columns of a row, if it has exactly `count` of them. -/
def columnsOf (row : String) (count : Int) : Except Failure (Option (List String)) :=
  if !Word.fits 64 (count - 1) then .error .countOutOfRange
  else .ok (Text.fields? row count)

/-- What a listing says: the records of its rows and the rows that have none, each in order. -/
structure ProcessListing where
  records : List ProcessRecord
  skipped : List String
  deriving DecidableEq, Repr

namespace ProcessListing

def ofLines (known : Option Int) (lines : List String) : ProcessListing where
  records := (lines.drop 1).filterMap (ProcessRow.read? known)
  skipped := (lines.drop 1).filter fun row => (ProcessRow.read? known row).isNone

end ProcessListing

end HostInventory
