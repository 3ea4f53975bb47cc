import HostInventory.Journal
import HostInventory.Monitor.Basic
import HostInventory.Number.Binary64
import HostInventory.Outside.Files
import HostInventory.Text.Case

/-!
The commands and places from which the inventory is built, the environment variables that change
them, and what the program settles from these before its screen appears.
-/
namespace HostInventory

abbrev Environment := List (String × String)

namespace Environment

def get? (environment : Environment) (name : String) : Option String := environment.lookup name

def set (environment : Environment) (name value : String) : Environment :=
  environment.filter (·.1 != name) ++ [(name, value)]

end Environment

structure Config where
  columns : String := "s,pid,ppid,user,uid,group,gid,nlwp,pri,vsz,rss,etime,time,comm,args"
  legacyDirectory : String := "/etc/init.d"
  serviceCommand : String := "svcs -p"
  childCommand : String := "pgrep -P"
  threadCommand : String := "ps -eLo pid"
  pollRate : Float := 2
  logLevel : String := "WARNING"
  logFile : Option String := none

namespace Config

def allProcessesCommand (config : Config) : String := "ps -eo " ++ config.columns

/-- Lists some processes: their pids, with commas between them, are to follow. -/
def somePidsCommand (config : Config) : String := "ps -o " ++ config.columns ++ " -p "

/-- A poll rate as a text says it; no text, or one that is no number, leaves the usual rate. -/
def pollRateOf (text : Option String) : Float :=
  (text.bind fun s => if s.isEmpty then none else FloatText.read? s).getD 2

def ofEnvironment (environment : Environment) : Config :=
  let usual : Config := {}
  { usual with
    legacyDirectory := (environment.get? "PROCINV_LEGACY_SERVICE_DIR").getD usual.legacyDirectory
    pollRate := pollRateOf (environment.get? "PROCINV_POLL_RATE")
    logLevel := Text.upper ((environment.get? "PROCINV_LOG_LEVEL").getD usual.logLevel)
    logFile := (environment.get? "PROCINV_LOG_FILE").filter (!·.isEmpty) }

end Config

structure Startup where
  config : Config
  pollRate : Float
  threshold : Nat
  /-- Where the log goes: never to the screen. -/
  logFile : String

def nullFile : String := "/dev/null"

/-- Settles everything, for a program that runs in the directory `here`. `openLog` says whether the
log can be written; that is found out before the log level is looked at, and a level's name may be
one of those that stand for no level. -/
def Startup.ofEnvironment (here : String) (openLog : String → Except Failure Unit)
    (environment : Environment) : Except Failure Startup := do
  let config := Config.ofEnvironment environment
  let logFile := FileTree.absolute here (config.logFile.getD nullFile)
  openLog logFile
  return {
    config
    logFile
    threshold := ← Journal.threshold config.logLevel
    pollRate := PollRate.atLeastShortest config.pollRate }

end HostInventory
