import HostInventory.Config
import HostInventory.Replay
import HostInventory.Viewer.Screen

/-!
The command line: shows the process listing that stands on standard input as one page. The
environment says how much is logged, and where.
-/
namespace HostInventory.Screen

/-- The widths of the columns of the process table; the last column has none. -/
def columnWidths : List Nat := [7, 7, 10, 2, 5, 8, 12]

def serviceWidths : List Nat := [30, 7]

def lineOf : List Nat → List String → String
  | _, [] => ""
  | _, [cell] => cell
  | [], cell :: rest => cell ++ " " ++ lineOf [] rest
  | width :: widths, cell :: rest =>
    Journal.Event.padRight width cell ++ " " ++ lineOf widths rest

def page (screen : Screen) : List String :=
  let processes := screen.processes.table.rows.map fun (_, row) => row.cells
  [screen.header.time, screen.header.counts, ""] ++
    (columns :: processes).map (lineOf columnWidths) ++ [""] ++
    (serviceColumns :: screen.services).map (lineOf serviceWidths)

end HostInventory.Screen

namespace HostInventory

def variableNames : List String :=
  ["PROCINV_LEGACY_SERVICE_DIR", "PROCINV_POLL_RATE", "PROCINV_LOG_LEVEL", "PROCINV_LOG_FILE"]

def countThreads (snapshot : Snapshot) : Snapshot :=
  { snapshot with
    threadCount := snapshot.processes.foldl (fun sum process => sum + process.threadCount) 0 }

/-- The lines of an event; an event that cannot be written has none. -/
def logLines (event : Journal.Event) : List String := (event.lines.toOption).getD []

/-- The page for a listing, or why there is none, and the lines of the log. -/
def pageOf (startup : Startup) (listing : List String) :
    Except Failure (List String) × List String :=
  let host : Replay := { outputs := [(startup.config.allProcessesCommand, .ok listing)] }
  let (collected, _, host) := (Replay.engine startup.config).snapshot.perform (none, host)
  let page := do
    let snapshot ← collected
    let (outcome, screen) := (Screen.display (countThreads snapshot)).perform {}
    outcome.map fun _ => screen.page
  (page, (Journal.kept startup.threshold host.journal).flatMap logLines)

partial def readAll (stream : IO.FS.Stream) (before : String) : IO String := do
  let line ← stream.getLine
  if line.isEmpty then return before
  readAll stream (before ++ line)

end HostInventory

open HostInventory in
def main : IO UInt32 := do
  let mut environment : Environment := []
  for name in variableNames do
    if let some value ← IO.getEnv name then environment := environment.set name value
  let here := (← IO.currentDir).toString
  match Startup.ofEnvironment here (fun _ => .ok ()) environment with
  | .error failure =>
    IO.eprintln failure.message
    return 1
  | .ok startup =>
    let listing ← readAll (← IO.getStdin) ""
    let (page, log) := pageOf startup (Text.lines listing)
    IO.FS.writeFile startup.logFile (String.join (log.map (· ++ "\n")))
    match page with
    | .error failure =>
      IO.eprintln failure.message
      return 1
    | .ok page =>
      for line in page do IO.println line
      return 0
