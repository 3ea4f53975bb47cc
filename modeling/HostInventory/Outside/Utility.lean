import HostInventory.Command
import HostInventory.Outside.Shell.Execution

/-!
Starting the programs of a usual host: they are looked for as the system looks for them, and then
carried out here.
-/
namespace HostInventory.Utility

open Command

def searchPath (environment : Environment) : List String :=
  ((environment.get? "PATH").getD "/bin:/usr/bin").splitOn ":"

def entryAt (path : String) : Except Obstacle (List String × FileEntry) :=
  UsualHost.tree.find (if path.startsWith "/" then [] else UsualHost.workingPlace) path path

def programAt (path : String) : Except Obstacle String := do
  let (place, entry) ← entryAt path
  if entry = .program then return place.getLastD "" else throw .forbidden

def isAbsence (obstacle : Obstacle) : Bool := obstacle = .missing || obstacle = .notDirectory

/-- Looks for a program in one directory after another. The first obstacle that is no mere absence
is what is told; then the last one. -/
def search (name : String) : Option Obstacle → List String → Except Obstacle String
  | found, [] => .error (found.getD .missing)
  | found, directory :: rest =>
    let path := if directory.isEmpty || directory.endsWith "/" then directory ++ name
      else directory ++ "/" ++ name
    match programAt path with
    | .ok program => .ok program
    | .error obstacle =>
      search name (if found.all isAbsence then some obstacle else found) rest

def locate (environment : Environment) (name : String) : Except Obstacle String :=
  if name.toList.contains '/' then programAt name
  else search name none (searchPath environment)

/-- How deep commands of a shell may nest, and how often a loop may go round. -/
def fuel : Nat := 20000

/-- What a shell leaves; one that a signal ends has the negative of its number as outcome. -/
def shell (name : List Char) (arguments : List (List Char)) (environment : Environment) :
    Finished :=
  let finish (machine : Shell.Machine) (status : Int) : Finished :=
    ⟨Octets.toBytes (machine.contentOf 1), Octets.toBytes (machine.contentOf 2), status⟩
  match Shell.Invocation.read name arguments with
  | .error message =>
    let told := name ++ ": 0: ".toList ++ message ++ ['\n']
    ⟨[], Octets.toBytes told, 2⟩
  | .ok invocation =>
    let bindings := environment.map fun (name, value) =>
      (Octets.ofString name, Octets.ofString value)
    let machine := invocation.machine bindings ("/" ++ "/".intercalate UsualHost.workingPlace)
    match (Shell.Execution.session fuel invocation.origin).run.run machine with
    | (.error (.killed signal), machine) => finish machine (-signal)
    | (_, machine) => finish machine (machine.status % 256 : Nat)

def run (program : String) (name : List Char) (arguments : List (List Char))
    (environment : Environment) : Finished :=
  if program = "dash" then shell name arguments environment
  else
    let read (path : List Char) : Except Obstacle (List Char) := do
      let (_, entry) ← entryAt (String.ofList path)
      if entry = .directory then throw .isDirectory else return []
    match SmallPrograms.run? program { name, arguments, read } with
    | some outcome => ⟨Octets.toBytes outcome.out, Octets.toBytes outcome.err, outcome.status⟩
    | none => ⟨[], [], 0⟩

def launch {σ : Type} : Launcher σ := fun words environment => do
  Action.ofExcept (checkStart words environment)
  let name := words.headD ""
  match locate environment name with
  | .error obstacle => throw (.blocked obstacle name)
  | .ok program =>
    return run program (Octets.ofString name) (words.tail.map Octets.ofString) environment

end HostInventory.Utility
