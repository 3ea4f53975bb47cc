import HostInventory.Failure

/-!
Directories, files and symbolic links below one root. A path is walked component by component; links
count, and too many of them lead nowhere.
-/
namespace HostInventory

inductive FileEntry where
  | directory
  | file
  | program
  | link (target : String)
  deriving DecidableEq, Repr

/-- What lies below a root: entries by the components of their paths. -/
structure FileTree where
  entries : List (List String × FileEntry)
  /-- Whether nothing lies above the root, so that the root is its own parent. -/
  isWhole : Bool := false

namespace FileTree

/-- The components of a path; empty ones and single points stand for nothing. -/
def components (path : String) : List String :=
  (path.splitOn "/").filter fun part => part != "" && part != "."

/-- The entry at a place; a place with something below it is a directory. -/
def entry? (tree : FileTree) (place : List String) : Option FileEntry :=
  match tree.entries.lookup place with
  | some entry => some entry
  | none =>
    if place.isEmpty || tree.entries.any fun (other, _) => place.isPrefixOf other then
      some .directory
    else none

def namesIn (tree : FileTree) (place : List String) : List String :=
  let below := tree.entries.filterMap fun (other, _) =>
    if place.isPrefixOf other then (other.drop place.length).head? else none
  (below.mergeSort fun a b => decide (a ≤ b)).eraseReps

def linkLimit : Nat := 40

def nameLimit : Nat := 255

def pathLimit : Nat := 4096

def isTooLong (name : String) : Bool := nameLimit < name.utf8ByteSize

/-- A walk that has left the root: nothing is known of what lies there, but that no name is too
long. -/
def walkOutside (path : List String) : Obstacle :=
  match path.dropWhile (· == "..") with
  | name :: _ => if isTooLong name then .nameTooLong else .missing
  | [] => .missing

/-- The place that a path leads to from `place`, at most so many links on the way. -/
def walk (tree : FileTree) (links : Nat) (place : List String) :
    List String → Except Obstacle (List String)
  | [] => .ok place
  | name :: rest =>
    if tree.entry? place ≠ some .directory then .error .notDirectory
    else if name = ".." then
      if place.isEmpty && !tree.isWhole then .error (walkOutside rest)
      else tree.walk links place.dropLast rest
    else if isTooLong name then .error .nameTooLong
    else
      match tree.entry? (place ++ [name]) with
      | none => .error .missing
      | some (.link target) =>
        match links with
        | 0 => .error .tooManyLinks
        | links + 1 =>
          if target.startsWith "/" then
            if tree.isWhole then tree.walk links [] (components target ++ rest)
            else .error .missing
          else tree.walk links place (components target ++ rest)
      | some _ => tree.walk links (place ++ [name]) rest
termination_by path => (links, path.length)

def asksDirectory (path : String) : Bool := path.endsWith "/" || path.endsWith "/."

/-- The place and the entry that a path from `base` leads to. `shown` is the whole path as the
system is given it. -/
def find (tree : FileTree) (base : List String) (shown path : String) :
    Except Obstacle (List String × FileEntry) := do
  if pathLimit ≤ shown.utf8ByteSize then throw .nameTooLong
  let place ← tree.walk linkLimit base (components path)
  match tree.entry? place with
  | none => throw .missing
  | some entry =>
    if asksDirectory path && entry ≠ .directory then throw .notDirectory
    return (place, entry)

end FileTree

end HostInventory

namespace HostInventory.FileTree

/-- The components of a path from the root: two points take back the component before them. -/
def normalized (path : String) : List String :=
  (components path).foldl (fun place part => if part = ".." then place.dropLast else place ++ [part])
    []

/-- How a path from the root begins: with two slashes exactly if it was written so. -/
def rootOf (path : String) : String :=
  match path.toList with
  | '/' :: '/' :: '/' :: _ => "/"
  | '/' :: '/' :: _ => "//"
  | _ => "/"

def absolute (here path : String) : String :=
  let path := if path.startsWith "/" then path else here ++ "/" ++ path
  rootOf path ++ "/".intercalate (normalized path)

/-- Whether a file can be written at a path from the root; a new one needs a directory to stand
in. -/
def checkWritable (tree : FileTree) (path : String) : Except Obstacle Unit :=
  match tree.find [] path path with
  | .ok (_, .directory) => .error .isDirectory
  | .ok _ => .ok ()
  | .error .missing =>
    let parent := (components path).dropLast
    match tree.walk linkLimit [] parent with
    | .ok place => if tree.entry? place = some .directory then .ok () else .error .notDirectory
    | .error obstacle => .error obstacle
  | .error obstacle => .error obstacle

end HostInventory.FileTree
