import HostInventory.Outside.Shell.Machine
import HostInventory.Outside.Shell.Pattern

/-!
The parameters of a shell and what an expansion takes of their values.
-/
namespace HostInventory.Shell

open Octets

namespace Machine

def optionLetters (machine : Machine) : List Char :=
  "efIimnsxvVEabu".toList.filter machine.options.contains

def parameter? (machine : Machine) (name : List Char) : Option (List Char) :=
  match name with
  | ['#'] => some (ofNat 10 machine.arguments.length)
  | ['?'] => some (ofNat 10 machine.status)
  | ['-'] => some machine.optionLetters
  | ['$'] => some processNumber
  | ['!'] => machine.backgroundStatus.map fun _ => backgroundNumber
  | _ =>
    if name.all Char.isDigit then
      match value 10 (digits decimal? name).1 with
      | 0 => some machine.name
      | n + 1 => machine.arguments[n]?
    else machine.value? name

def isWhole (name : List Char) : Bool := name = ['@'] || name = ['*']

def joined (machine : Machine) : List Char :=
  (machine.separators.take 1).intercalate machine.arguments

/-- Whether a parameter has a value; an empty one counts only without `emptyToo`. -/
def isPresent (machine : Machine) (name : List Char) (emptyToo : Bool) : Bool :=
  if isWhole name then
    !machine.arguments.isEmpty && !(emptyToo && machine.arguments.all List.isEmpty)
  else
    match machine.parameter? name with
    | some s => !(emptyToo && s.isEmpty)
    | none => false

def values (machine : Machine) (name : List Char) (quoted : Bool) : List (List Char) :=
  if name = ['*'] && quoted then [machine.joined]
  else if isWhole name then machine.arguments
  else (machine.parameter? name).toList

def home? (machine : Machine) (user : List Char) : Option (List Char) :=
  if user.isEmpty then machine.value? "HOME".toList
  else if user = "root".toList then some "/root".toList
  else none

end Machine

namespace Atom

/-- Several values that came out of one expansion; quoted ones are fields even if they are empty. -/
def ofValues (quoted : Bool) (values : List (List Char)) : List Atom :=
  [Atom.boundary].intercalate
    (values.map fun s => (if quoted then [Atom.anchor] else []) ++ ofValue quoted s)

/-- What came out of an expansion as a whole: unquoted characters may separate fields. -/
def loosened (quoted : Bool) (atoms : List Atom) : List Atom :=
  if quoted then atoms
  else
    atoms.map fun atom =>
      match atom with
      | .one sign loose => .one sign (loose || !sign.quoted)
      | atom => atom

def plain (signs : List Sign) : List Char := signs.map (·.char)

end Atom

/-- How many characters a pattern takes from the front of a text, if it takes any. -/
def Trim.frontLength? (pattern : List Pattern.Step) (longest : Bool) (s : List Char) : Option Nat :=
  let lengths := List.range (s.length + 1)
  (if longest then lengths.reverse else lengths).find? fun n => Pattern.isMatch pattern (s.take n)

/-- How many characters a pattern leaves when it takes from the back of a text, if it takes any. -/
def Trim.leftLength? (pattern : List Pattern.Step) (longest : Bool) (s : List Char) : Option Nat :=
  let lengths := List.range (s.length + 1)
  (if longest then lengths else lengths.reverse).find? fun n => Pattern.isMatch pattern (s.drop n)

def Trim.apply (kind : Trim) (pattern : List Pattern.Step) (s : List Char) : List Char :=
  match kind with
  | .shortestFront => s.drop ((frontLength? pattern false s).getD 0)
  | .longestFront => s.drop ((frontLength? pattern true s).getD 0)
  | .shortestBack => s.take ((leftLength? pattern false s).getD s.length)
  | .longestBack => s.take ((leftLength? pattern true s).getD s.length)

/-- The name in front of a home directory at the start of a word, and the rest of the word. -/
def homeOf? (word : List Piece) : Option (List Char × List Piece) :=
  match word with
  | .text ('~' :: s) false :: rest =>
    let user := s.takeWhile (· != '/')
    let after := s.drop user.length
    if after.isEmpty && !rest.isEmpty then none
    else some (user, if after.isEmpty then rest else .text after false :: rest)
  | _ => none

def isAssignment (word : List Piece) : Bool :=
  match word with
  | .text s false :: _ =>
    let name := s.takeWhile isNameChar
    isName name && (s.drop name.length).head? == some '='
  | _ => false

end HostInventory.Shell
