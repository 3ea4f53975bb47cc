import HostInventory.Outside.Shell.Builtin

/-!
The arguments under which a shell is started, and the shell at its start.
-/
namespace HostInventory.Shell

open Octets

inductive Origin where
  | argument (script : List Char)
  | file (path : List Char)
  | input
  deriving Repr

structure Invocation where
  origin : Origin
  options : List Char := []
  name : List Char
  arguments : List (List Char) := []
  deriving Repr

namespace Invocation

structure Leading where
  options : List Char := []
  isScript : Bool := false
  isInput : Bool := false
  rest : List (List Char) := []

def letters : List Char := "efmnxvabuCEVIi".toList

def takeLetters (on : Bool) : List Char → Leading → Except (List Char) Leading
  | [], leading => .ok leading
  | letter :: more, leading =>
    if letter = 'c' && on then takeLetters on more { leading with isScript := true }
    else if letter = 's' && on then takeLetters on more { leading with isInput := true }
    else if letters.contains letter then
      let others := leading.options.filter (· != letter)
      takeLetters on more { leading with options := if on then others ++ [letter] else others }
    else .error ("Illegal option -".toList ++ [letter])

def takeOptions : List (List Char) → Leading → Except (List Char) Leading
  | [], leading => .ok { leading with rest := [] }
  | [sign, 'o'] :: name :: rest, leading => do
    if sign = '-' || sign = '+' then
      match Builtin.options.lookup (String.ofList name) with
      | some letter => takeOptions rest (← takeLetters (sign = '-') [letter] leading)
      | none => throw ("Illegal option -o ".toList ++ name)
    else return { leading with rest := [sign, 'o'] :: name :: rest }
  | ['-'] :: rest, leading | ['-', '-'] :: rest, leading => .ok { leading with rest }
  | ('-' :: letters) :: rest, leading => do
    takeOptions rest (← takeLetters true letters leading)
  | ('+' :: letters) :: rest, leading => do
    takeOptions rest (← takeLetters false letters leading)
  | rest, leading => .ok { leading with rest }

/-- How a shell of this name is started with these arguments, or why it is not. -/
def read (name : List Char) (arguments : List (List Char)) : Except (List Char) Invocation := do
  let leading ← takeOptions arguments {}
  let options := leading.options
  if leading.isScript then
    match leading.rest with
    | [] => throw "-c requires an argument".toList
    | [script] => return { origin := .argument script, options, name }
    | script :: name :: arguments => return { origin := .argument script, options, name, arguments }
  else if leading.isInput then return { origin := .input, options, name, arguments := leading.rest }
  else
    match leading.rest with
    | [] => return { origin := .input, options, name }
    | path :: arguments => return { origin := .file path, options, name := path, arguments }

end Invocation

def Machine.firstVariables (environment : List (List Char × List Char)) (directory : String) :
    List (List Char × Variable) :=
  let given := environment.filter fun (name, _) =>
    isName name && !(["IFS".toList, "PWD".toList, "OPTIND".toList].contains name)
  let usual (name : String) (value : List Char) : List (List Char × Variable) :=
    if (given.lookup name.toList).isSome then [] else [(name.toList, ⟨some value, false, false⟩)]
  given.map (fun (name, value) => (name, ⟨some value, true, false⟩)) ++
    usual "PATH" "/usr/local/sbin:/usr/local/bin:/usr/sbin:/usr/bin:/sbin:/bin".toList ++
    usual "PS4" "+ ".toList ++
    [("IFS".toList, ⟨some [' ', '\t', '\n'], false, false⟩),
      ("OPTIND".toList, ⟨some ['1'], false, false⟩),
      ("PWD".toList, ⟨some directory.toList, true, false⟩)]

def Invocation.machine (invocation : Invocation) (environment : List (List Char × List Char))
    (directory : String) : Machine :=
  { name := invocation.name
    arguments := invocation.arguments
    options := invocation.options
    directory
    bindings := Machine.firstVariables environment directory }

end HostInventory.Shell
