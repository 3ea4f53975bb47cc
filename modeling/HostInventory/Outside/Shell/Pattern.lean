import HostInventory.Outside.Octets

/-!
Patterns of the shell, where `*` is any text, `?` any character, brackets are one of several
characters and a quoted character stands for itself, and the fields that expanded words fall into.
-/
namespace HostInventory.Shell

structure Sign where
  char : Char
  quoted : Bool := false
  deriving DecidableEq, Repr

namespace Sign

def isBare (sign : Sign) (c : Char) : Bool := !sign.quoted && sign.char == c

end Sign

namespace Pattern

inductive Member where
  | range (first last : Char)
  | named (name : List Char)
  deriving Repr

inductive Step where
  | char (c : Char)
  | any
  | anyText
  | oneOf (negated : Bool) (members : List Member)
  deriving Repr

def inClass (name : List Char) (c : Char) : Bool :=
  let upper := 'A' ≤ c && c ≤ 'Z'
  let lower := 'a' ≤ c && c ≤ 'z'
  let visible := '!' ≤ c && c ≤ '~'
  match String.ofList name with
  | "alpha" => upper || lower
  | "digit" => c.isDigit
  | "alnum" => upper || lower || c.isDigit
  | "upper" => upper
  | "lower" => lower
  | "space" => Octets.isBlank c
  | "blank" => c == ' ' || c == '\t'
  | "print" => visible || c == ' '
  | "graph" => visible
  | "punct" => visible && !(upper || lower || c.isDigit)
  | "cntrl" => c.toNat < 32 || c.toNat == 127
  | "xdigit" => (Octets.hex? c).isSome
  | _ => false

def Member.holds (member : Member) (c : Char) : Bool :=
  match member with
  | .range first last => first ≤ c && c ≤ last
  | .named name => inClass name c

/-- The class that is named at the start of a text, and the rest. -/
def className? (s : List Sign) : Option (List Char × List Sign) :=
  match s with
  | a :: b :: rest =>
    if a.isBare '[' && b.isBare ':' then
      let name := rest.takeWhile fun sign => Octets.isLetter sign.char
      match rest.drop name.length with
      | c :: d :: after =>
        if c.isBare ':' && d.isBare ']' then some (name.map (·.char), after) else none
      | _ => none
    else none
  | _ => none

/-- The members up to the closing bracket, and the rest; `none` without one. -/
def members : Nat → Bool → List Sign → Option (List Member × List Sign)
  | 0, _, _ | _ + 1, _, [] => none
  | fuel + 1, atStart, sign :: rest =>
    if sign.isBare ']' && !atStart then some ([], rest)
    else
      match className? (sign :: rest) with
      | some (name, rest) =>
        (members fuel false rest).map fun (more, rest) => (.named name :: more, rest)
      | none =>
        let single := (members fuel false rest).map fun (more, rest) =>
          (Member.range sign.char sign.char :: more, rest)
        match rest with
        | dash :: last :: after =>
          if dash.isBare '-' && !last.isBare ']' then
            (members fuel false after).map fun (more, rest) =>
              (.range sign.char last.char :: more, rest)
          else single
        | _ => single

def steps : Nat → List Sign → List Step
  | 0, _ | _ + 1, [] => []
  | fuel + 1, sign :: rest =>
    if sign.isBare '*' then .anyText :: steps fuel rest
    else if sign.isBare '?' then .any :: steps fuel rest
    else if sign.isBare '[' then
      let (negated, inner) :=
        match rest with
        | mark :: more => if mark.isBare '!' || mark.isBare '^' then (true, more) else (false, rest)
        | [] => (false, [])
      match members (inner.length + 1) true inner with
      | some (found, after) => .oneOf negated found :: steps fuel after
      | none => .char '[' :: steps fuel rest
    else if sign.isBare '\\' then
      match rest with
      | next :: after => .char next.char :: steps fuel after
      | [] => [.char '\\']
    else .char sign.char :: steps fuel rest

def ofSigns (s : List Sign) : List Step := steps (s.length + 1) s

def Step.admits (step : Step) (c : Char) : Bool :=
  match step with
  | .char d => c == d
  | .any | .anyText => true
  | .oneOf negated found => (found.any (·.holds c)) != negated

def isMatch : List Step → List Char → Bool
  | [], s => s.isEmpty
  | .anyText :: rest, [] => isMatch rest []
  | .anyText :: rest, c :: s => isMatch rest (c :: s) || isMatch (.anyText :: rest) s
  | _ :: _, [] => false
  | step :: rest, c :: s => step.admits c && isMatch rest s
termination_by pattern s => (pattern.length, s.length)

end Pattern

inductive Atom where
  /-- A character; `loose` ones may separate fields. -/
  | one (sign : Sign) (loose : Bool)
  /-- There is a field here, even if nothing stands in it. -/
  | anchor
  | boundary
  deriving Repr

namespace Atom

def ofText (quoted : Bool) (s : List Char) : List Atom := s.map fun c => .one ⟨c, quoted⟩ false

def ofValue (quoted : Bool) (s : List Char) : List Atom := s.map fun c => .one ⟨c, quoted⟩ (!quoted)

def signs : List Atom → List Sign
  | [] => []
  | .one sign _ :: rest => sign :: signs rest
  | .anchor :: rest => signs rest
  | .boundary :: rest => ⟨' ', true⟩ :: signs rest

def isBlankSeparator (c : Char) : Bool := c == ' ' || c == '\t' || c == '\n'

/-- What a separator that comes next would end. -/
inductive Gap where
  /-- The field before it has been ended already, by a blank. -/
  | closed
  /-- Nothing: the next separator that is no blank ends a field of its own. -/
  | unsettled

/-- Cuts an expanded word into fields. `field` is the field at hand, if one has begun. -/
def split (separators : List Char) : Gap → Option (List Sign) → List Atom → List (List Sign)
  | _, field, [] => field.toList
  | gap, field, .anchor :: rest => split separators gap (some (field.getD [])) rest
  | _, field, .boundary :: rest => field.toList ++ split separators .unsettled none rest
  | gap, field, .one sign loose :: rest =>
    if loose && separators.contains sign.char then
      match field with
      | some found =>
        found :: split separators (if isBlankSeparator sign.char then .closed else .unsettled)
          none rest
      | none =>
        if isBlankSeparator sign.char then split separators gap none rest
        else
          match gap with
          | .closed => split separators .unsettled none rest
          | .unsettled => [] :: split separators .unsettled none rest
    else split separators gap (some (field.getD [] ++ [sign])) rest

def fields (separators : List Char) (atoms : List Atom) : List (List Sign) :=
  split separators .unsettled none atoms

end Atom

end HostInventory.Shell
