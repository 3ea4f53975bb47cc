import HostInventory.Outside.Numeric

/-!
Arithmetic of the shell: whole numbers of 64 bits, with variables that can be assigned to.
-/
namespace HostInventory.Shell.Arithmetic

open Octets

inductive Fault where
  | shape (wanted : String)
  | divisionByZero
  | illegalNumber (s : List Char)

/-- What is left of an expression, and the variables as it sees and changes them. -/
structure State where
  rest : List Char
  bindings : List (List Char × List Char)

abbrev Evaluation := StateT State (Except Fault)

def wrap (n : Int) : Int := Int.bmod n (Nat.pow 2 64)

def truth (b : Bool) : Int := if b then 1 else 0

def isGap (c : Char) : Bool := c == ' ' || c == '\t' || c == '\n'

def skipGaps : Evaluation Unit := modify fun s => { s with rest := s.rest.dropWhile isGap }

def operators : List String :=
  ["<<=", ">>=", "<<", ">>", "<=", ">=", "==", "!=", "&&", "||", "+=", "-=", "*=", "/=", "%=", "&=",
    "|=", "^=", "+", "-", "*", "/", "%", "<", ">", "&", "|", "^", "=", "?", ":", "(", ")", "!", "~"]

def nextOperator : Evaluation (Option String) := do
  skipGaps
  let s := (← get).rest
  return operators.find? fun operator => operator.toList.isPrefixOf s

def take (operator : String) : Evaluation Unit :=
  modify fun s => { s with rest := s.rest.drop operator.length }

/-- How tightly a binary operator binds, from nine down to one. -/
def tightness (operator : String) : Nat :=
  match operator with
  | "*" | "/" | "%" => 9
  | "+" | "-" => 8
  | "<<" | ">>" => 7
  | "<" | ">" | "<=" | ">=" => 6
  | "==" | "!=" => 5
  | "&" => 4
  | "^" => 3
  | "|" => 2
  | _ => 0

def bits (n : Int) : Nat := (n % (Nat.pow 2 64 : Nat)).toNat

def ofBits (n : Nat) : Int := wrap n

def operate (operator : String) (a b : Int) : Except Fault Int :=
  match operator with
  | "*" => .ok (wrap (a * b))
  | "/" => if b = 0 then .error .divisionByZero else .ok (wrap (Int.tdiv a b))
  | "%" => if b = 0 then .error .divisionByZero else .ok (wrap (Int.tmod a b))
  | "+" => .ok (wrap (a + b))
  | "-" => .ok (wrap (a - b))
  | "<<" => .ok (wrap (a * Nat.pow 2 (bits b % 64)))
  | ">>" => .ok (Int.fdiv a (Nat.pow 2 (bits b % 64)))
  | "<" => .ok (truth (a < b))
  | ">" => .ok (truth (b < a))
  | "<=" => .ok (truth (a ≤ b))
  | ">=" => .ok (truth (b ≤ a))
  | "==" => .ok (truth (a = b))
  | "!=" => .ok (truth (a ≠ b))
  | "&" => .ok (ofBits (bits a &&& bits b))
  | "^" => .ok (ofBits (bits a ^^^ bits b))
  | "|" => .ok (ofBits (bits a ||| bits b))
  | _ => .ok b

def valueOf (name : List Char) : Evaluation Int := do
  let s := ((← get).bindings.lookup name).getD []
  if s.isEmpty then return 0
  let reading := Numeric.signed true (s.reverse.dropWhile Octets.isBlank).reverse
  if reading.fault = some .notNumeric || reading.fault = some .incomplete then
    throw (.illegalNumber s)
  return reading.value

def assign (name : List Char) (n : Int) : Evaluation Unit :=
  modify fun s =>
    { s with bindings := (name, (toString n).toList) :: s.bindings.filter (·.1 != name) }

def assigning? (operator : String) : Option String :=
  match operator with
  | "=" => some ""
  | "<<=" => some "<<"
  | ">>=" => some ">>"
  | "+=" => some "+"
  | "-=" => some "-"
  | "*=" => some "*"
  | "/=" => some "/"
  | "%=" => some "%"
  | "&=" => some "&"
  | "|=" => some "|"
  | "^=" => some "^"
  | _ => none

mutual

/-- A number, a variable, brackets, or one of these with a sign. Without `counts` nothing is
computed that could fail or change a variable. -/
def primary : Nat → Bool → Evaluation Int
  | 0, _ => throw (.shape "primary")
  | fuel + 1, counts => do
    skipGaps
    let s := (← get).rest
    match s with
    | [] => throw (.shape "primary")
    | c :: _ =>
      if c.isDigit then
        match Numeric.unsigned s with
        | (some n, rest) =>
          modify fun state => { state with rest }
          return min (n : Int) ((Nat.pow 2 63 : Nat) - 1)
        | (none, _) => throw (.shape "primary")
      else if isNameChar c then
        let name := s.takeWhile isNameChar
        modify fun state => { state with rest := s.drop name.length }
        match (← nextOperator).bind fun operator =>
            (assigning? operator).map fun inner => (operator, inner) with
        | some (operator, inner) =>
          take operator
          let value ← assignment fuel counts
          if !counts then return 0
          let value ← if inner.isEmpty then pure value else
            match operate inner (← valueOf name) value with
            | .ok value => pure value
            | .error fault => throw fault
          assign name value
          return value
        | none => if counts then valueOf name else return 0
      else
        match ← nextOperator with
        | some "(" =>
          take "("
          let value ← assignment fuel counts
          match ← nextOperator with
          | some ")" =>
            take ")"
            return value
          | _ => throw (.shape "')'")
        | some "+" =>
          take "+"
          primary fuel counts
        | some "-" =>
          take "-"
          return wrap (-(← primary fuel counts))
        | some "!" =>
          take "!"
          return truth ((← primary fuel counts) = 0)
        | some "~" =>
          take "~"
          return wrap (-(← primary fuel counts) - 1)
        | _ => throw (.shape "primary")

/-- What follows a first operand: operators that bind at least so tightly, with their operands. -/
def binary : Nat → Bool → Nat → Int → Evaluation Int
  | 0, _, _, first => return first
  | fuel + 1, counts, least, first => do
    match ← nextOperator with
    | none => return first
    | some operator =>
      if tightness operator = 0 || tightness operator < least then return first
      take operator
      let second ← binary fuel counts (tightness operator + 1) (← primary fuel counts)
      let value ← if !counts then pure 0 else
        match operate operator first second with
        | .ok value => pure value
        | .error fault => throw fault
      binary fuel counts least value

def conjunction : Nat → Bool → Evaluation Int
  | 0, _ => throw (.shape "primary")
  | fuel + 1, counts => do
    let first ← binary fuel counts 1 (← primary fuel counts)
    match ← nextOperator with
    | some "&&" =>
      take "&&"
      let second ← conjunction fuel (counts && first != 0)
      return truth (first != 0 && second != 0)
    | _ => return first

def disjunction : Nat → Bool → Evaluation Int
  | 0, _ => throw (.shape "primary")
  | fuel + 1, counts => do
    let first ← conjunction fuel counts
    match ← nextOperator with
    | some "||" =>
      take "||"
      let second ← disjunction fuel (counts && first == 0)
      return truth (first != 0 || second != 0)
    | _ => return first

/-- A whole expression; a variable that is assigned to is met as its first part. -/
def assignment : Nat → Bool → Evaluation Int
  | 0, _ => throw (.shape "primary")
  | fuel + 1, counts => do
    let condition ← disjunction fuel counts
    match ← nextOperator with
    | some "?" =>
      take "?"
      let yes ← assignment fuel (counts && condition != 0)
      match ← nextOperator with
      | some ":" =>
        take ":"
        let no ← assignment fuel (counts && condition == 0)
        return if condition != 0 then yes else no
      | _ => throw (.shape "':'")
    | _ => return condition

end

def evaluate (bindings : List (List Char × List Char)) (expression : List Char) :
    Except Fault (Int × List (List Char × List Char)) := do
  let run : Evaluation Int := do
    skipGaps
    let value ← assignment (2 * expression.length + 8) true
    skipGaps
    if (← get).rest.isEmpty then return value else throw (.shape "EOF")
  let (value, state) ← run.run ⟨expression, bindings⟩
  return (value, state.bindings)

end HostInventory.Shell.Arithmetic
