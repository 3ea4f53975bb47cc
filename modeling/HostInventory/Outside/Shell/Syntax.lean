/-!
Scripts of the shell: words with what is to be put in for their parts, and commands. Texts are texts
of bytes.
-/
namespace HostInventory.Shell

inductive Trim where
  | shortestFront
  | longestFront
  | shortestBack
  | longestBack
  deriving DecidableEq, Repr

/-- What a parameter that has no value, or one, is replaced by. -/
inductive Fallback where
  | use
  /-- The word stands in, and becomes the value. -/
  | assign
  | refuse
  | replace
  deriving DecidableEq, Repr

inductive Mode where
  | read
  | write
  | append
  | both
  deriving DecidableEq, Repr

mutual

inductive Piece where
  | text (s : List Char) (quoted : Bool)
  | parameter (name : List Char) (form : Form) (quoted : Bool)
  | output (script : Command) (quoted : Bool)
  | arithmetic (expression : List Piece) (quoted : Bool)

inductive Form where
  | value
  | length
  /-- `emptyToo` makes an empty value count as missing. -/
  | fallback (kind : Fallback) (emptyToo : Bool) (word : List Piece)
  | trim (kind : Trim) (pattern : List Piece)
  | unknown

inductive Redirection where
  | file (descriptor : Nat) (mode : Mode) (path : List Piece)
  | duplicate (descriptor : Nat) (source : List Piece)
  | here (descriptor : Nat) (body : List Piece)

inductive Command where
  | nothing
  | simple (line : Nat) (assignments : List (List Char × List Piece)) (words : List (List Piece))
      (redirections : List Redirection)
  | sequence (first second : Command)
  | both (first second : Command)
  | either (first second : Command)
  | negation (body : Command)
  | pipeline (commands : List Command)
  | background (body : Command)
  | redirected (body : Command) (redirections : List Redirection)
  | subshell (body : Command)
  | branch (condition yes no : Command)
  /-- The body runs as long as the condition's outcome is not `endsOn`. -/
  | loop (endsOn : Bool) (condition body : Command)
  | each (name : List Char) (words : Option (List (List Piece))) (body : Command)
  | choice (subject : List Piece) (arms : List (List (List Piece) × Command))
  | define (name : List Char) (body : Command)

end

end HostInventory.Shell
