import HostInventory.Text.Chars

/-!
Texts cut into words. Rows are cut at blanks, but for their last column; in command lines single
quotes keep everything, double quotes everything but an escaped quote or backslash, and a backslash
elsewhere keeps the next character.
-/
namespace HostInventory.Text

/-- Cuts a stripped row into pieces: `count - 1` cuts when `count` is positive, every possible cut
otherwise. -/
def pieces (row : List Char) (count : Int) : List (List Char) :=
  if 0 < count then splitWords (count - 1).toNat (stripChars row) else words (stripChars row)

/-- The columns of a row, if it has exactly `count` of them; the last one keeps its inner blanks. -/
def fields? (row : String) (count : Int) : Option (List String) :=
  let parts := (pieces row.toList count).map String.ofList
  if (parts.length : Int) = count then some parts else none

/-- Why a command line has no words. -/
inductive ShellFault where
  | openQuotation
  | openEscape
  deriving DecidableEq, Repr

/-- Where in a command line a character stands. -/
inductive ShellMode where
  | bare
  | single
  | double
  deriving DecidableEq, Repr

def isShellBlank (c : Char) : Bool := c == ' ' || c == '\t' || c == '\r' || c == '\n'

/-- Puts a finished word, kept back to front, before the words that follow it. -/
def closeWord (word : Option (List Char)) (rest : List (List Char)) : List (List Char) :=
  match word with
  | none => rest
  | some w => w.reverse :: rest

/-- Adds a character to the word at hand, which is kept back to front. -/
def growWord (word : Option (List Char)) (c : Char) : Option (List Char) :=
  some (c :: word.getD [])

/-- The words from here on. `word` is the word at hand, if one has begun: quotes begin a word even
when nothing stands between them. -/
def shellWordsFrom : ShellMode → Option (List Char) → List Char →
    Except ShellFault (List (List Char))
  | .bare, word, [] => .ok (closeWord word [])
  | .bare, word, '\\' :: rest =>
    match rest with
    | [] => .error .openEscape
    | c :: more => shellWordsFrom .bare (growWord word c) more
  | .bare, word, '\'' :: rest => shellWordsFrom .single (some (word.getD [])) rest
  | .bare, word, '"' :: rest => shellWordsFrom .double (some (word.getD [])) rest
  | .bare, word, c :: rest =>
    if isShellBlank c then (shellWordsFrom .bare none rest).map (closeWord word)
    else shellWordsFrom .bare (growWord word c) rest
  | .single, _, [] => .error .openQuotation
  | .single, word, c :: rest =>
    if c = '\'' then shellWordsFrom .bare word rest
    else shellWordsFrom .single (growWord word c) rest
  | .double, _, [] => .error .openQuotation
  | .double, word, '\\' :: rest =>
    match rest with
    | [] => .error .openEscape
    | c :: more =>
      if c = '"' ∨ c = '\\' then shellWordsFrom .double (growWord word c) more
      else shellWordsFrom .double (growWord (growWord word '\\') c) more
  | .double, word, c :: rest =>
    if c = '"' then shellWordsFrom .bare word rest
    else shellWordsFrom .double (growWord word c) rest

def shellWords (command : String) : Except ShellFault (List String) :=
  (shellWordsFrom .bare none command.toList).map (·.map String.ofList)

end HostInventory.Text
