import HostInventory.Proofs.Text.Chars
import HostInventory.Text.Decoding

/-!
Texts that are written line by line, each line with a line feed after it, and cut into lines again.
A line comes back whole just when it holds no boundary of its own; the piece before its first
boundary comes back in any case.
-/
namespace HostInventory.Text

variable {c : Char} {s t line rest : List Char}

/-- A text that no line boundary cuts. -/
def IsUnbroken (s : List Char) : Prop := ∀ c ∈ s, isLineBoundary c = false

instance (s : List Char) : Decidable (IsUnbroken s) :=
  decidable_of_iff (s.all (!isLineBoundary ·) = true) (by simp [IsUnbroken])

/-- A text that the ends of lines, in whatever convention, do not cut: it may hold other
boundaries. -/
def IsOneLine (s : List Char) : Prop := ∀ c ∈ s, c ≠ '\n' ∧ c ≠ '\r'

instance (s : List Char) : Decidable (IsOneLine s) :=
  decidable_of_iff (s.all (fun c => c != '\n' && c != '\r') = true) (by simp [IsOneLine])

theorem isBlank_of_isLineBoundary (boundary : isLineBoundary c = true) : isBlank c = true := by
  simp only [isLineBoundary, Bool.or_eq_true, Bool.and_eq_true, decide_eq_true_eq,
    beq_iff_eq] at boundary
  simp only [isBlank, Bool.or_eq_true, Bool.and_eq_true, decide_eq_true_eq, beq_iff_eq]
  omega

theorem IsWord.isUnbroken (word : IsWord s) : IsUnbroken s := by
  intro c mem
  by_contra boundary
  rw [Bool.not_eq_false] at boundary
  exact absurd (isBlank_of_isLineBoundary boundary) (by rw [word.2 c mem]; exact Bool.false_ne_true)

theorem IsUnbroken.isOneLine (unbroken : IsUnbroken s) : IsOneLine s := by
  intro c mem
  constructor
  · rintro rfl
    exact absurd (unbroken _ mem) (by decide)
  · rintro rfl
    exact absurd (unbroken _ mem) (by decide)

theorem isUnbroken_nil : IsUnbroken [] := List.forall_mem_nil _

theorem isUnbroken_append : IsUnbroken (s ++ t) ↔ IsUnbroken s ∧ IsUnbroken t :=
  List.forall_mem_append

theorem isOneLine_append : IsOneLine (s ++ t) ↔ IsOneLine s ∧ IsOneLine t :=
  List.forall_mem_append

theorem isUnbroken_written {gap : Nat → List Char} {words : List (List Char)} {last : List Char}
    (areWords : ∀ word ∈ words, IsWord word) (gaps : ∀ n, IsUnbroken (gap n)) :
    IsUnbroken (written gap words last) ↔ IsUnbroken last := by
  induction words generalizing gap with
  | nil => rfl
  | cons word rest ih =>
    obtain ⟨isWord, areWords⟩ := List.forall_mem_cons.mp areWords
    rw [written, isUnbroken_append, isUnbroken_append, ih areWords fun n => gaps (n + 1)]
    constructor
    · intro parts
      exact parts.2
    · intro unbroken
      exact ⟨⟨isWord.isUnbroken, gaps 0⟩, unbroken⟩

theorem isOneLine_written {gap : Nat → List Char} {words : List (List Char)} {last : List Char}
    (areWords : ∀ word ∈ words, IsWord word) (gaps : ∀ n, IsUnbroken (gap n))
    (oneLine : IsOneLine last) : IsOneLine (written gap words last) := by
  induction words generalizing gap with
  | nil => exact oneLine
  | cons word rest ih =>
    obtain ⟨isWord, areWords⟩ := List.forall_mem_cons.mp areWords
    rw [written, isOneLine_append, isOneLine_append]
    exact ⟨⟨isWord.isUnbroken.isOneLine, (gaps 0).isOneLine⟩, ih areWords fun n => gaps (n + 1)⟩

theorem exists_boundary (broken : ¬ IsUnbroken s) :
    ∃ front boundary back, s = front ++ boundary :: back ∧ IsUnbroken front ∧
      isLineBoundary boundary = true := by
  induction s with
  | nil => exact absurd isUnbroken_nil broken
  | cons c rest ih =>
    by_cases boundary : isLineBoundary c = true
    · exact ⟨[], c, rest, rfl, isUnbroken_nil, boundary⟩
    · rw [Bool.not_eq_true] at boundary
      have later : ¬ IsUnbroken rest := by
        intro unbroken
        exact broken (List.forall_mem_cons.mpr ⟨boundary, unbroken⟩)
      obtain ⟨front, first, back, rfl, unbroken, cuts⟩ := ih later
      exact ⟨c :: front, first, back, rfl, List.forall_mem_cons.mpr ⟨boundary, unbroken⟩, cuts⟩

/-- What stands before the first boundary of a text that begins with a character: some of the text,
and the blanks that would be stripped from it. -/
theorem IsTrimmed.exists_boundary (trimmed : IsTrimmed s) (broken : ¬ IsUnbroken s) :
    ∃ kept blanks boundary back, s = kept ++ blanks ++ boundary :: back ∧ IsTrimmed kept ∧
      IsBlanks blanks ∧ IsUnbroken (kept ++ blanks) ∧ isLineBoundary boundary = true := by
  obtain ⟨front, boundary, back, rfl, unbroken, cuts⟩ := Text.exists_boundary broken
  have some : front ≠ [] := by
    rintro rfl
    have first := trimmed.first boundary rfl
    rw [isBlank_of_isLineBoundary cuts] at first
    cases first
  have first : ∀ c ∈ front.head?, isBlank c = false := by
    intro c mem
    refine trimmed.first c ?_
    rw [List.head?_append_of_ne_nil _ some]
    exact mem
  obtain ⟨kept, blanks, rfl, keptTrimmed, areBlanks⟩ := exists_trimmed_front some first
  exact ⟨kept, blanks, boundary, back, rfl, keptTrimmed, areBlanks, unbroken, cuts⟩

theorem unifyNewlines_append (noReturn : '\r' ∉ s) (rest : List Char) :
    unifyNewlines (s ++ rest) = s ++ unifyNewlines rest := by
  induction s with
  | nil => rfl
  | cons c s ih =>
    have other : c ≠ '\r' := by
      rintro rfl
      exact noReturn List.mem_cons_self
    have later := ih fun mem => noReturn (List.mem_cons_of_mem c mem)
    rw [List.cons_append, unifyNewlines, later, if_neg other, List.cons_append]
    intro _ isReturn
    exact absurd isReturn other

theorem unifyNewlines_eq_self (noReturn : '\r' ∉ s) : unifyNewlines s = s := by
  have alone := unifyNewlines_append noReturn []
  rwa [List.append_nil, unifyNewlines, List.append_nil] at alone

theorem splitLines_cons (other : c ≠ '\r') (rest : List Char) :
    splitLines (c :: rest) =
      if isLineBoundary c then [] :: splitLines rest else consFirst c (splitLines rest) := by
  rw [splitLines]
  intro _ isReturn
  exact absurd isReturn other

theorem splitLines_cons_inside (inside : isLineBoundary c = false) (rest : List Char) :
    splitLines (c :: rest) = consFirst c (splitLines rest) := by
  have other : c ≠ '\r' := by
    rintro rfl
    exact absurd inside (by decide)
  rw [splitLines_cons other, if_neg (by rw [inside]; exact Bool.false_ne_true)]

theorem splitLines_boundary (unbroken : IsUnbroken s) (boundary : isLineBoundary c = true)
    (other : c ≠ '\r') (rest : List Char) :
    splitLines (s ++ c :: rest) = s :: splitLines rest := by
  induction s with
  | nil => rw [List.nil_append, splitLines_cons other, if_pos boundary]
  | cons first s ih =>
    obtain ⟨inside, unbroken⟩ := List.forall_mem_cons.mp unbroken
    rw [List.cons_append, splitLines_cons_inside inside, ih unbroken]
    rfl

theorem splitLines_feed (rest : List Char) : splitLines ('\n' :: rest) = [] :: splitLines rest :=
  splitLines_boundary isUnbroken_nil rfl (by decide) rest

theorem splitLines_unbroken (nonempty : s ≠ []) (unbroken : IsUnbroken s) : splitLines s = [s] := by
  induction s with
  | nil => exact absurd rfl nonempty
  | cons c rest ih =>
    obtain ⟨inside, unbroken⟩ := List.forall_mem_cons.mp unbroken
    rw [splitLines_cons_inside inside]
    cases rest with
    | nil => rfl
    | cons next rest => rw [ih (List.cons_ne_nil _ _) unbroken, consFirst]

theorem consFirst_append (c : Char) {lines : List (List Char)} (some : lines ≠ [])
    (more : List (List Char)) : consFirst c (lines ++ more) = consFirst c lines ++ more := by
  cases lines with
  | nil => exact absurd rfl some
  | cons line rest => rfl

theorem consFirst_ne_nil (c : Char) (lines : List (List Char)) : consFirst c lines ≠ [] := by
  cases lines with
  | nil => exact List.cons_ne_nil _ _
  | cons line rest => exact List.cons_ne_nil _ _

theorem splitLines_line_ne_nil (oneLine : IsOneLine line) : splitLines (line ++ ['\n']) ≠ [] := by
  cases line with
  | nil => exact List.cons_ne_nil _ _
  | cons c line =>
    obtain ⟨⟨_, other⟩, _⟩ := List.forall_mem_cons.mp oneLine
    rw [List.cons_append, splitLines_cons other]
    split
    · exact List.cons_ne_nil _ _
    · exact consFirst_ne_nil c _

theorem splitLines_line (oneLine : IsOneLine line) (rest : List Char) :
    splitLines (line ++ '\n' :: rest) = splitLines (line ++ ['\n']) ++ splitLines rest := by
  induction line with
  | nil => exact splitLines_feed rest
  | cons c line ih =>
    obtain ⟨⟨_, other⟩, later⟩ := List.forall_mem_cons.mp oneLine
    rw [List.cons_append, List.cons_append, splitLines_cons other, splitLines_cons other, ih later]
    by_cases boundary : isLineBoundary c = true
    · rw [if_pos boundary, if_pos boundary]
      rfl
    · rw [if_neg boundary, if_neg boundary]
      exact consFirst_append c (splitLines_line_ne_nil later) _

def unlines (lines : List (List Char)) : List Char := lines.flatMap (· ++ ['\n'])

theorem splitLines_unlines {lines : List (List Char)} (oneLine : ∀ line ∈ lines, IsOneLine line) :
    splitLines (unlines lines) = lines.flatMap fun line => splitLines (line ++ ['\n']) := by
  induction lines with
  | nil => rfl
  | cons line rest ih =>
    obtain ⟨first, later⟩ := List.forall_mem_cons.mp oneLine
    rw [unlines, List.flatMap_cons, List.flatMap_cons, List.append_assoc, List.singleton_append,
      splitLines_line first, ← unlines, ih later]

/-- What a program may write after a line. -/
inductive LineEnd where
  | feed
  | returnFeed
  deriving DecidableEq, Repr

def LineEnd.letters : LineEnd → List Char
  | feed => ['\n']
  | returnFeed => ['\r', '\n']

/-- A text that prints these lines, each with an end of its own; a last line that is not empty may
go without one. -/
inductive Prints : List (List Char) → List Char → Prop
  | nothing : Prints [] []
  | ended (line : List Char) (ending : LineEnd) {lines : List (List Char)} {text : List Char} :
    Prints lines text → Prints (line :: lines) (line ++ (ending.letters ++ text))
  | unended (line : List Char) : line ≠ [] → Prints [line] line

theorem unifyNewlines_end (ending : LineEnd) (rest : List Char) :
    unifyNewlines (ending.letters ++ rest) = '\n' :: unifyNewlines rest := by
  cases ending with
  | feed => exact unifyNewlines_append (s := ['\n']) (by decide) rest
  | returnFeed => rfl

/-- Lines that no boundary cuts come back as they are, with whatever ends they were printed. -/
theorem Prints.splitLines_unifyNewlines {lines : List (List Char)} {text : List Char}
    (prints : Prints lines text) (unbroken : ∀ line ∈ lines, IsUnbroken line) :
    splitLines (unifyNewlines text) = lines := by
  have noReturn {line : List Char} (whole : IsUnbroken line) : '\r' ∉ line := by
    intro mem
    exact (whole.isOneLine '\r' mem).2 rfl
  induction prints with
  | nothing => rfl
  | ended line ending _ ih =>
    obtain ⟨whole, later⟩ := List.forall_mem_cons.mp unbroken
    rw [unifyNewlines_append (noReturn whole), unifyNewlines_end,
      splitLines_boundary whole (by decide) (by decide), ih later]
  | unended line nonempty =>
    have whole := unbroken line List.mem_cons_self
    rw [unifyNewlines_eq_self (noReturn whole), splitLines_unbroken nonempty whole]

end HostInventory.Text
