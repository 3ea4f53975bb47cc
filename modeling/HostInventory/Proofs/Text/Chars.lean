import HostInventory.Text.Chars
import Mathlib.Data.List.DropRight

/-!
Rows written from words with blanks between them, and the digits of every script. Main statement:
cutting such a row gives the words back, and the piece after the last cut may be any text that
neither begins nor ends in a blank.
-/
namespace HostInventory.Text

variable {c : Char} {s t word gap : List Char}

def IsBlanks (s : List Char) : Prop := ∀ c ∈ s, isBlank c = true

/-- A text that can stand in a column: one character at least, and no blanks. -/
def IsWord (s : List Char) : Prop := s ≠ [] ∧ ∀ c ∈ s, isBlank c = false

/-- A text that stripping leaves as it is: it is not empty, and blanks are only inside. -/
structure IsTrimmed (s : List Char) : Prop where
  nonempty : s ≠ []
  first : ∀ c ∈ s.head?, isBlank c = false
  last : ∀ c ∈ s.getLast?, isBlank c = false

theorem isTrimmed_iff :
    IsTrimmed s ↔
      s ≠ [] ∧ (∀ c ∈ s.head?, isBlank c = false) ∧ ∀ c ∈ s.getLast?, isBlank c = false :=
  ⟨fun ⟨nonempty, first, last⟩ => ⟨nonempty, first, last⟩,
    fun ⟨nonempty, first, last⟩ => ⟨nonempty, first, last⟩⟩

instance (s : List Char) : Decidable (IsBlanks s) :=
  decidable_of_iff (s.all isBlank = true) List.all_eq_true

instance (s : List Char) : Decidable (IsWord s) :=
  decidable_of_iff (s.isEmpty = false ∧ s.all (!isBlank ·) = true) (by simp [IsWord])

instance (s : List Char) : Decidable (IsTrimmed s) :=
  decidable_of_iff (s.isEmpty = false ∧ s.head?.all (!isBlank ·) = true ∧
      s.getLast?.all (!isBlank ·) = true)
    (by simp [isTrimmed_iff, Option.all_eq_true])

theorem isBlanks_nil : IsBlanks [] := fun _ mem => (by cases mem)

theorem isBlanks_space : IsBlanks [' '] := by
  decide

theorem IsWord.isTrimmed (word : IsWord s) : IsTrimmed s where
  nonempty := word.1
  first c mem := word.2 c (List.mem_of_mem_head? mem)
  last c mem := word.2 c (List.mem_of_mem_getLast? mem)

theorem dropWhile_blanks_append (blanks : IsBlanks gap) :
    (gap ++ s).dropWhile isBlank = s.dropWhile isBlank := by
  rw [List.dropWhile_append, List.dropWhile_eq_nil_iff.2 blanks]
  rfl

theorem IsTrimmed.dropWhile (trimmed : IsTrimmed s) : s.dropWhile isBlank = s := by
  cases s with
  | nil => rfl
  | cons c rest => exact List.dropWhile_cons_of_neg (by simp [trimmed.first c rfl])

theorem dropTrailing_append_blanks (blanks : IsBlanks gap) :
    dropTrailing isBlank (s ++ gap) = dropTrailing isBlank s := by
  rw [dropTrailing, List.reverse_append,
    dropWhile_blanks_append fun c mem => blanks c (List.mem_reverse.1 mem)]
  rfl

theorem dropTrailing_eq_self (last : ∀ c ∈ s.getLast?, isBlank c = false) :
    dropTrailing isBlank s = s := by
  have kept : s.reverse.dropWhile isBlank = s.reverse := by
    cases reversed : s.reverse with
    | nil => rfl
    | cons c rest =>
      have same : s.getLast? = some c := by rw [List.getLast?_eq_head?_reverse, reversed]; rfl
      exact List.dropWhile_cons_of_neg (by simp [last c same])
  rw [dropTrailing, kept, List.reverse_reverse]

theorem IsTrimmed.dropTrailing (trimmed : IsTrimmed s) : dropTrailing isBlank s = s :=
  dropTrailing_eq_self trimmed.last

theorem IsTrimmed.stripChars (trimmed : IsTrimmed s) : stripChars s = s := by
  rw [Text.stripChars, trimmed.dropWhile, trimmed.dropTrailing]

theorem stripChars_around {before after : List Char} (trimmed : IsTrimmed s)
    (front : IsBlanks before) (back : IsBlanks after) :
    stripChars (before ++ s ++ after) = s := by
  rw [stripChars, List.append_assoc, dropWhile_blanks_append front]
  have kept : (s ++ after).dropWhile isBlank = s ++ after := by
    rw [List.dropWhile_append, trimmed.dropWhile]
    simp [trimmed.nonempty]
  rw [kept, dropTrailing_append_blanks back, trimmed.dropTrailing]

theorem exists_stripChars (s : List Char) :
    ∃ before after, IsBlanks before ∧ IsBlanks after ∧ s = before ++ stripChars s ++ after := by
  refine ⟨s.takeWhile isBlank, (s.dropWhile isBlank).rtakeWhile isBlank, ?_, ?_, ?_⟩
  · intro c mem
    exact List.mem_takeWhile_imp mem
  · intro c mem
    exact List.mem_rtakeWhile_imp mem
  · have back : stripChars s ++ (s.dropWhile isBlank).rtakeWhile isBlank = s.dropWhile isBlank :=
      List.rdropWhile_append_rtakeWhile
    rw [List.append_assoc, back, List.takeWhile_append_dropWhile]

/-- A text that begins with a character, without the blanks at its end. -/
theorem exists_trimmed_front (nonempty : s ≠ []) (first : ∀ c ∈ s.head?, isBlank c = false) :
    ∃ kept blanks, s = kept ++ blanks ∧ IsTrimmed kept ∧ IsBlanks blanks := by
  have parts : s = s.rdropWhile isBlank ++ s.rtakeWhile isBlank :=
    List.rdropWhile_append_rtakeWhile.symm
  have some : s.rdropWhile isBlank ≠ [] := by
    intro none
    obtain ⟨c, rest, rfl⟩ := List.exists_cons_of_ne_nil nonempty
    have blank := List.rdropWhile_eq_nil_iff.mp none c List.mem_cons_self
    rw [first c rfl] at blank
    cases blank
  refine ⟨s.rdropWhile isBlank, s.rtakeWhile isBlank, parts, ⟨some, ?_, ?_⟩, ?_⟩
  · intro c mem
    refine first c ?_
    rw [parts, List.head?_append_of_ne_nil _ some]
    exact mem
  · intro c mem
    rw [List.getLast?_eq_some_getLast some] at mem
    obtain rfl := Option.some.inj mem
    exact Bool.not_eq_true _ ▸ List.rdropWhile_last_not isBlank s some
  · exact fun c mem => List.mem_rtakeWhile_imp mem

theorem isBlank_head_dropWhile (s : List Char) :
    ∀ c ∈ (s.dropWhile isBlank).head?, isBlank c = false := by
  intro c mem
  have dropped := List.head?_dropWhile_not isBlank s
  rw [Option.mem_def.mp mem] at dropped
  simpa using dropped

theorem stripChars_cases (s : List Char) : stripChars s = [] ∨ IsTrimmed (stripChars s) := by
  have first := isBlank_head_dropWhile s
  by_cases nothing : s.dropWhile isBlank = []
  · exact .inl (by rw [stripChars, nothing]; rfl)
  · obtain ⟨kept, blanks, parts, trimmed, areBlanks⟩ := exists_trimmed_front nothing first
    have same : stripChars s = kept := by
      rw [stripChars, parts, dropTrailing_append_blanks areBlanks, trimmed.dropTrailing]
    exact .inr (same ▸ trimmed)

theorem stripChars_stripChars (s : List Char) : stripChars (stripChars s) = stripChars s := by
  rcases stripChars_cases s with nothing | trimmed
  · rw [nothing]
    rfl
  · exact trimmed.stripChars

theorem toList_strip (s : String) : (strip s).toList = stripChars s.toList := String.toList_ofList

theorem splitWords_blanks_append (cuts : Nat) (blanks : IsBlanks gap) :
    splitWords cuts (gap ++ s) = splitWords cuts s := by
  cases cuts with
  | zero => rw [splitWords, splitWords, dropWhile_blanks_append blanks]
  | succ cuts => rw [splitWords, splitWords, dropWhile_blanks_append blanks]

theorem splitWords_zero (trimmed : IsTrimmed s) : splitWords 0 s = [s] := by
  rw [splitWords, trimmed.dropWhile]
  cases s with
  | nil => exact absurd rfl trimmed.nonempty
  | cons c rest => rfl

/-- A run of characters ends where another stands, or where the text does. -/
theorem takeWhile_append_stop {p : Char → Bool} (all : ∀ c ∈ t, p c = true)
    (stops : ∀ c ∈ s.head?, p c = false) :
    (t ++ s).takeWhile p = t ∧ (t ++ s).dropWhile p = s := by
  have none : s.takeWhile p = [] ∧ s.dropWhile p = s := by
    cases s with
    | nil => exact ⟨rfl, rfl⟩
    | cons c rest => simp [stops c rfl]
  rw [List.takeWhile_append_of_pos all, List.dropWhile_append_of_pos all, none.1, none.2]
  exact ⟨List.append_nil t, rfl⟩

theorem takeWhile_word_append (letters : ∀ c ∈ word, isBlank c = false)
    (stops : ∀ c ∈ s.head?, isBlank c = true) :
    (word ++ s).takeWhile (!isBlank ·) = word ∧ (word ++ s).dropWhile (!isBlank ·) = s :=
  takeWhile_append_stop (fun c mem => by simp [letters c mem]) fun c mem => by simp [stops c mem]

theorem splitWords_append (cuts : Nat) (isWord : IsWord word)
    (stops : ∀ c ∈ s.head?, isBlank c = true) :
    splitWords (cuts + 1) (word ++ s) = word :: splitWords cuts s := by
  obtain ⟨nonempty, letters⟩ := isWord
  cases word with
  | nil => exact absurd rfl nonempty
  | cons c word =>
    obtain ⟨first, letters⟩ := List.forall_mem_cons.1 letters
    have start : (c :: word ++ s).dropWhile isBlank = c :: (word ++ s) := by
      simp [first]
    rw [splitWords, start]
    simp only [takeWhile_word_append letters stops]

theorem splitWords_succ (cuts : Nat) (isWord : IsWord word) (some : gap ≠ [])
    (blanks : IsBlanks gap) :
    splitWords (cuts + 1) (word ++ gap ++ s) = word :: splitWords cuts s := by
  obtain ⟨b, gap, rfl⟩ := List.exists_cons_of_ne_nil some
  have stops : ∀ d ∈ (b :: gap ++ s).head?, isBlank d = true := by
    rintro d ⟨⟩
    exact blanks b List.mem_cons_self
  rw [List.append_assoc, splitWords_append cuts isWord stops, splitWords_blanks_append cuts blanks]

theorem words_blanks_append (blanks : IsBlanks gap) : words (gap ++ s) = words s := by
  rw [words, words, dropWhile_blanks_append blanks]

theorem words_blanks (blanks : IsBlanks gap) : words gap = [] := by
  have none : gap.dropWhile isBlank = [] := List.dropWhile_eq_nil_iff.2 blanks
  rw [words, none]

theorem words_append (isWord : IsWord word) (stops : ∀ c ∈ s.head?, isBlank c = true) :
    words (word ++ s) = word :: words s := by
  obtain ⟨nonempty, letters⟩ := isWord
  cases word with
  | nil => exact absurd rfl nonempty
  | cons c word =>
    obtain ⟨first, letters⟩ := List.forall_mem_cons.1 letters
    have start : (c :: word ++ s).dropWhile isBlank = c :: (word ++ s) := by
      simp [first]
    rw [words, start]
    simp only [takeWhile_word_append letters stops]

theorem words_append_blanks (isWord : IsWord word) (blanks : gap ≠ [] ∧ IsBlanks gap) :
    words (word ++ (gap ++ s)) = word :: words s := by
  obtain ⟨b, gap, rfl⟩ := List.exists_cons_of_ne_nil blanks.1
  have stops : ∀ c ∈ (b :: gap ++ s).head?, isBlank c = true := by
    rintro c ⟨⟩
    exact blanks.2 b List.mem_cons_self
  rw [words_append isWord stops, words_blanks_append blanks.2]

def written (gap : Nat → List Char) : List (List Char) → List Char → List Char
  | [], last => last
  | word :: rest, last => word ++ gap 0 ++ written (fun n => gap (n + 1)) rest last

theorem written_append (gap : Nat → List Char) (words : List (List Char)) (last more : List Char) :
    written gap words (last ++ more) = written gap words last ++ more := by
  induction words generalizing gap with
  | nil => rfl
  | cons word rest ih => rw [written, written, ih, ← List.append_assoc]

theorem splitWords_written {gap : Nat → List Char} {words : List (List Char)} {last : List Char}
    (areWords : ∀ word ∈ words, IsWord word) (trimmed : IsTrimmed last)
    (blanks : ∀ n, gap n ≠ [] ∧ IsBlanks (gap n)) :
    splitWords words.length (written gap words last) = words ++ [last] := by
  induction words generalizing gap with
  | nil => exact splitWords_zero trimmed
  | cons word rest ih =>
    obtain ⟨isWord, areWords⟩ := List.forall_mem_cons.1 areWords
    have later := ih areWords fun n => blanks (n + 1)
    rw [written, List.length_cons, splitWords_succ _ isWord (blanks 0).1 (blanks 0).2, later]
    rfl

theorem isTrimmed_written {gap : Nat → List Char} {words : List (List Char)} {last : List Char}
    (areWords : ∀ word ∈ words, IsWord word) (trimmed : IsTrimmed last) :
    IsTrimmed (written gap words last) := by
  induction words generalizing gap with
  | nil => exact trimmed
  | cons word rest ih =>
    obtain ⟨isWord, areWords⟩ := List.forall_mem_cons.1 areWords
    have later : IsTrimmed (written (fun n => gap (n + 1)) rest last) := ih areWords
    have ends := List.getLast?_append_of_ne_nil (word ++ gap 0) later.nonempty
    refine ⟨?_, ?_, ?_⟩
    · simp [written, isWord.1]
    · rw [written, List.append_assoc, List.head?_append_of_ne_nil _ isWord.1]
      exact isWord.isTrimmed.first
    · rw [written, ends]
      exact later.last

end HostInventory.Text

namespace HostInventory.Text

variable {c : Char} {d : Nat}

theorem digit?_eq_some (read : digit? c = some d) :
    ∃ start ∈ digitZeros, c.toNat = start + d ∧ d < 10 := by
  obtain ⟨start, found, rfl⟩ := Option.map_eq_some_iff.mp read
  have inside := List.find?_some found
  simp only [Bool.and_eq_true, decide_eq_true_eq] at inside
  refine ⟨start, List.mem_of_find?_eq_some found, ?_, ?_⟩
  · omega
  · omega

theorem isDigit_iff : isDigit c = true ↔ ∃ d, digit? c = some d := Option.isSome_iff_exists

theorem isBlank_of_row :
    ∀ start ∈ digitZeros, ∀ d < 10, isBlank (Char.ofNat (start + d)) = false := by
  decide +kernel

theorem isBlank_of_isDigit (digit : isDigit c = true) : isBlank c = false := by
  obtain ⟨d, read⟩ := isDigit_iff.mp digit
  obtain ⟨start, row, code, small⟩ := digit?_eq_some read
  have same := isBlank_of_row start row d small
  rw [← code, Char.ofNat_toNat] at same
  exact same

theorem isWord_of_digits {s : List Char} (some : s ≠ []) (areDigits : ∀ c ∈ s, isDigit c = true) :
    IsWord s := by
  refine ⟨some, ?_⟩
  intro c mem
  exact isBlank_of_isDigit (areDigits c mem)

end HostInventory.Text
