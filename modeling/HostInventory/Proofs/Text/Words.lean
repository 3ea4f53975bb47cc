import HostInventory.Proofs.Text.Chars
import HostInventory.Text.Words

/-!
The words of a text, and cutting a text with a limit. Main statement: a limited number of cuts takes
off as many words, and what is left in one piece has the words that remain; where there are too few
words for that, all words are cut off. A row has so many columns exactly if it has as many words.
-/
namespace HostInventory.Text

variable {s gap : List Char} {tokens first : List (List Char)} {last : List Char} {cuts : Nat}

/-- The words of a text, in order: runs of characters that are not blank, none of which could be
longer. -/
inductive HasWords : List Char → List (List Char) → Prop where
  | none {gap : List Char} (blanks : IsBlanks gap) : HasWords gap []
  | next {gap word rest : List Char} {later : List (List Char)} (blanks : IsBlanks gap)
      (isWord : IsWord word) (stops : ∀ c ∈ rest.head?, isBlank c = true)
      (others : HasWords rest later) : HasWords (gap ++ (word ++ rest)) (word :: later)

theorem isBlank_head_dropWhile_not (s : List Char) :
    ∀ c ∈ (s.dropWhile (!isBlank ·)).head?, isBlank c = true := by
  intro c mem
  have dropped := List.head?_dropWhile_not (!isBlank ·) s
  rw [Option.mem_def.mp mem] at dropped
  simpa using dropped

theorem hasWords_words (s : List Char) : HasWords s (words s) := by
  fun_induction words s with
  | case1 s nothing => exact .none (List.dropWhile_eq_nil_iff.mp nothing)
  | case2 s c rest start ih =>
    have front : IsBlanks (s.takeWhile isBlank) := fun _ mem => List.mem_takeWhile_imp mem
    have first : isBlank c = false := isBlank_head_dropWhile s c (by rw [start]; rfl)
    have isWord : IsWord (c :: rest.takeWhile (!isBlank ·)) := by
      refine ⟨List.cons_ne_nil _ _, List.forall_mem_cons.mpr ⟨first, ?_⟩⟩
      intro d mem
      simpa using List.mem_takeWhile_imp mem
    have parts : s.takeWhile isBlank ++
        (c :: rest.takeWhile (!isBlank ·) ++ rest.dropWhile (!isBlank ·)) = s := by
      rw [List.cons_append, List.takeWhile_append_dropWhile, ← start,
        List.takeWhile_append_dropWhile]
    have has := HasWords.next front isWord (isBlank_head_dropWhile_not rest) ih
    rwa [parts] at has

theorem HasWords.words_eq (has : HasWords s tokens) : words s = tokens := by
  induction has with
  | none blanks => exact words_blanks blanks
  | next blanks isWord stops _ ih =>
    rw [words_blanks_append blanks, words_append isWord stops, ih]

/-- Every text has its words, and no others. -/
theorem hasWords_iff : HasWords s tokens ↔ tokens = words s :=
  ⟨fun has => has.words_eq.symm, fun same => same ▸ hasWords_words s⟩

theorem HasWords.isWord (has : HasWords s tokens) : ∀ word ∈ tokens, IsWord word := by
  induction has with
  | none => exact nofun
  | next _ isWord _ _ ih => exact List.forall_mem_cons.mpr ⟨isWord, ih⟩

theorem HasWords.isBlanks (has : HasWords s []) : IsBlanks s := by
  cases has with
  | none blanks => exact blanks

theorem words_eq_nil_iff (s : List Char) : words s = [] ↔ IsBlanks s := by
  constructor
  · intro none
    exact (hasWords_iff.mpr none.symm).isBlanks
  · exact words_blanks

theorem HasWords.append_trailing (has : HasWords s tokens) (back : IsBlanks gap) :
    HasWords (s ++ gap) tokens := by
  induction has with
  | none blanks => exact .none (List.forall_mem_append.mpr ⟨blanks, back⟩)
  | @next front word rest later blanks isWord stops _ ih =>
    have ends : ∀ c ∈ (rest ++ gap).head?, isBlank c = true := by
      cases rest with
      | nil => exact fun c mem => back c (List.mem_of_mem_head? mem)
      | cons d rest => exact stops
    rw [List.append_assoc, List.append_assoc]
    exact .next blanks isWord ends ih

theorem words_stripChars (s : List Char) : words (stripChars s) = words s := by
  obtain ⟨before, after, front, back, parts⟩ := exists_stripChars s
  have kept := ((hasWords_words (stripChars s)).append_trailing back).words_eq
  conv_rhs => rw [parts, List.append_assoc, words_blanks_append front, kept]

theorem hasWords_stripChars_iff : HasWords (stripChars s) tokens ↔ HasWords s tokens := by
  rw [hasWords_iff, hasWords_iff, words_stripChars]

/-- A text cut in two, right before a word: some words stand in front of it, it and the others
behind. -/
structure IsCut (s : List Char) (tokens : List (List Char)) (cuts : Nat) (front last : List Char) :
    Prop where
  text : s = front ++ last
  before : ∀ c ∈ front.getLast?, isBlank c = true
  behind : ∀ c ∈ last.head?, isBlank c = false
  taken : HasWords front (tokens.take cuts)
  left : HasWords last (tokens.drop cuts)

namespace IsCut

variable {front : List Char}

theorem last_ne_nil (cut : IsCut s tokens cuts front last) (enough : cuts < tokens.length) :
    last ≠ [] := by
  rintro rfl
  have none := cut.left.words_eq
  rw [words_blanks isBlanks_nil] at none
  exact absurd (List.drop_eq_nil_iff.mp none.symm) (Nat.not_le.mpr enough)

/-- Before a text that begins with a blank no cut is made. -/
theorem front_ne_nil (cut : IsCut s tokens cuts front last) (enough : cuts < tokens.length)
    (stops : ∀ c ∈ s.head?, isBlank c = true) : front ≠ [] := by
  rintro rfl
  obtain ⟨c, rest, rfl⟩ := List.exists_cons_of_ne_nil (cut.last_ne_nil enough)
  have letter := cut.behind c rfl
  rw [stops c (by rw [cut.text]; rfl)] at letter
  cases letter

/-- What is cut off from a stripped text begins with a word, and it ends where the text does. -/
theorem isTrimmed (cut : IsCut (stripChars s) tokens cuts front last)
    (enough : cuts < tokens.length) : IsTrimmed last := by
  have some := cut.last_ne_nil enough
  refine ⟨some, cut.behind, ?_⟩
  rcases stripChars_cases s with nothing | trimmed
  · have none := cut.text
    rw [nothing] at none
    exact absurd (List.append_eq_nil_iff.mp none.symm).2 some
  · have ends := trimmed.last
    rwa [cut.text, List.getLast?_append_of_ne_nil _ some] at ends

end IsCut

/-- What is left after some cuts begins where the first word that was not cut off does. -/
theorem HasWords.exists_cut (has : HasWords s tokens) (enough : cuts < tokens.length) :
    ∃ front last, IsCut s tokens cuts front last ∧
      splitWords cuts s = tokens.take cuts ++ [last] := by
  -- By the words: each cut takes off the first of them, with the blanks before it.
  induction has generalizing cuts with
  | none => cases enough
  | @next gap word rest later blanks isWord stops others ih =>
    have first : ∀ c ∈ (word ++ rest).head?, isBlank c = false := by
      rw [List.head?_append_of_ne_nil _ isWord.1]
      exact isWord.isTrimmed.first
    cases cuts with
    | zero =>
      obtain ⟨c, letters, start⟩ := List.exists_cons_of_ne_nil
        (List.append_ne_nil_of_left_ne_nil isWord.1 rest)
      have kept : (word ++ rest).dropWhile isBlank = c :: letters := by
        rw [start, List.dropWhile_cons_of_neg]
        simp [first c (by rw [start]; rfl)]
      refine ⟨gap, word ++ rest, ⟨rfl, ?_, first, .none blanks, ?_⟩, ?_⟩
      · exact fun d mem => blanks d (List.mem_of_mem_getLast? mem)
      · exact .next isBlanks_nil isWord stops others
      · rw [splitWords_blanks_append 0 blanks, splitWords, kept, start]
        rfl
    | succ cuts =>
      have enough := Nat.lt_of_succ_lt_succ enough
      obtain ⟨front, last, cut, split⟩ := ih enough
      have some := cut.front_ne_nil enough stops
      have head : rest.head? = front.head? := by
        rw [cut.text, List.head?_append_of_ne_nil _ some]
      refine ⟨gap ++ (word ++ front), last, ⟨?_, ?_, cut.behind, ?_, cut.left⟩, ?_⟩
      · rw [cut.text, List.append_assoc, List.append_assoc]
      · rw [← List.append_assoc, List.getLast?_append_of_ne_nil _ some]
        exact cut.before
      · exact .next blanks isWord (head ▸ stops) cut.taken
      · rw [splitWords_blanks_append _ blanks, splitWords_append cuts isWord stops, split]
        rfl

theorem HasWords.splitWords_of_few (has : HasWords s tokens) (few : tokens.length ≤ cuts) :
    splitWords cuts s = tokens := by
  induction has generalizing cuts with
  | none blanks =>
    have nothing := List.dropWhile_eq_nil_iff.mpr blanks
    cases cuts with
    | zero => rw [splitWords, nothing]
    | succ cuts => rw [splitWords, nothing]
  | next blanks isWord stops _ ih =>
    cases cuts with
    | zero => cases few
    | succ cuts =>
      rw [splitWords_blanks_append _ blanks, splitWords_append cuts isWord stops,
        ih (Nat.le_of_succ_le_succ few)]

variable {row : String} {count : Nat}

theorem pieces_of_pos (some : 0 < count) (s : List Char) :
    pieces s count = splitWords (count - 1) (stripChars s) := by
  have same : ((count : Int) - 1).toNat = count - 1 := by omega
  rw [pieces, if_pos (by omega), same]

theorem fields?_of_split (split : splitWords (count - 1) (stripChars row.toList) = first ++ [last])
    (length : first.length + 1 = count) :
    fields? row count = some ((first ++ [last]).map String.ofList) := by
  rw [fields?, pieces_of_pos (by omega), split, if_pos]
  rw [List.length_map, List.length_append, List.length_singleton, length]

theorem exists_fields? (has : HasWords row.toList tokens) (some : 0 < count)
    (enough : count ≤ tokens.length) :
    ∃ front last, IsCut (stripChars row.toList) tokens (count - 1) front last ∧
      fields? row count = .some ((tokens.take (count - 1) ++ [last]).map String.ofList) := by
  have length : (tokens.take (count - 1)).length + 1 = count := by
    rw [List.length_take]
    omega
  obtain ⟨front, last, cut, split⟩ :=
    (hasWords_stripChars_iff.mpr has).exists_cut (show count - 1 < tokens.length by omega)
  exact ⟨front, last, cut, fields?_of_split split length⟩

theorem fields?_of_few (has : HasWords row.toList tokens) (few : tokens.length < count) :
    fields? row count = none := by
  have all := (hasWords_stripChars_iff.mpr has).splitWords_of_few (Nat.le_pred_of_lt few)
  rw [fields?, pieces_of_pos (by omega), ← Nat.pred_eq_sub_one, all, if_neg]
  rw [List.length_map]
  omega

/-- Columns with blanks between and around them are cut where they were joined. -/
theorem fields?_written {before after : List Char} {gap : Nat → List Char}
    (front : IsBlanks before) (back : IsBlanks after) (blanks : ∀ n, gap n ≠ [] ∧ IsBlanks (gap n))
    (areWords : ∀ word ∈ first, IsWord word) (trimmed : IsTrimmed last)
    (length : first.length + 1 = count) :
    fields? (String.ofList (before ++ written gap first last ++ after)) count =
      some ((first ++ [last]).map String.ofList) := by
  have cuts : count - 1 = first.length := by omega
  refine fields?_of_split ?_ length
  rw [String.toList_ofList, stripChars_around (isTrimmed_written areWords trimmed) front back, cuts,
    splitWords_written areWords trimmed blanks]

end HostInventory.Text
