import HostInventory.Config
import HostInventory.Process.Tree
import HostInventory.Proofs.Number.Numeral
import HostInventory.Text.Words

/-!
The command that lists some processes. Their pids stand at its end, in ascending order, with commas
between them. Main statement: cut into words as a shell cuts it, the command ends in a word that
holds exactly the pids.
-/
namespace HostInventory.Text

/-- Outside of quotes the character stands for itself and belongs to a word. -/
def IsPlain (c : Char) : Prop := isShellBlank c = false ∧ c ≠ '\\' ∧ c ≠ '\'' ∧ c ≠ '"'

instance (c : Char) : Decidable (IsPlain c) := inferInstanceAs (Decidable (_ ∧ _))

/-- A word that needs no quotes. -/
def IsPlainWord (word : List Char) : Prop := word ≠ [] ∧ ∀ c ∈ word, IsPlain c

instance (word : List Char) : Decidable (IsPlainWord word) :=
  decidable_of_iff (word.isEmpty = false ∧ word.all (fun c => decide (IsPlain c)) = true)
    (by simp [IsPlainWord])

theorem shellWordsFrom_plain {c : Char} (plain : IsPlain c) (begun : Option (List Char))
    (rest : List Char) :
    shellWordsFrom .bare begun (c :: rest) = shellWordsFrom .bare (growWord begun c) rest := by
  obtain ⟨noBlank, noEscape, noSingle, noDouble⟩ := plain
  rw [shellWordsFrom]
  · simp only [noBlank, Bool.false_eq_true, if_false]
  · exact noEscape
  · exact noSingle
  · exact noDouble

theorem shellWordsFrom_space (begun : Option (List Char)) (rest : List Char) :
    shellWordsFrom .bare begun (' ' :: rest) =
      (shellWordsFrom .bare none rest).map (closeWord begun) := rfl

theorem shellWordsFrom_plain_append {word : List Char} (plain : ∀ c ∈ word, IsPlain c)
    (begun : Option (List Char)) (rest : List Char) :
    shellWordsFrom .bare begun (word ++ rest) =
      shellWordsFrom .bare (word.foldl growWord begun) rest := by
  induction word generalizing begun with
  | nil => rfl
  | cons c word ih =>
    obtain ⟨first, later⟩ := List.forall_mem_cons.mp plain
    rw [List.cons_append, shellWordsFrom_plain first, ih later, List.foldl_cons]

theorem foldl_growWord (word begun : List Char) :
    word.foldl growWord (some begun) = some (word.reverse ++ begun) := by
  induction word generalizing begun with
  | nil => rfl
  | cons c word ih =>
    have grown : growWord (some begun) c = some (c :: begun) := rfl
    rw [List.foldl_cons, grown, ih, List.reverse_cons, List.append_assoc, List.singleton_append]

theorem closeWord_foldl_growWord {word : List Char} (some : word ≠ []) (rest : List (List Char)) :
    closeWord (word.foldl growWord none) rest = word :: rest := by
  cases word with
  | nil => exact absurd rfl some
  | cons c word =>
    have grown : growWord none c = .some [c] := rfl
    rw [List.foldl_cons, grown, foldl_growWord, closeWord, List.reverse_append, List.reverse_reverse,
      List.reverse_singleton, List.singleton_append]

theorem shellWordsFrom_intercalate {words : List (List Char)}
    (plain : ∀ word ∈ words, IsPlainWord word) :
    shellWordsFrom .bare none ([' '].intercalate words) = .ok words := by
  induction words with
  | nil => rfl
  | cons word rest ih =>
    obtain ⟨⟨some, plainWord⟩, plainRest⟩ := List.forall_mem_cons.mp plain
    cases rest with
    | nil =>
      have ends := shellWordsFrom_plain_append plainWord none []
      rw [List.append_nil] at ends
      rw [List.intercalate_singleton, ends, shellWordsFrom, closeWord_foldl_growWord some]
    | cons next rest =>
      rw [List.intercalate_cons_cons, List.append_assoc, shellWordsFrom_plain_append plainWord,
        List.singleton_append, shellWordsFrom_space, ih plainRest, Except.map,
        closeWord_foldl_growWord some]

theorem shellWords_intercalate {words : List String}
    (plain : ∀ word ∈ words, IsPlainWord word.toList) :
    shellWords (" ".intercalate words) = .ok words := by
  have plainLists : ∀ word ∈ words.map String.toList, IsPlainWord word := by
    intro word mem
    obtain ⟨text, listed, rfl⟩ := List.mem_map.mp mem
    exact plain text listed
  have space : " ".toList = [' '] := rfl
  rw [shellWords, String.toList_intercalate, space, shellWordsFrom_intercalate plainLists, Except.map,
    List.map_map, Function.comp_def]
  simp only [String.ofList_toList, List.map_id']

end HostInventory.Text

namespace HostInventory

open Text (IsPlain IsPlainWord shellWords)

theorem Text.intercalate_cons (sep first : List Char) (rest : List (List Char)) :
    sep.intercalate (first :: rest) = first ++ rest.flatMap (sep ++ ·) := by
  induction rest generalizing first with
  | nil => rw [List.intercalate_singleton, List.flatMap_nil, List.append_nil]
  | cons next rest ih =>
    rw [List.intercalate_cons_cons, ih next, List.flatMap_cons, List.append_assoc, List.append_assoc]

namespace Numeral

theorem mem_text {n : Int} {c : Char} (mem : c ∈ (text n).toList) :
    c = '-' ∨ ∃ d < 10, c = Nat.digitChar d := by
  obtain ⟨digits, shown, areDigits, _⟩ := exists_digits n.natAbs
  rw [toList_text, shown] at mem
  rcases List.mem_append.mp mem with sign | digit
  · left
    split at sign
    · exact List.mem_singleton.mp sign
    · exact absurd sign List.not_mem_nil
  · right
    obtain ⟨d, known, rfl⟩ := List.mem_map.mp digit
    exact ⟨d, areDigits d known, rfl⟩

theorem isPlain_of_mem_text {n : Int} {c : Char} (mem : c ∈ (text n).toList) :
    IsPlain c ∧ c ≠ ',' := by
  have digits : ∀ d < 10, IsPlain (Nat.digitChar d) ∧ Nat.digitChar d ≠ ',' := by decide
  rcases mem_text mem with rfl | ⟨d, small, rfl⟩
  · decide
  · exact digits d small

end Numeral

namespace PidSet

variable {pids : PidSet}

theorem toList_eq_nil_iff : pids.toList = [] ↔ pids = .empty := by
  constructor
  · intro none
    refine ext fun pid => ?_
    rw [mem_def, none]
    exact iff_of_false List.not_mem_nil (not_mem_empty pid)
  · rintro rfl
    rfl

/-- The texts of the pids, in ascending order, with commas between them. -/
def text (pids : PidSet) : String := ",".intercalate (pids.toList.map Numeral.text)

theorem toList_text (pids : PidSet) :
    pids.text.toList = [','].intercalate (pids.toList.map fun pid => (Numeral.text pid).toList) := by
  have comma : ",".toList = [','] := rfl
  rw [text, String.toList_intercalate, comma, List.map_map]
  rfl

theorem toList_text_eq_nil_iff : pids.text.toList = [] ↔ pids = .empty := by
  rw [toList_text, ← toList_eq_nil_iff]
  cases pids.toList with
  | nil => exact iff_of_true rfl rfl
  | cons pid rest =>
    refine iff_of_false (fun none => ?_) (List.cons_ne_nil pid rest)
    rw [List.map_cons, Text.intercalate_cons] at none
    exact (Numeral.isWord_text pid).1 (List.append_eq_nil_iff.mp none).1

theorem isPlain_of_mem_text {c : Char} (mem : c ∈ pids.text.toList) : IsPlain c := by
  rw [toList_text] at mem
  generalize pids.toList = members at mem
  cases members with
  | nil => exact absurd mem List.not_mem_nil
  | cons pid rest =>
    rw [List.map_cons, Text.intercalate_cons] at mem
    rcases List.mem_append.mp mem with first | later
    · exact (Numeral.isPlain_of_mem_text first).1
    · obtain ⟨_, listed, inside⟩ := List.mem_flatMap.mp later
      obtain ⟨next, _, rfl⟩ := List.mem_map.mp listed
      rcases List.mem_cons.mp inside with rfl | digit
      · decide
      · exact (Numeral.isPlain_of_mem_text digit).1

theorem isPlainWord_text (nonempty : pids ≠ .empty) : IsPlainWord pids.text.toList :=
  ⟨mt toList_text_eq_nil_iff.mp nonempty, fun _ mem => isPlain_of_mem_text mem⟩

theorem splitOn_text (nonempty : pids ≠ .empty) (short : ∀ pid ∈ pids, Numeral.IsShort pid) :
    (pids.text.toList.splitOn ',').map Numeral.integer? = pids.toList.map some := by
  have apart : ∀ text ∈ pids.toList.map fun pid => (Numeral.text pid).toList, ',' ∉ text := by
    intro text mem comma
    obtain ⟨pid, _, rfl⟩ := List.mem_map.mp mem
    exact (Numeral.isPlain_of_mem_text comma).2 rfl
  have some : (pids.toList.map fun pid => (Numeral.text pid).toList) ≠ [] :=
    mt List.map_eq_nil_iff.mp (mt toList_eq_nil_iff.mp nonempty)
  rw [toList_text, List.splitOn_intercalate ',' apart some, List.map_map]
  apply List.map_congr_left
  intro pid mem
  exact Numeral.integer?_text (short pid mem)

end PidSet

namespace ProcessLister

variable {config : Config} {pids : PidSet}

def pidsCommand (config : Config) (pids : PidSet) : String := config.somePidsCommand ++ pids.text

theorem pidsCommand_ne_allProcessesCommand :
    pidsCommand config pids ≠ config.allProcessesCommand := by
  intro same
  have letters := congrArg String.toList same
  simp [pidsCommand, Config.somePidsCommand, Config.allProcessesCommand] at letters

theorem shellWords_pidsCommand (plain : IsPlainWord config.columns.toList)
    (nonempty : pids ≠ .empty) :
    shellWords (pidsCommand config pids) = .ok ["ps", "-o", config.columns, "-p", pids.text] := by
  have spaced : pidsCommand config pids =
      " ".intercalate ["ps", "-o", config.columns, "-p", pids.text] := by
    have opening : "ps -o " = "ps" ++ " " ++ "-o" ++ " " := by decide
    have option : " -p " = " " ++ "-p" ++ " " := by decide
    simp only [String.intercalate_cons_cons, String.intercalate_singleton, pidsCommand,
      Config.somePidsCommand, opening, option, ← String.append_assoc]
  have program : IsPlainWord "ps".toList ∧ IsPlainWord "-o".toList ∧ IsPlainWord "-p".toList := by
    decide
  rw [spaced]
  apply Text.shellWords_intercalate
  simp only [List.forall_mem_cons]
  exact ⟨program.1, program.2.1, plain, program.2.2, PidSet.isPlainWord_text nonempty, nofun⟩

/-- Under the usual configuration the last of five words holds exactly the pids. -/
structure SpellsOut (pids : PidSet) : Prop where
  words : shellWords (pidsCommand {} pids) = .ok ["ps", "-o", ({} : Config).columns, "-p", pids.text]
  decoded : (pids.text.toList.splitOn ',').map Numeral.integer? = pids.toList.map some

theorem spellsOut (nonempty : pids ≠ .empty) (short : ∀ pid ∈ pids, Numeral.IsShort pid) :
    SpellsOut pids where
  words := shellWords_pidsCommand (by decide +kernel) nonempty
  decoded := PidSet.splitOn_text nonempty short

example : pidsCommand { columns := "pid" } (.ofList [12, -3, 12, 7]) = "ps -o pid -p -3,7,12" := by
  decide

end ProcessLister

end HostInventory
