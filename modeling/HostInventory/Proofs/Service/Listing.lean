import HostInventory.Proofs.Number.Numeral
import HostInventory.Service.Inventory
import Mathlib.Data.List.Infix

/-!
Service listings written from entries of four kinds, and the order in which the legacy scripts are
named. Main statements: reading the lines gives what the entries stand for, in their order, whatever
texts and blanks the lines are filled up with; the order of the names makes no difference to any
inventory exactly if no name ends in another one.
-/
namespace HostInventory.ServiceListing

open Text

/-- What stands before the path of a service. -/
def mark : List Char := [':', '/']

/-- The line of a service: some text after the state, a mark, the path, which may have the usual
suffix, and blanks. -/
structure OnlineLine where
  middle : List Char
  path : List Char
  hasSuffix : Bool
  after : List Char
  path_unmarked : ¬ mark <:+: path
  path_end : ∀ c ∈ path.getLast?, isBlank c = false
  path_bare : hasSuffix = false → ¬ defaultSuffix <:+ path
  after_blank : IsBlanks after

namespace OnlineLine

def name (line : OnlineLine) : List Char := line.path ++ if line.hasSuffix then defaultSuffix else []

def letters (line : OnlineLine) : List Char :=
  "online".toList ++ (line.middle ++ (mark ++ (line.name ++ line.after)))

end OnlineLine

/-- The line of a process: indented, with a time, a pid and a name. -/
structure ProcessLine where
  indent : List Char
  time : List Char
  beforePid : List Char
  pid : Numeral.Decimal
  beforeName : List Char
  name : List Char
  after : List Char
  indent_blank : IsBlanks indent
  time_word : IsWord time
  beforePid_blank : beforePid ≠ [] ∧ IsBlanks beforePid
  beforeName_blank : beforeName ≠ [] ∧ IsBlanks beforeName
  name_word : IsWord name
  after_blank : IsBlanks after

def ProcessLine.letters (line : ProcessLine) : List Char :=
  ' ' :: line.indent ++ (line.time ++ (line.beforePid ++ (line.pid.letters ++
    (line.beforeName ++ (line.name ++ line.after)))))

structure OtherLine where
  letters : List Char
  not_online : ¬ "online".toList <+: letters
  not_indented : ¬ " ".toList <+: letters
  not_legacy : ¬ "legacy_run".toList <+: letters

inductive Entry where
  | online (line : OnlineLine)
  | process (line : ProcessLine)
  | legacy (rest : List Char)
  | other (line : OtherLine)

namespace Entry

def letters : Entry → List Char
  | online line => line.letters
  | process line => line.letters
  | legacy rest => "legacy_run".toList ++ rest
  | other line => line.letters

def line (entry : Entry) : String := String.ofList entry.letters

/-- The service that an entry stands for, where scripts with these names are known: a legacy entry
stands for the first of them in which its line ends. -/
def record? (scripts : List String) : Entry → Option ServiceRecord
  | online line => some ⟨String.ofList line.path, 0, .stopped⟩
  | process line => some ⟨String.ofList line.name, line.pid.value, .running⟩
  | legacy rest =>
    (scripts.find? fun name => name.toList <:+ "legacy_run".toList ++ rest).map (⟨·, 0, .stopped⟩)
  | other _ => none

end Entry

theorem afterLastMark_append {s tail : List Char} (before : List Char)
    (found : afterLastMark s = some tail) : afterLastMark (before ++ s) = some tail := by
  induction before with
  | nil => exact found
  | cons c rest ih =>
    rw [List.cons_append]
    unfold afterLastMark
    rw [ih]

theorem afterLastMark_eq_none {s : List Char} (unmarked : ¬ mark <:+: s) :
    afterLastMark s = none := by
  induction s with
  | nil => rfl
  | cons c rest ih =>
    have later : afterLastMark rest = none :=
      ih fun inside => unmarked (inside.trans (List.suffix_cons c rest).isInfix)
    unfold afterLastMark
    rw [later]
    by_cases colon : c = ':'
    · subst colon
      simp only [if_true]
      split
      · next tail => exact absurd (List.prefix_append mark tail).isInfix unmarked
      · rfl
    · simp only [colon, if_false]

theorem afterLastMark_mark {tail : List Char} (unmarked : ¬ mark <:+: tail) :
    afterLastMark (mark ++ tail) = some tail := by
  have slash : afterLastMark ('/' :: tail) = none := by
    unfold afterLastMark
    rw [afterLastMark_eq_none unmarked]
    rfl
  rw [mark, List.cons_append, List.singleton_append]
  unfold afterLastMark
  rw [slash]
  rfl

/-- No mark comes about where a text without slashes is put behind one without marks. -/
theorem unmarked_append {path tail : List Char} (unmarked : ¬ mark <:+: path)
    (plain : '/' ∉ tail) : ¬ mark <:+: path ++ tail := by
  rintro ⟨before, after, split⟩
  rcases List.append_eq_append_iff.1 split with ⟨inner, front, _⟩ | ⟨inner, front, back⟩
  · exact unmarked ⟨before, inner, front.symm⟩
  · rcases List.eq_nil_or_concat inner with rfl | ⟨most, last, rfl⟩
    · exact unmarked ⟨before, [], by simpa using front⟩
    · -- the mark ends in a slash, and what it ends in stands in `tail`
      have slash : last = '/' := by
        have ends := congrArg List.getLast? front
        simpa [mark] using ends.symm
      exact plain (by simp [back, slash])

namespace OnlineLine

variable (line : OnlineLine)

theorem slash_not_mem_after : '/' ∉ line.after := fun mem => by
  have blank := line.after_blank '/' mem
  revert blank
  decide

theorem unmarked_tail : ¬ mark <:+: line.name ++ line.after := by
  have plain : '/' ∉ (if line.hasSuffix then defaultSuffix else []) ++ line.after := by
    rw [List.mem_append, not_or]
    refine ⟨?_, line.slash_not_mem_after⟩
    split <;> decide
  rw [name, List.append_assoc]
  exact unmarked_append line.path_unmarked plain

theorem dropTrailing_tail : dropTrailing isBlank (line.name ++ line.after) = line.name := by
  rw [dropTrailing_append_blanks line.after_blank]
  refine dropTrailing_eq_self fun c last => ?_
  rw [name] at last
  cases suffix : line.hasSuffix with
  | false =>
    simp only [suffix, Bool.false_eq_true, if_false, List.append_nil] at last
    exact line.path_end c last
  | true =>
    have ends : defaultSuffix.getLast? = some 't' := by decide
    simp only [suffix, if_true, List.getLast?_append, ends, Option.some_or] at last
    cases last
    decide

theorem dropDefault_name : dropDefault line.name = line.path := by
  unfold dropDefault name
  cases suffix : line.hasSuffix with
  | false =>
    have bare : defaultSuffix.isSuffixOf line.path = false :=
      Bool.eq_false_iff.2 fun ends => line.path_bare suffix (List.isSuffixOf_iff_suffix.1 ends)
    simp [bare]
  | true =>
    have ends : defaultSuffix.isSuffixOf (line.path ++ defaultSuffix) = true :=
      List.isSuffixOf_iff_suffix.2 (List.suffix_append _ _)
    simp [ends]

theorem online?_letters :
    online? line.letters = some ⟨String.ofList line.path, 0, .stopped⟩ := by
  have found : afterLastMark line.letters = some (line.name ++ line.after) :=
    afterLastMark_append _ (afterLastMark_append _ (afterLastMark_mark line.unmarked_tail))
  rw [online?, found, Option.map_some, line.dropTrailing_tail, line.dropDefault_name]

end OnlineLine

namespace ProcessLine

variable (line : ProcessLine)

theorem words_letters : words line.letters = [line.time, line.pid.letters, line.name] := by
  have indent : IsBlanks (' ' :: line.indent) := List.forall_mem_cons.2 ⟨by decide, line.indent_blank⟩
  rw [letters, words_blanks_append indent,
    words_append_blanks line.time_word line.beforePid_blank,
    words_append_blanks line.pid.isWord_letters line.beforeName_blank,
    words_append line.name_word fun c first => line.after_blank c (List.mem_of_mem_head? first),
    words_blanks line.after_blank]

theorem running?_letters :
    running? line.letters = some ⟨String.ofList line.name, line.pid.value, .running⟩ := by
  rw [running?, line.words_letters]
  simp only [line.pid.integerOr_letters]

end ProcessLine

theorem legacy?_eq (scripts : List String) (letters : List Char) :
    legacy? scripts letters =
      (scripts.find? fun name => name.toList <:+ letters).map (⟨·, 0, .stopped⟩) := by
  have same : (fun name : String => name.toList.isSuffixOf letters) =
      fun name => decide (name.toList <:+ letters) := by
    funext name
    rw [Bool.eq_iff_iff, List.isSuffixOf_iff_suffix, decide_eq_true_iff]
  rw [legacy?, same]

variable {scripts : List String} {letters : List Char}

theorem read?_ofList (letters : List Char) :
    read? scripts (String.ofList letters) =
      if "online".toList.isPrefixOf letters then online? letters
      else if " ".toList.isPrefixOf letters then running? letters
      else if "legacy_run".toList.isPrefixOf letters then legacy? scripts letters
      else none := by
  have shown : (String.ofList letters).toList = letters := String.toList_ofList
  rw [read?, shown]

theorem read?_of_online (online : "online".toList <+: letters) :
    read? scripts (String.ofList letters) = online? letters := by
  rw [read?_ofList, if_pos (List.isPrefixOf_iff_prefix.2 online)]

theorem read?_of_indented (online : ¬ "online".toList <+: letters)
    (indented : " ".toList <+: letters) :
    read? scripts (String.ofList letters) = running? letters := by
  rw [read?_ofList, if_neg (mt List.isPrefixOf_iff_prefix.1 online),
    if_pos (List.isPrefixOf_iff_prefix.2 indented)]

theorem read?_of_legacy (online : ¬ "online".toList <+: letters)
    (indented : ¬ " ".toList <+: letters) (legacy : "legacy_run".toList <+: letters) :
    read? scripts (String.ofList letters) = legacy? scripts letters := by
  rw [read?_ofList, if_neg (mt List.isPrefixOf_iff_prefix.1 online),
    if_neg (mt List.isPrefixOf_iff_prefix.1 indented), if_pos (List.isPrefixOf_iff_prefix.2 legacy)]

theorem read?_of_other (online : ¬ "online".toList <+: letters)
    (indented : ¬ " ".toList <+: letters) (legacy : ¬ "legacy_run".toList <+: letters) :
    read? scripts (String.ofList letters) = none := by
  rw [read?_ofList, if_neg (mt List.isPrefixOf_iff_prefix.1 online),
    if_neg (mt List.isPrefixOf_iff_prefix.1 indented), if_neg (mt List.isPrefixOf_iff_prefix.1 legacy)]

theorem read?_line (entry : Entry) : read? scripts entry.line = entry.record? scripts := by
  cases entry with
  | online line =>
    have online : "online".toList <+: line.letters :=
      ⟨line.middle ++ (mark ++ (line.name ++ line.after)), rfl⟩
    exact (read?_of_online online).trans line.online?_letters
  | process line =>
    have online : ¬ "online".toList <+: line.letters := by simp [ProcessLine.letters]
    have indented : " ".toList <+: line.letters := by simp [ProcessLine.letters]
    exact (read?_of_indented online indented).trans line.running?_letters
  | legacy rest =>
    have online : ¬ "online".toList <+: "legacy_run".toList ++ rest := by simp
    have indented : ¬ " ".toList <+: "legacy_run".toList ++ rest := by simp
    have legacy : "legacy_run".toList <+: "legacy_run".toList ++ rest := ⟨rest, rfl⟩
    exact (read?_of_legacy online indented legacy).trans (legacy?_eq scripts _)
  | other line => exact read?_of_other line.not_online line.not_indented line.not_legacy

/-- Reading written entries gives what they stand for, in order, repeats included. -/
theorem ofLines_map_line (scripts : List String) (entries : List Entry) :
    ofLines scripts (entries.map Entry.line) = entries.filterMap (Entry.record? scripts) := by
  have same : read? scripts ∘ Entry.line = Entry.record? scripts := funext read?_line
  rw [ofLines, List.filterMap_map, same]

/-- A path after two marks that keeps one of two suffixes, a pid with zeros in front, a script that
two names fit, and a state that is passed over. -/
def mixedEntries : List Entry :=
  [.online ⟨" 10:00 svc:/a".toList, "b:default".toList, true, " \t".toList, by decide,
      by rintro c ⟨⟩; decide, by decide, by decide⟩,
    .process ⟨[' '], "10:00".toList, ['\t'], ⟨false, [0, 0, 1, 3], by decide, by decide, by decide⟩,
      "  ".toList, "svc.startd".toList, " \t".toList, by decide, by decide, by decide, by decide, by decide,
      by decide⟩,
    .legacy " 10:00 lrc:/etc/rc2_d/S47pppd".toList,
    .other ⟨"disabled 10:00 svc:/c:default".toList, by decide, by decide, by decide⟩]

theorem ofLines_mixedEntries :
    mixedEntries.map Entry.line =
        ["online 10:00 svc:/a:/b:default:default \t", "  10:00\t0013  svc.startd \t",
          "legacy_run 10:00 lrc:/etc/rc2_d/S47pppd", "disabled 10:00 svc:/c:default"] ∧
      ofLines ["nfs", "pppd", "S47pppd"] (mixedEntries.map Entry.line) =
        [⟨"b:default", 0, .stopped⟩, ⟨"svc.startd", 13, .running⟩, ⟨"pppd", 0, .stopped⟩] :=
  ⟨by decide +kernel, (ofLines_map_line _ mixedEntries).trans (by decide +kernel)⟩

end HostInventory.ServiceListing

namespace HostInventory

namespace ServiceListing

variable {scripts order : List String} {line : List Char} {name other : String}

/-- None of the names ends in another one; a name may be there twice. -/
def IsSuffixFree (scripts : List String) : Prop :=
  ∀ name ∈ scripts, ∀ other ∈ scripts, name.toList <:+ other.toList → name = other

instance (scripts : List String) : Decidable (IsSuffixFree scripts) :=
  decidable_of_iff
    (scripts.all fun name => scripts.all fun other =>
      !(name.toList.isSuffixOf other.toList) || name == other)
    (by simp [IsSuffixFree, or_iff_not_imp_left])

example : IsSuffixFree ["S47pppd", "K01nfs", "S47pppd"] ∧ ¬ IsSuffixFree ["S47pppd", "pppd"] := by
  decide +kernel

namespace IsSuffixFree

theorem eq_of_suffixes (free : IsSuffixFree scripts) (mem : name ∈ scripts)
    (otherMem : other ∈ scripts) (ends : name.toList <:+ line) (otherEnds : other.toList <:+ line) :
    name = other := by
  rcases List.suffix_or_suffix_of_suffix ends otherEnds with shorter | longer
  · exact free name mem other otherMem shorter
  · exact (free other otherMem name mem longer).symm

/-- The name that is found is told by which names there are, whatever their order. -/
theorem find?_eq_some_iff (free : IsSuffixFree scripts) :
    scripts.find? (fun name => name.toList <:+ line) = some name ↔
      name ∈ scripts ∧ name.toList <:+ line := by
  constructor
  · intro found
    have ends : name.toList <:+ line := by simpa using List.find?_some found
    exact ⟨List.mem_of_find?_eq_some found, ends⟩
  · rintro ⟨mem, ends⟩
    have finds : (scripts.find? fun name => name.toList <:+ line).isSome = true :=
      List.find?_isSome.mpr ⟨name, mem, decide_eq_true ends⟩
    obtain ⟨first, found⟩ := Option.isSome_iff_exists.mp finds
    have firstMem := List.mem_of_find?_eq_some found
    have firstEnds : first.toList <:+ line := by simpa using List.find?_some found
    rw [found, free.eq_of_suffixes firstMem mem firstEnds ends]

theorem legacy?_perm (free : IsSuffixFree scripts) (perm : order.Perm scripts) (line : List Char) :
    legacy? order line = legacy? scripts line := by
  have orderFree : IsSuffixFree order := by
    intro name mem other otherMem
    exact free name (perm.mem_iff.mp mem) other (perm.mem_iff.mp otherMem)
  have same : order.find? (fun name => name.toList <:+ line) =
      scripts.find? (fun name => name.toList <:+ line) := by
    ext name
    rw [orderFree.find?_eq_some_iff, free.find?_eq_some_iff, perm.mem_iff]
  rw [legacy?_eq, legacy?_eq, same]

theorem ofLines_perm (free : IsSuffixFree scripts) (perm : order.Perm scripts)
    (lines : List String) : ofLines order lines = ofLines scripts lines := by
  have same : read? order = read? scripts := by
    funext row
    rw [read?, read?, free.legacy?_perm perm]
  rw [ofLines, ofLines, same]

end IsSuffixFree

theorem ofLines_first (name : String) (rest : List String) {letters : List Char}
    (ends : name.toList <:+ letters) :
    ofLines (name :: rest) [(Entry.legacy letters).line] = [⟨name, 0, .stopped⟩] := by
  have fits : name.toList <:+ "legacy_run".toList ++ letters := ends.trans (List.suffix_append _ _)
  have found : (name :: rest).find? (fun name => name.toList <:+ "legacy_run".toList ++ letters) =
      some name := List.find?_cons_of_pos (decide_eq_true fits)
  rw [ofLines, List.filterMap_cons, read?_line, Entry.record?, found]
  rfl

/-- Where one name ends in another one, each of the two is found if it comes first. -/
theorem isSuffixFree_of_perm
    (same : ∀ order, order.Perm scripts → ∀ lines, ofLines order lines = ofLines scripts lines) :
    IsSuffixFree scripts := by
  intro name mem other otherMem ends
  have shorter := same _ (List.perm_cons_erase mem).symm [(Entry.legacy other.toList).line]
  have longer := same _ (List.perm_cons_erase otherMem).symm [(Entry.legacy other.toList).line]
  rw [ofLines_first name _ ends] at shorter
  rw [ofLines_first other _ (List.suffix_refl _)] at longer
  have records := List.cons.inj (shorter.trans longer.symm)
  exact congrArg ServiceRecord.name records.1

end ServiceListing

namespace ServiceInventory

open ServiceListing

/-- The order of the names changes neither what a listing shows nor what an inventory does, however
the directory comes to be listed. -/
structure NeedsNoOrder (scripts : List String) : Prop where
  listing : ∀ order, order.Perm scripts →
    ∀ lines, ofLines order lines = ofLines scripts lines
  inventory : ∀ (σ : Type) [Journal σ] (source : CommandSource σ) (config : Config)
    (lister reordered : DirectoryLister σ) (world listed : σ) (order : List String),
    order.Perm scripts →
    (lister config.legacyDirectory).perform world = (.ok (some scripts), listed) →
    (reordered config.legacyDirectory).perform world = (.ok (some order), listed) →
    (services source config reordered).perform world =
      (services source config lister).perform world

theorem perform_services {σ : Type} [Journal σ] {source : CommandSource σ} {config : Config}
    {lister : DirectoryLister σ} {world listed : σ} {scripts : List String}
    (lists : (lister config.legacyDirectory).perform world = (.ok (some scripts), listed)) :
    (services source config lister).perform world =
      (do return ofLines scripts (← source config.serviceCommand) : Action σ _).perform listed := by
  have named : (legacyScripts lister config.legacyDirectory).perform world =
      (.ok scripts, listed) := by
    rw [legacyScripts, Action.perform_bind, lists]
    rfl
  rw [services, Action.perform_bind, named]

theorem needsNoOrder_iff (scripts : List String) :
    NeedsNoOrder scripts ↔ IsSuffixFree scripts := by
  constructor
  · intro needsNone
    exact isSuffixFree_of_perm needsNone.listing
  · intro free
    refine ⟨fun order perm => free.ofLines_perm perm, ?_⟩
    intro σ _ source config lister reordered world listed order perm lists relists
    have same : ofLines order = ofLines scripts := by
      funext lines
      exact free.ofLines_perm perm lines
    rw [perform_services lists, perform_services relists, same]

/-- A script whose name ends in that of another one. -/
example : ofLines ["pppd", "S47pppd"] ["legacy_run 10:00 lrc:/etc/rc2_d/S47pppd"] ≠
    ofLines ["S47pppd", "pppd"] ["legacy_run 10:00 lrc:/etc/rc2_d/S47pppd"] := by
  decide +kernel

end ServiceInventory

end HostInventory
