import HostInventory.Text.Decoding
import Mathlib.Data.List.TakeWhile

/-!
Reading UTF-8 undoes writing it. A character takes a leading byte and as many others as the leading
byte announces.
-/
namespace HostInventory.Text

def encodeUtf8 (s : List Char) : List UInt8 := s.flatMap String.utf8EncodeChar

variable {c : Char} {lead : UInt8} {tail rest : List UInt8} {n : Nat}

/-- The bytes that follow a leading byte in the shortest form of a character. -/
structure Follow (lead : UInt8) (tail : List UInt8) : Prop where
  count : followers? lead = some tail.length
  second : ∀ b ∈ tail.head?, maySecond lead b = true
  others : ∀ b ∈ tail.tail, isContinuation b = true

theorem Follow.takeFollowers (follow : Follow lead tail) (rest : List UInt8) :
    takeFollowers lead tail.length (tail ++ rest) = tail := by
  cases tail with
  | nil => rfl
  | cons second others =>
    have runs : others.takeWhile isContinuation = others :=
      List.takeWhile_eq_self_iff.mpr follow.others
    rw [List.length_cons, List.cons_append, Text.takeFollowers, if_pos (follow.second second rfl),
      List.take_left, runs]

theorem Follow.decode (follow : Follow lead tail) (position : Nat) :
    decodeUtf8From position (lead :: tail ++ rest) =
      (decodeUtf8From (position + 1 + tail.length) rest).map (assemble lead tail :: ·) := by
  rw [List.cons_append, decodeUtf8From, follow.count]
  simp only [follow.takeFollowers, if_true, List.drop_left]

theorem toNat_ofNat (small : n < 256) : (UInt8.ofNat n).toNat = n :=
  UInt8.toNat_ofNat_of_lt small

theorem toNat_continuation (n : Nat) : (UInt8.ofNat (n % 64 + 128)).toNat = n % 64 + 128 :=
  toNat_ofNat (by omega)

theorem followers?_eq (lead : UInt8) :
    followers? lead =
      if lead.toNat < 128 then some 0
      else if lead.toNat < 194 then none
      else if lead.toNat < 224 then some 1
      else if lead.toNat < 240 then some 2
      else if lead.toNat < 245 then some 3
      else none := by
  simp only [followers?, UInt8.lt_iff_toNat_lt]
  rfl

theorem isContinuation_iff {b : UInt8} : isContinuation b = true ↔ 128 ≤ b.toNat ∧ b.toNat < 192 := by
  simp only [isContinuation, Bool.and_eq_true, decide_eq_true_eq, UInt8.le_iff_toNat_le,
    UInt8.lt_iff_toNat_lt]
  rfl

theorem isContinuation_ofNat (n : Nat) : isContinuation (UInt8.ofNat (n % 64 + 128)) = true := by
  rw [isContinuation_iff, toNat_continuation]
  omega

theorem maySecond_iff {b : UInt8} :
    maySecond lead b = true ↔
      (128 ≤ b.toNat ∧ b.toNat < 192) ∧ (lead.toNat = 224 → 160 ≤ b.toNat) ∧
        (lead.toNat = 237 → b.toNat < 160) ∧ (lead.toNat = 240 → 144 ≤ b.toNat) ∧
        (lead.toNat = 244 → b.toNat < 144) := by
  simp only [maySecond, Bool.and_eq_true, Bool.or_eq_true, isContinuation_iff, bne_iff_ne, ne_eq,
    ← UInt8.toNat_inj, decide_eq_true_eq, UInt8.le_iff_toNat_le, UInt8.lt_iff_toNat_lt]
  change ((((128 ≤ b.toNat ∧ b.toNat < 192) ∧ (¬ lead.toNat = 224 ∨ 160 ≤ b.toNat)) ∧
    (¬ lead.toNat = 237 ∨ b.toNat < 160)) ∧ (¬ lead.toNat = 240 ∨ 144 ≤ b.toNat)) ∧
    (¬ lead.toNat = 244 ∨ b.toNat < 144) ↔ _
  omega

theorem follow_none {code : Nat} (high : code ≤ 127) :
    Follow (UInt8.ofNat code) [] ∧ assemble (UInt8.ofNat code) [] = Char.ofNat code := by
  have first : (UInt8.ofNat code).toNat = code := toNat_ofNat (by omega)
  refine ⟨⟨?_, nofun, nofun⟩, congrArg Char.ofNat first⟩
  rw [followers?_eq, first, if_pos (by omega)]
  rfl

theorem follow_one {code : Nat} (low : 127 < code) (high : code ≤ 2047) :
    Follow (UInt8.ofNat (code / 64 % 32 + 192)) [UInt8.ofNat (code % 64 + 128)] ∧
      assemble (UInt8.ofNat (code / 64 % 32 + 192)) [UInt8.ofNat (code % 64 + 128)] =
        Char.ofNat code := by
  have first : (UInt8.ofNat (code / 64 % 32 + 192)).toNat = _ := toNat_ofNat (by omega)
  have second := toNat_continuation code
  refine ⟨⟨?_, ?_, nofun⟩, congrArg Char.ofNat ?_⟩
  · rw [followers?_eq, first, if_neg (by omega), if_neg (by omega), if_pos (by omega)]
    rfl
  · rintro b ⟨⟩
    rw [maySecond_iff, first, second]
    omega
  · simp only [List.foldl_cons, List.foldl_nil, List.length_cons, List.length_nil, leadBits, first,
      second]
    omega

/-- The codes of surrogates are no characters: their second bytes would be barred. -/
theorem follow_two {code : Nat} (low : 2047 < code) (high : code ≤ 65535)
    (valid : code < 55296 ∨ 57343 < code) :
    Follow (UInt8.ofNat (code / 4096 % 16 + 224))
        [UInt8.ofNat (code / 64 % 64 + 128), UInt8.ofNat (code % 64 + 128)] ∧
      assemble (UInt8.ofNat (code / 4096 % 16 + 224))
        [UInt8.ofNat (code / 64 % 64 + 128), UInt8.ofNat (code % 64 + 128)] = Char.ofNat code := by
  have first : (UInt8.ofNat (code / 4096 % 16 + 224)).toNat = _ := toNat_ofNat (by omega)
  have second := toNat_continuation (code / 64)
  have third := toNat_continuation code
  refine ⟨⟨?_, ?_, ?_⟩, congrArg Char.ofNat ?_⟩
  · rw [followers?_eq, first, if_neg (by omega), if_neg (by omega), if_neg (by omega),
      if_pos (by omega)]
    rfl
  · rintro b ⟨⟩
    rw [maySecond_iff, first, second]
    omega
  · intro b mem
    obtain rfl := List.mem_singleton.mp mem
    exact isContinuation_ofNat code
  · simp only [List.foldl_cons, List.foldl_nil, List.length_cons, List.length_nil, leadBits, first,
      second, third]
    omega

theorem follow_three {code : Nat} (low : 65535 < code) (valid : code < 1114112) :
    Follow (UInt8.ofNat (code / 262144 % 8 + 240))
        [UInt8.ofNat (code / 4096 % 64 + 128), UInt8.ofNat (code / 64 % 64 + 128),
          UInt8.ofNat (code % 64 + 128)] ∧
      assemble (UInt8.ofNat (code / 262144 % 8 + 240))
        [UInt8.ofNat (code / 4096 % 64 + 128), UInt8.ofNat (code / 64 % 64 + 128),
          UInt8.ofNat (code % 64 + 128)] = Char.ofNat code := by
  have first : (UInt8.ofNat (code / 262144 % 8 + 240)).toNat = _ := toNat_ofNat (by omega)
  have second := toNat_continuation (code / 4096)
  have third := toNat_continuation (code / 64)
  have fourth := toNat_continuation code
  refine ⟨⟨?_, ?_, ?_⟩, congrArg Char.ofNat ?_⟩
  · rw [followers?_eq, first, if_neg (by omega), if_neg (by omega), if_neg (by omega),
      if_neg (by omega), if_pos (by omega)]
    rfl
  · rintro b ⟨⟩
    rw [maySecond_iff, first, second]
    omega
  · intro b mem
    rw [List.tail_cons, List.mem_cons, List.mem_singleton] at mem
    rcases mem with rfl | rfl
    · exact isContinuation_ofNat (code / 64)
    · exact isContinuation_ofNat code
  · simp only [List.foldl_cons, List.foldl_nil, List.length_cons, List.length_nil, leadBits, first,
      second, third, fourth]
    omega

theorem exists_follow (c : Char) :
    ∃ lead tail, String.utf8EncodeChar c = lead :: tail ∧ Follow lead tail ∧
      assemble lead tail = c := by
  have valid : c.toNat < 55296 ∨ 57343 < c.toNat ∧ c.toNat < 1114112 := c.valid
  have written : String.utf8EncodeChar c =
      if c.toNat ≤ 127 then [UInt8.ofNat c.toNat]
      else if c.toNat ≤ 2047 then
        [UInt8.ofNat (c.toNat / 64 % 32 + 192), UInt8.ofNat (c.toNat % 64 + 128)]
      else if c.toNat ≤ 65535 then
        [UInt8.ofNat (c.toNat / 4096 % 16 + 224), UInt8.ofNat (c.toNat / 64 % 64 + 128),
          UInt8.ofNat (c.toNat % 64 + 128)]
      else
        [UInt8.ofNat (c.toNat / 262144 % 8 + 240), UInt8.ofNat (c.toNat / 4096 % 64 + 128),
          UInt8.ofNat (c.toNat / 64 % 64 + 128), UInt8.ofNat (c.toNat % 64 + 128)] := rfl
  have code : Char.ofNat c.toNat = c := Char.ofNat_toNat c
  rw [written]
  split
  next high =>
    obtain ⟨follow, same⟩ := follow_none high
    exact ⟨_, _, rfl, follow, same.trans code⟩
  next low =>
    split
    next high =>
      obtain ⟨follow, same⟩ := follow_one (by omega) high
      exact ⟨_, _, rfl, follow, same.trans code⟩
    next low =>
      split
      next high =>
        obtain ⟨follow, same⟩ := follow_two (by omega) high (by omega)
        exact ⟨_, _, rfl, follow, same.trans code⟩
      next low =>
        have above : 65535 < c.toNat := by omega
        obtain ⟨follow, same⟩ := follow_three above (by omega)
        exact ⟨_, _, rfl, follow, same.trans code⟩

theorem decodeUtf8From_encodeUtf8 (position : Nat) (s : List Char) :
    decodeUtf8From position (encodeUtf8 s) = .ok s := by
  induction s generalizing position with
  | nil => rw [encodeUtf8, List.flatMap_nil, decodeUtf8From]
  | cons c s ih =>
    obtain ⟨lead, tail, written, follow, same⟩ := exists_follow c
    rw [encodeUtf8, List.flatMap_cons, written, follow.decode, same]
    exact congrArg (Except.map (c :: ·)) (ih _)

theorem decodeUtf8_encodeUtf8 (s : List Char) : decodeUtf8 (encodeUtf8 s) = .ok s :=
  decodeUtf8From_encodeUtf8 0 s

end HostInventory.Text
