import Mathlib.Data.List.Basic
import SqlRoutes.Encoding.Utf8

namespace SqlRoutes.Encoding.Utf8

theorem goodTails_append {low high : Nat} {first : UInt8} {others rest : List UInt8}
    (ranged : low ≤ first.toNat ∧ first.toNat ≤ high)
    (each : ∀ b ∈ others, 0x80 ≤ b.toNat ∧ b.toNat ≤ 0xbf) :
    goodTails (others.length + 1) low high (first :: others ++ rest) = first :: others := by
  induction others generalizing low high first with
  | nil => simp [goodTails, ranged]
  | cons b others ih =>
    obtain ⟨next, later⟩ := List.forall_mem_cons.1 each
    rw [List.cons_append, List.length_cons, goodTails, if_pos (by simpa using ranged),
      ih next later]

theorem read_of_tails {low high : Nat} {lead first : UInt8} {c : Char} (others rest : List UInt8)
    (asked : tails? lead.toNat = some (others.length + 1, low, high))
    (ranged : low ≤ first.toNat ∧ first.toNat ≤ high)
    (each : ∀ b ∈ others, 0x80 ≤ b.toNat ∧ b.toNat ≤ 0xbf)
    (whole : assemble lead.toNat (first :: others) = c) :
    read lead (first :: others ++ rest) = .char c (others.length + 1) := by
  simp only [read, asked, goodTails_append ranged each, whole]
  exact if_pos rfl

theorem toNat_ofNat {n : Nat} (small : n < 256) : (UInt8.ofNat n).toNat = n := by
  rw [UInt8.toNat_ofNat', Nat.mod_eq_of_lt small]

theorem toNat_tail (n : Nat) : (UInt8.ofNat (n % 64 + 128)).toNat = n % 64 + 128 :=
  toNat_ofNat (by omega)

theorem tail_ranged (n : Nat) :
    0x80 ≤ (UInt8.ofNat (n % 64 + 128)).toNat ∧ (UInt8.ofNat (n % 64 + 128)).toNat ≤ 0xbf := by
  rw [toNat_tail]
  omega

theorem toNat_valid (c : Char) : c.toNat < 0xd800 ∨ 0xdfff < c.toNat ∧ c.toNat < 0x110000 :=
  c.valid

theorem utf8EncodeChar_eq (c : Char) : String.utf8EncodeChar c =
    if c.toNat ≤ 127 then [UInt8.ofNat c.toNat]
    else if c.toNat ≤ 2047 then
      [UInt8.ofNat (c.toNat / 64 % 32 + 192), UInt8.ofNat (c.toNat % 64 + 128)]
    else if c.toNat ≤ 65535 then
      [UInt8.ofNat (c.toNat / 4096 % 16 + 224), UInt8.ofNat (c.toNat / 64 % 64 + 128),
        UInt8.ofNat (c.toNat % 64 + 128)]
    else
      [UInt8.ofNat (c.toNat / 262144 % 8 + 240), UInt8.ofNat (c.toNat / 4096 % 64 + 128),
        UInt8.ofNat (c.toNat / 64 % 64 + 128), UInt8.ofNat (c.toNat % 64 + 128)] := rfl

/-- The first tail byte rules out what two bytes can hold and the halves of surrogate pairs. -/
theorem tails?_three {n : Nat} (large : ¬n ≤ 2047) (small : n ≤ 65535)
    (valid : n < 0xd800 ∨ 0xdfff < n) : ∃ low high,
      tails? (n / 4096 % 16 + 224) = some (2, low, high) ∧
        low ≤ n / 64 % 64 + 128 ∧ n / 64 % 64 + 128 ≤ high := by
  rw [tails?, if_neg (by omega), if_neg (by omega), if_neg (by omega)]
  by_cases first : n / 4096 % 16 + 224 = 0xe0
  · exact ⟨0xa0, 0xbf, if_pos first, by omega⟩
  by_cases halves : n / 4096 % 16 + 224 = 0xed
  · exact ⟨0x80, 0x9f, (if_neg first).trans (if_pos halves), by omega⟩
  · refine ⟨0x80, 0xbf, ?_, by omega⟩
    rw [if_neg first, if_neg halves, if_pos (by omega)]

/-- The first tail byte rules out what three bytes can hold and numbers that are too large. -/
theorem tails?_four {n : Nat} (large : ¬n ≤ 65535) (small : n < 0x110000) : ∃ low high,
    tails? (n / 262144 % 8 + 240) = some (3, low, high) ∧
      low ≤ n / 4096 % 64 + 128 ∧ n / 4096 % 64 + 128 ≤ high := by
  rw [tails?, if_neg (by omega), if_neg (by omega), if_neg (by omega), if_neg (by omega),
    if_neg (by omega), if_neg (by omega)]
  by_cases first : n / 262144 % 8 + 240 = 0xf0
  · exact ⟨0x90, 0xbf, if_pos first, by omega⟩
  by_cases last : n / 262144 % 8 + 240 = 0xf4
  · refine ⟨0x80, 0x8f, ?_, by omega⟩
    rw [if_neg first, if_neg (by omega), if_pos last]
  · refine ⟨0x80, 0xbf, ?_, by omega⟩
    rw [if_neg first, if_pos (by omega)]

section Sizes

variable {c : Char} (rest : List UInt8)

theorem read_one (small : c.toNat ≤ 127) : read (UInt8.ofNat c.toNat) rest = .char c 0 := by
  have lead : (UInt8.ofNat c.toNat).toNat = c.toNat := toNat_ofNat (by omega)
  have asked : tails? c.toNat = some (0, 0x80, 0xbf) := if_pos (by omega)
  simp [read, lead, asked, goodTails, assemble, Char.ofNat_toNat]

theorem read_two (large : ¬c.toNat ≤ 127) (small : c.toNat ≤ 2047) :
    read (UInt8.ofNat (c.toNat / 64 % 32 + 192)) (UInt8.ofNat (c.toNat % 64 + 128) :: rest) =
      .char c 1 := by
  generalize number : c.toNat = n at *
  have lead : (UInt8.ofNat (n / 64 % 32 + 192)).toNat = n / 64 % 32 + 192 :=
    toNat_ofNat (by omega)
  have asked : tails? (n / 64 % 32 + 192) = some (1, 0x80, 0xbf) := by
    rw [tails?, if_neg (by omega), if_neg (by omega), if_pos (by omega)]
  have whole : (n / 64 % 32 + 192) % 32 * 64 + (n % 64 + 128) % 64 = n := by omega
  refine read_of_tails [] rest (lead.symm ▸ asked) (tail_ranged n) (by simp) ?_
  change Char.ofNat (_ % 32 * 64 + _ % 64) = c
  rw [lead, toNat_tail, whole, ← number, Char.ofNat_toNat]

theorem read_three (large : ¬c.toNat ≤ 2047) (small : c.toNat ≤ 65535) :
    read (UInt8.ofNat (c.toNat / 4096 % 16 + 224)) (UInt8.ofNat (c.toNat / 64 % 64 + 128) ::
      UInt8.ofNat (c.toNat % 64 + 128) :: rest) = .char c 2 := by
  have valid := toNat_valid c
  generalize number : c.toNat = n at *
  have lead : (UInt8.ofNat (n / 4096 % 16 + 224)).toNat = n / 4096 % 16 + 224 :=
    toNat_ofNat (by omega)
  obtain ⟨low, high, asked, ranged⟩ := tails?_three large small (valid.imp_right And.left)
  have whole : ((n / 4096 % 16 + 224) % 16 * 64 + (n / 64 % 64 + 128) % 64) * 64 +
      (n % 64 + 128) % 64 = n := by
    omega
  refine read_of_tails [_] rest (lead.symm ▸ asked) ((toNat_tail _).symm ▸ ranged)
    (List.forall_mem_singleton.2 (tail_ranged n)) ?_
  change Char.ofNat ((_ % 16 * 64 + _ % 64) * 64 + _ % 64) = c
  rw [lead, toNat_tail, toNat_tail, whole, ← number, Char.ofNat_toNat]

theorem read_four (large : ¬c.toNat ≤ 65535) :
    read (UInt8.ofNat (c.toNat / 262144 % 8 + 240)) (UInt8.ofNat (c.toNat / 4096 % 64 + 128) ::
      UInt8.ofNat (c.toNat / 64 % 64 + 128) :: UInt8.ofNat (c.toNat % 64 + 128) :: rest) =
      .char c 3 := by
  have valid := toNat_valid c
  generalize number : c.toNat = n at *
  have lead : (UInt8.ofNat (n / 262144 % 8 + 240)).toNat = n / 262144 % 8 + 240 :=
    toNat_ofNat (by omega)
  obtain ⟨low, high, asked, ranged⟩ := tails?_four large (by omega)
  have whole : (((n / 262144 % 8 + 240) % 8 * 64 + (n / 4096 % 64 + 128) % 64) * 64 +
      (n / 64 % 64 + 128) % 64) * 64 + (n % 64 + 128) % 64 = n := by
    omega
  refine read_of_tails [_, _] rest (lead.symm ▸ asked) ((toNat_tail _).symm ▸ ranged)
    (List.forall_mem_cons.2 ⟨tail_ranged _, List.forall_mem_singleton.2 (tail_ranged n)⟩) ?_
  change Char.ofNat (((_ % 8 * 64 + _ % 64) * 64 + _ % 64) * 64 + _ % 64) = c
  rw [lead, toNat_tail, toNat_tail, toNat_tail, whole, ← number, Char.ofNat_toNat]

end Sizes

theorem read_utf8EncodeChar (c : Char) (rest : List UInt8) : ∃ lead tails,
    String.utf8EncodeChar c = lead :: tails ∧
      read lead (tails ++ rest) = .char c tails.length := by
  rw [utf8EncodeChar_eq]
  by_cases one : c.toNat ≤ 127
  · exact ⟨_, _, if_pos one, read_one rest one⟩
  rw [if_neg one]
  by_cases two : c.toNat ≤ 2047
  · exact ⟨_, _, if_pos two, read_two rest one two⟩
  rw [if_neg two]
  by_cases three : c.toNat ≤ 65535
  · exact ⟨_, _, if_pos three, read_three rest two three⟩
  · exact ⟨_, _, if_neg three, read_four rest three⟩

theorem decodeFrom_encode (text : List Char) (position : Nat) :
    decodeFrom position (encode text) = .ok text := by
  induction text generalizing position with
  | nil => exact decodeFrom.eq_1 position
  | cons c text ih =>
    obtain ⟨lead, tails, encoded, found⟩ := read_utf8EncodeChar c (encode text)
    have bytes : encode (c :: text) = lead :: (tails ++ encode text) := by
      rw [encode, List.flatMap_cons, encoded]
      rfl
    rw [bytes, decodeFrom, found]
    dsimp only
    rw [List.drop_left, ih]
    rfl

theorem decode_encode (text : List Char) : decode (encode text) = .ok text :=
  decodeFrom_encode text 0

theorem pieces_encode (text : List Char) : pieces (encode text) = text.map .char := by
  induction text with
  | nil => exact pieces.eq_1
  | cons c text ih =>
    obtain ⟨lead, tails, encoded, found⟩ := read_utf8EncodeChar c (encode text)
    have bytes : encode (c :: text) = lead :: (tails ++ encode text) := by
      rw [encode, List.flatMap_cons, encoded]
      rfl
    rw [bytes, pieces, found]
    dsimp only
    rw [List.drop_left, ih]
    rfl

end SqlRoutes.Encoding.Utf8
