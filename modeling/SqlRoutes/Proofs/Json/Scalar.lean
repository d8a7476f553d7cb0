import Mathlib.Data.List.TakeWhile
import SqlRoutes.Json.Reader
import SqlRoutes.Json.Writer
import SqlRoutes.Proofs.Encoding.Utf8

namespace SqlRoutes.Json

open Encoding.Utf8 (Piece)

/-- What may follow a number: no further character of one. -/
def Ends (rest : List Piece) : Prop := ∀ piece ∈ rest.head?, numberChar? piece = none

/-- Before a value nothing is skipped, and a list is not empty. -/
def opens (c : Char) : Bool :=
  c ≠ ' ' && c ≠ '\t' && c ≠ '\n' && c ≠ '\r' && c ≠ ']' && c ≠ '\x7d'

theorem skipSpace_cons {piece : Piece} (rest : List Piece) (solid : isSpace piece = false) :
    skipSpace (piece :: rest) = piece :: rest :=
  List.dropWhile_cons_of_neg (by simp [solid])

theorem isSpace_of_opens {c : Char} (start : opens c = true) : isSpace (.char c) = false := by
  simp only [opens, Bool.and_eq_true, decide_eq_true_eq] at start
  simp [isSpace, start]

section Strings

theorem all_hexDigits : ∀ n < 0x20,
    (Text.hexDigits 4 n).all (fun c => c ≠ '"' && c ≠ '\\') = true := by
  decide

theorem unit?_hexDigits : ∀ n < 0x20, (Text.hexDigits 4 n).length = 4 ∧
    unit? (Text.hexDigits 4 n) = some n := by
  decide

inductive Escaped (c : Char) : List Char → Prop
  | self (plain : c ≠ '"' ∧ c ≠ '\\' ∧ 0x20 ≤ c.toNat) : Escaped c [c]
  | short {letter : Char} (other : letter ≠ 'u') (known : unescaped? letter = some c) :
    Escaped c ['\\', letter]
  | long (control : c.toNat < 0x20) : Escaped c ('\\' :: 'u' :: Text.hexDigits 4 c.toNat)

theorem escaped_escaped (c : Char) : Escaped c (escaped c) := by
  unfold escaped
  split
  · next mark =>
    rcases (by simpa using mark : c = '"' ∨ c = '\\') with rfl | rfl
    · exact .short (by decide) rfl
    · exact .short (by decide) rfl
  · next other =>
    split
    · next line => exact line ▸ .short (by decide) rfl
    split
    · next line => exact line ▸ .short (by decide) rfl
    split
    · next line => exact line ▸ .short (by decide) rfl
    split
    · next line => exact line ▸ .short (by decide) rfl
    split
    · next line => exact line ▸ .short (by decide) rfl
    split
    · next control => exact .long control
    · next printable =>
      have marks : c ≠ '"' ∧ c ≠ '\\' := by simpa using other
      exact .self ⟨marks.1, marks.2, by omega⟩

theorem closing_plain {c : Char} (rest : List Piece) (plain : c ≠ '"' ∧ c ≠ '\\') :
    closing (.char c :: rest) = (closing rest).map fun parts => (.char c :: parts.1, parts.2) := by
  rw [closing]
  · simpa using plain.1
  · exact fun _ _ same => absurd (Piece.char.inj same) plain.2

theorem closing_append {text : List Char} (rest : List Piece)
    (plain : ∀ c ∈ text, c ≠ '"' ∧ c ≠ '\\') : closing (text.map .char ++ rest) =
      (closing rest).map fun parts => (text.map .char ++ parts.1, parts.2) := by
  induction text with
  | nil => simp
  | cons c text ih =>
    obtain ⟨first, others⟩ := List.forall_mem_cons.1 plain
    rw [List.map_cons, List.cons_append, closing_plain _ first, ih others, Option.map_map]
    rfl

theorem Escaped.closing {c : Char} {text : List Char} (written : Escaped c text)
    (rest : List Piece) : closing (text.map .char ++ rest) =
      (Json.closing rest).map fun parts => (text.map .char ++ parts.1, parts.2) := by
  cases written with
  | self plain => exact closing_plain rest ⟨plain.1, plain.2.1⟩
  | short other known => rfl
  | long control =>
    have marks : ∀ d ∈ Text.hexDigits 4 c.toNat, d ≠ '"' ∧ d ≠ '\\' := by
      simpa using all_hexDigits _ control
    have digits := closing_append rest marks
    rw [List.map_cons, List.map_cons, List.cons_append, List.cons_append, Json.closing, digits,
      Option.map_map]
    rfl

theorem Escaped.unescape? {c : Char} {text : List Char} (written : Escaped c text)
    (rest : List Piece) : unescape? none (text.map .char ++ rest) =
      (Json.unescape? none rest).map (.char c :: ·) := by
  cases written with
  | self plain =>
    obtain ⟨-, notBackslash, printable⟩ := plain
    rw [List.map_singleton, List.singleton_append, Json.unescape?]
    · have shown : isControl (.char c) = false := by simpa [isControl] using printable
      simp [shown, notBackslash]
    · simp [notBackslash]
    · simp [notBackslash]
  | short other known =>
    rw [List.map_cons, List.map_singleton, List.cons_append, List.singleton_append,
      Json.unescape?]
    · simp [known]
    · simp [other]
  | long control =>
    obtain ⟨four, value⟩ := unit?_hexDigits _ control
    obtain ⟨a, b, c', d, digits⟩ := List.length_eq_four.1 four
    have low : Encoding.Utf16.isLow c.toNat = false := by simp [Encoding.Utf16.isLow]; omega
    have high : Encoding.Utf16.isHigh c.toNat = false := by simp [Encoding.Utf16.isHigh]; omega
    rw [digits] at value ⊢
    simp [Json.unescape?, value, low, high, Char.ofNat_toNat]

variable (text : List Char) (rest : List Piece)

theorem closing_escaped : closing ((text.flatMap escaped).map .char ++ .char '"' :: rest) =
    some ((text.flatMap escaped).map .char, rest) := by
  induction text with
  | nil => rfl
  | cons c text ih =>
    rw [List.flatMap_cons, List.map_append, List.append_assoc, (escaped_escaped c).closing, ih]
    rfl

theorem unescape?_escaped :
    unescape? none ((text.flatMap escaped).map .char) = some (text.map .char) := by
  induction text with
  | nil => rfl
  | cons c text ih =>
    rw [List.flatMap_cons, List.map_append, (escaped_escaped c).unescape?, ih]
    rfl

theorem string_escaped : string ((text.flatMap escaped).map .char ++ .char '"' :: rest) =
    .ok (.ofList text, rest) := by
  have bytes : (text.map Piece.char).flatMap Piece.bytes = Encoding.Utf8.encode text :=
    List.flatMap_map _ _ _
  simp only [string, closing_escaped, unescape?_escaped, bytes, Encoding.Utf8.decode_encode]

end Strings

section Words

variable {word : List Char} {v : Value} {c : Char} (rest : List Piece)

theorem word?_append : word? word v (word.map .char ++ rest) = some (v, rest) := by
  have same : (word.map Piece.char).length = word.length := List.length_map _
  rw [word?, ← same, List.take_left, List.drop_left, if_pos rfl]

theorem word?_of_head? (other : word.head? ≠ some c) (filled : word ≠ []) :
    word? word v (.char c :: rest) = none := by
  obtain ⟨first, letters, rfl⟩ := List.exists_cons_of_ne_nil filled
  have differ : c ≠ first := by
    rintro rfl
    exact other rfl
  simp [word?, differ]

theorem plain?_null : plain? (['n', 'u', 'l', 'l'].map .char ++ rest) = some (.null, rest) := by
  rw [plain?, word?_append]

theorem plain?_true :
    plain? (['t', 'r', 'u', 'e'].map .char ++ rest) = some (.bool true, rest) := by
  rw [plain?, word?_append, List.map_cons, List.cons_append,
    word?_of_head? _ (by decide) (by decide)]

theorem plain?_false :
    plain? (['f', 'a', 'l', 's', 'e'].map .char ++ rest) = some (.bool false, rest) := by
  rw [plain?, word?_append, List.map_cons, List.cons_append,
    word?_of_head? _ (by decide) (by decide), word?_of_head? _ (by decide) (by decide)]

theorem plain?_of_number (other : c ≠ 'n' ∧ c ≠ 't' ∧ c ≠ 'f') : plain? (.char c :: rest) =
    (numberValue? (takeNumber (.char c :: rest)).1).map (·, (takeNumber (.char c :: rest)).2) := by
  rw [plain?, word?_of_head? _ (by simpa using other.1.symm) (by decide),
    word?_of_head? _ (by simpa using other.2.1.symm) (by decide),
    word?_of_head? _ (by simpa using other.2.2.symm) (by decide)]

end Words

section Numbers

theorem takeNumber_append {text : List Char} {rest : List Piece}
    (numeric : ∀ c ∈ text, numberChar? (.char c) = some c) (ends : Ends rest) :
    takeNumber (text.map .char ++ rest) = (text, rest) := by
  induction text with
  | nil =>
    cases rest with
    | nil => rfl
    | cons piece rest =>
      have stop : numberChar? piece = none := ends piece rfl
      simp [takeNumber, stop]
  | cons c text ih =>
    obtain ⟨first, others⟩ := List.forall_mem_cons.1 numeric
    rw [List.map_cons, List.cons_append, takeNumber, first, ih others]

theorem wholeValue_eq (digits : List Char) : wholeValue digits = Nat.ofDigitChars 10 digits 0 := by
  rw [wholeValue, Nat.ofDigitChars_eq_foldl]
  simp only [Nat.mul_comm]

theorem isDigit_toDigits (n : Nat) : ∀ c ∈ Nat.toDigits 10 n, c.isDigit = true :=
  fun _ member => Nat.isDigit_of_mem_toDigits (by decide) (by decide) member

theorem head?_toDigits (n : Nat) :
    (Nat.toDigits 10 n).head? = some '0' → Nat.toDigits 10 n = ['0'] := by
  induction n using Nat.strongRecOn with
  | ind n ih =>
    by_cases small : n < 10
    · rw [Nat.toDigits_of_lt_base small]
      simp
    · rw [Nat.toDigits_of_base_le (by decide) (Nat.not_lt.1 small),
        List.head?_append_of_ne_nil _ Nat.toDigits_ne_nil]
      intro zero
      have front := ih (n / 10) (by omega) zero
      have large : 0 < n / 10 := by omega
      have value := Nat.ofDigitChars_ten_toDigits (n := n / 10)
      rw [front] at value
      simp [Nat.ofDigitChars_cons] at value
      omega

theorem takeWhile_toDigits (n : Nat) :
    (Nat.toDigits 10 n).takeWhile Char.isDigit = Nat.toDigits 10 n :=
  List.takeWhile_eq_self_iff.2 (isDigit_toDigits n)

theorem dropWhile_toDigits (n : Nat) : (Nat.toDigits 10 n).dropWhile Char.isDigit = [] :=
  List.dropWhile_eq_nil_iff.2 (isDigit_toDigits n)

theorem starts_toDigits (n : Nat) : ¬((Nat.toDigits 10 n).isEmpty ||
    ((Nat.toDigits 10 n).head? = some '0' && Nat.toDigits 10 n ≠ ['0'])) = true := by
  simpa [Nat.toDigits_ne_nil] using head?_toDigits n

theorem numberValue?_digits {n : Nat} (short : (Nat.toDigits 10 n).length ≤ longestWhole) :
    numberValue? (Nat.toDigits 10 n) = some (.int n) := by
  rw [numberValue?]
  · simp only [takeWhile_toDigits, dropWhile_toDigits]
    rw [if_neg (starts_toDigits n), if_pos List.isEmpty_nil, if_neg (Nat.not_lt.2 short),
      wholeValue_eq, Nat.ofDigitChars_ten_toDigits]
    rfl
  -- A number that is not signed is read by the other case, for no digit is a sign.
  · intro rest signed
    have digit := isDigit_toDigits n '-' (signed ▸ List.mem_cons_self)
    cases digit

theorem numberValue?_minus {n : Nat} (short : ('-' :: Nat.toDigits 10 n).length ≤ longestWhole) :
    numberValue? ('-' :: Nat.toDigits 10 n) = some (.int (-n)) := by
  rw [numberValue?]
  simp only [takeWhile_toDigits, dropWhile_toDigits]
  rw [if_neg (starts_toDigits n), if_pos List.isEmpty_nil, if_neg (Nat.not_lt.2 short),
    wholeValue_eq, Nat.ofDigitChars_ten_toDigits]
  rfl

theorem toList_toString (i : Int) : (toString i).toList =
    if 0 ≤ i then Nat.toDigits 10 i.natAbs else '-' :: Nat.toDigits 10 i.natAbs := by
  rw [Int.toString_eq_repr, Int.repr_eq_if]
  split
  · next positive =>
    have same : i.toNat = i.natAbs := by omega
    rw [Nat.toList_repr, same]
  · next negative =>
    have same : (-i).toNat = i.natAbs := by omega
    rw [String.toList_append, Nat.toList_repr, same]
    rfl

theorem numberChar?_toString (i : Int) :
    ∀ c ∈ (toString i).toList, numberChar? (.char c) = some c := by
  have digits : ∀ c ∈ Nat.toDigits 10 i.natAbs, numberChar? (.char c) = some c := by
    intro c member
    simp [numberChar?, isDigit_toDigits _ c member]
  rw [toList_toString]
  split
  · exact digits
  · exact List.forall_mem_cons.2 ⟨rfl, digits⟩

theorem numberValue?_toString {i : Int} (short : (toString i).length ≤ longestWhole) :
    numberValue? (toString i).toList = some (.int i) := by
  rw [← String.length_toList] at short
  rw [toList_toString] at short ⊢
  split at short
  · next positive =>
    have same : (i.natAbs : Int) = i := by omega
    rw [if_pos positive, numberValue?_digits short, same]
  · next negative =>
    have same : -(i.natAbs : Int) = i := by omega
    rw [if_neg negative, numberValue?_minus short, same]

theorem toString_ne_nil (i : Int) : (toString i).toList ≠ [] := by
  rw [toList_toString]
  split
  · exact Nat.toDigits_ne_nil
  · exact List.cons_ne_nil _ _

end Numbers

end SqlRoutes.Json
