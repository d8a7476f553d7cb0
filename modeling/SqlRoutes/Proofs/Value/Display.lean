import Mathlib.Data.Nat.Digits.Defs
import SqlRoutes.Value.Graph

namespace SqlRoutes

def Filled (text : List Char) : Prop := ∃ c ∈ text, Text.isBlank c = false

theorem isBlank_of_isDigit {c : Char} (digit : c.isDigit = true) : Text.isBlank c = false := by
  simp only [Char.isDigit, Bool.and_eq_true, decide_eq_true_eq] at digit
  have low : 48 ≤ c.toNat := digit.1
  have high : c.toNat ≤ 57 := digit.2
  simp only [Text.isBlank, Bool.or_eq_false_iff, Bool.and_eq_false_imp, decide_eq_true_eq,
    decide_eq_false_iff_not, beq_eq_false_iff_ne]
  omega

theorem filled_digits (n : Nat) : Filled (Nat.toDigits 10 n) := by
  obtain ⟨c, rest, shape⟩ := List.exists_cons_of_ne_nil (Nat.toDigits_ne_nil (n := n) (b := 10))
  have member : c ∈ Nat.toDigits 10 n := shape ▸ .head _
  exact ⟨c, member, isBlank_of_isDigit (Nat.isDigit_of_mem_toDigits (by decide) le_rfl member)⟩

theorem Filled.append_right {text : List Char} (filled : Filled text) (before : List Char) :
    Filled (before ++ text) := by
  obtain ⟨c, member, isFilled⟩ := filled
  exact ⟨c, List.mem_append_right _ member, isFilled⟩

namespace Decimal

theorem filled_positional (digits : List Char) (places : Int) :
    Filled (positional digits places) := by
  unfold positional
  split
  · exact ⟨'.', by simp, rfl⟩
  · dsimp only
    split
    · exact ⟨'.', by simp, rfl⟩
    · exact ⟨'.', by simp, rfl⟩

theorem filled_exponent (layout : Layout) (e : Int) : Filled (layout.exponent e) :=
  ⟨'e', by simp [Layout.exponent], rfl⟩

theorem filled_finite (layout : Layout) (x : Float) : Filled (layout.finite x) := by
  have signed {body : List Char} (filled : Filled body) (negative : Bool) :
      Filled (if negative then '-' :: body else body) := by
    split
    · exact filled.append_right ['-']
    · exact filled
  refine signed ?_ _
  split
  · exact ⟨'0', by simp, rfl⟩
  · split
    · exact filled_positional _ _
    · exact (filled_exponent layout _).append_right _

theorem filled_text (x : Float) : Filled (text x) := by
  unfold text
  split
  · exact ⟨'n', by simp, rfl⟩
  · split
    · split
      · exact ⟨'i', by simp, rfl⟩
      · exact ⟨'i', by simp, rfl⟩
    · exact filled_finite plain x

end Decimal

namespace Atom

theorem filled_bytesText (content : List UInt8) : Filled (bytesText content).toList :=
  ⟨'b', by simp [bytesText], rfl⟩

theorem filled_int (i : Int) : Filled (toString i).toList := by
  rw [Int.toString_eq_repr, Int.repr_eq_if]
  split
  · rw [Nat.toList_repr]
    exact filled_digits _
  · exact ⟨'-', by simp, rfl⟩

theorem filled_display {a : Atom} (other : ∀ s, a ≠ .text s) : Filled a.display.toList := by
  cases a with
  | null => exact ⟨'N', by simp [display, described], rfl⟩
  | bool b =>
    cases b with
    | true => exact ⟨'T', by simp [display, described], rfl⟩
    | false => exact ⟨'F', by simp [display, described], rfl⟩
  | int i => exact filled_int i
  | float x => simpa [display, described] using Decimal.filled_text x
  | text s => exact absurd rfl (other s)
  | bytes content => exact filled_bytesText content
  | date day => exact ⟨'-', by simp [display, Date.text, toString], rfl⟩
  | moment time => exact ⟨'-', by simp [display, Moment.text, Date.text, toString], rfl⟩

end Atom

namespace Graph

variable {graph : Graph} {place : Place} {text : String}

theorem filled_of_enclosed {texts : Except Overlong (List String)} {enclose : List String → String}
    (filled : ∀ texts, Filled (enclose texts).toList)
    (shown : (texts >>= fun texts => pure (enclose texts)) = .ok text) : Filled text.toList := by
  cases texts with
  | error e => cases shown
  | ok texts =>
    obtain rfl := Except.ok.inj shown
    exact filled texts

theorem filled_described {depth : Nat} {around : List Place}
    (shown : graph.described (depth + 1) around place = .ok text)
    (other : ∀ a, graph.cell place ≠ .atom a) : Filled text.toList := by
  unfold described at shown
  dsimp only at shown
  split at shown
  · next a cell => exact absurd cell (other a)
  · obtain rfl := Except.ok.inj shown
    exact ⟨'n', by simp, rfl⟩
  · split at shown
    · obtain rfl := Except.ok.inj shown
      exact ⟨'.', by simp, rfl⟩
    · exact filled_of_enclosed (fun texts => ⟨'[', by simp, rfl⟩) shown
  · split at shown
    · obtain rfl := Except.ok.inj shown
      exact ⟨'.', by simp, rfl⟩
    · exact filled_of_enclosed (fun texts => ⟨'[', by simp, rfl⟩) shown
  · obtain rfl := Except.ok.inj shown
    exact ⟨'s', by simp, rfl⟩
  · exact filled_of_enclosed (fun texts => ⟨'\x7b', by simp, rfl⟩) shown
  · split at shown
    · obtain rfl := Except.ok.inj shown
      exact ⟨'.', by simp, rfl⟩
    · exact filled_of_enclosed (fun texts => ⟨'\x7b', by simp, rfl⟩) shown

theorem filled_display (shown : graph.display place = .ok text)
    (other : ∀ s, graph.cell place ≠ .text s) : Filled text.toList := by
  unfold display at shown
  split at shown
  · next a cell =>
    unfold Atom.bounded at shown
    split at shown
    · cases shown
    · obtain rfl := Except.ok.inj shown
      exact Atom.filled_display fun s same => other s (cell.trans (congrArg Cell.atom same))
  · next collection => exact filled_described shown collection

theorem display_text {s : String} (cell : graph.cell place = .text s) :
    graph.display place = .ok s := by
  unfold display
  rw [cell]
  rfl

end Graph

end SqlRoutes
