import Mathlib.Data.Nat.Digits.Defs
import SqlRoutes.Proofs.Json.RoundTrip

namespace SqlRoutes.Json

def Printable (text : List Char) : Prop := ∀ c ∈ text, 0x20 ≤ c.toNat

section Texts

variable {c : Char} {text other : List Char}

@[simp] theorem printable_nil : Printable [] := List.forall_mem_nil _

@[simp] theorem printable_cons : Printable (c :: text) ↔ 0x20 ≤ c.toNat ∧ Printable text :=
  List.forall_mem_cons

@[simp] theorem printable_append :
    Printable (text ++ other) ↔ Printable text ∧ Printable other :=
  List.forall_mem_append

theorem Printable.sublist (printable : Printable text) (part : other.Sublist text) :
    Printable other :=
  fun c member => printable c (part.subset member)

theorem printable_replicate (n : Nat) (visible : 0x20 ≤ c.toNat) :
    Printable (List.replicate n c) := by
  intro d member
  rw [List.eq_of_mem_replicate member]
  exact visible

theorem printable_intercalate {parts : List (List Char)} (visible : Printable text)
    (each : ∀ part ∈ parts, Printable part) : Printable (text.intercalate parts) := by
  induction parts with
  | nil => exact printable_nil
  | cons part parts ih =>
    have first : Printable part := each part List.mem_cons_self
    have others : Printable (text.intercalate parts) :=
      ih fun other member => each other (List.mem_cons_of_mem part member)
    by_cases last : parts = []
    · simpa [last] using first
    · rw [List.intercalate_cons_of_ne_nil last]
      simp [visible, first, others]

end Texts

section Numbers

theorem printable_toDigits (n : Nat) : Printable (Nat.toDigits 10 n) := by
  intro c member
  have digit : c.isDigit = true := isDigit_toDigits n c member
  have range : '0'.toNat ≤ c.toNat ∧ c.toNat ≤ '9'.toNat := by
    simpa [Char.isDigit, Char.le_def, UInt32.le_iff_toNat_le] using digit
  have zero : '0'.toNat = 0x30 := rfl
  omega

theorem printable_toString (i : Int) : Printable (toString i).toList := by
  rw [toList_toString]
  split
  · exact printable_toDigits _
  · simp [printable_toDigits]

theorem printable_positional {digits : List Char} (visible : Printable digits) (places : Int) :
    Printable (Decimal.positional digits places) := by
  have zeros (n : Nat) : Printable (List.replicate n '0') := printable_replicate n (by decide)
  dsimp only [Decimal.positional]
  split
  · simp [visible, zeros]
  · split
    · simp [visible, zeros]
    · have front : Printable (digits.take places.toNat) :=
        visible.sublist (List.take_sublist _ _)
      have back : Printable (digits.drop places.toNat) :=
        visible.sublist (List.drop_sublist _ _)
      simp [front, back]

theorem printable_exponent (layout : Decimal.Layout) (e : Int) :
    Printable (layout.exponent e) := by
  have zeros (n : Nat) : Printable (List.replicate n '0') := printable_replicate n (by decide)
  have sign : Printable (if e < 0 then ['-'] else if layout.plus then ['+'] else []) := by
    split
    · simp
    · split <;> simp
  simp [Decimal.Layout.exponent, sign, zeros, printable_toDigits]

theorem printable_finite (layout : Decimal.Layout) (x : Float) : Printable (layout.finite x) := by
  have signed (negative : Bool) {body : List Char} (visible : Printable body) :
      Printable (if negative then '-' :: body else body) := by
    split
    · simp [visible]
    · exact visible
  have visible := printable_toDigits
    (Decimal.shortest (Decimal.Binary.ofFloat x).m (Decimal.Binary.ofFloat x).q).digits
  dsimp only [Decimal.Layout.finite]
  generalize Nat.toDigits 10 _ = digits at visible ⊢
  apply signed
  split
  · simp
  split
  · exact printable_positional visible _
  · have first : Printable (digits.take 1) := visible.sublist (List.take_sublist 1 _)
    have others : Printable (if digits.length ≤ 1 then [] else '.' :: digits.drop 1) := by
      split
      · simp
      · exact printable_cons.2 ⟨by decide, visible.sublist (List.drop_sublist 1 _)⟩
    simp only [printable_append]
    exact ⟨⟨first, others⟩, printable_exponent layout _⟩

end Numbers

section Strings

theorem all_printable_hexDigits : ∀ n < 0x20,
    (Text.hexDigits 4 n).all (fun c => 0x20 ≤ c.toNat) = true := by
  decide

theorem printable_of_unescaped? {letter c : Char} (known : unescaped? letter = some c) :
    0x20 ≤ letter.toNat := by
  unfold unescaped? at known
  split at known
  all_goals first | decide | cases known

theorem Escaped.printable {c : Char} {text : List Char} (written : Escaped c text) :
    Printable text := by
  cases written with
  | self plain => simp [plain.2.2]
  | short other known => simp [printable_of_unescaped? known]
  | long control =>
    have digits : Printable (Text.hexDigits 4 c.toNat) := by
      simpa [Printable] using all_printable_hexDigits c.toNat control
    simp [digits]

theorem printable_quoted (text : List Char) : Printable (quoted text) := by
  have inner : Printable (text.flatMap escaped) := by
    intro d member
    have source := List.mem_flatMap.1 member
    obtain ⟨c, -, written⟩ := source
    exact (escaped_escaped c).printable d written
  simp [quoted, inner]

end Strings

section Values

theorem printable_atomText (a : Atom) : Printable (atomText a) := by
  unfold atomText
  split
  · simp
  · split <;> simp
  · exact printable_toString _
  · split
    · exact printable_finite _ _
    · simp
  · exact printable_quoted _
  · exact printable_quoted _

theorem printable_enclosed {left right : Char} (visible : 0x20 ≤ left.toNat ∧ 0x20 ≤ right.toNat)
    {parts : List (List Char)} (each : ∀ part ∈ parts, Printable part) :
    Printable (enclosed left right parts) := by
  have inner : Printable ([','].intercalate parts) := printable_intercalate (by simp) each
  simp [enclosed, visible, inner]

mutual

theorem printable_text? : ∀ (value : Value) {text : List Char}, text? value = some text →
    Printable text
  | .atom a, text, written => by
    rw [text?] at written
    rw [← Option.some.inj written]
    exact printable_atomText a
  | .list items, text, written | .tuple items, text, written => by
    rw [text?, Option.map_eq_some_iff] at written
    obtain ⟨parts, inner, rfl⟩ := written
    exact printable_enclosed (by decide) (printable_texts? items inner)
  | .set items, text, written => by
    rw [text?, Option.map_eq_some_iff] at written
    obtain ⟨parts, inner, rfl⟩ := written
    apply printable_enclosed (by decide)
    -- The texts are put in another order, so each of them is still the text of an item.
    intro part member
    have sorted := List.mem_map.1 member
    obtain ⟨shown, place, rfl⟩ := sorted
    have pair : shown ∈ (items.map Value.display).zip parts := List.mem_mergeSort.1 place
    exact printable_texts? items inner shown.2 (List.of_mem_zip pair).2
  | .map entries, text, written => by
    rw [text?, Option.map_eq_some_iff] at written
    obtain ⟨parts, inner, rfl⟩ := written
    exact printable_enclosed (by decide) (printable_entryTexts? entries inner)
  | .foreign shown, text, written => by
    rw [text?, Option.map_eq_some_iff] at written
    obtain ⟨s, -, rfl⟩ := written
    exact printable_quoted s.toList

theorem printable_texts? : ∀ (items : List Value) {texts : List (List Char)},
    texts? items = some texts → ∀ text ∈ texts, Printable text
  | [], texts, written => by
    rw [texts?] at written
    rw [← Option.some.inj written]
    exact List.forall_mem_nil _
  | item :: items, texts, written => by
    simp only [texts?, Option.bind_eq_bind, Option.bind_eq_some_iff, Option.pure_def,
      Option.some.injEq] at written
    obtain ⟨text, first, others, rest, rfl⟩ := written
    have head : Printable text := printable_text? item first
    have tail : ∀ text ∈ others, Printable text := printable_texts? items rest
    exact List.forall_mem_cons.2 ⟨head, tail⟩

theorem printable_entryTexts? : ∀ (entries : List (Value × Value)) {texts : List (List Char)},
    entryTexts? entries = some texts → ∀ text ∈ texts, Printable text
  | [], texts, written => by
    rw [entryTexts?] at written
    rw [← Option.some.inj written]
    exact List.forall_mem_nil _
  | (key, value) :: entries, texts, written => by
    simp only [entryTexts?, Option.bind_eq_bind, Option.bind_eq_some_iff, Option.pure_def,
      Option.some.injEq] at written
    obtain ⟨name, -, text, first, others, rest, rfl⟩ := written
    have head : Printable text := printable_text? value first
    have tail : ∀ text ∈ others, Printable text := printable_entryTexts? entries rest
    exact List.forall_mem_cons.2 ⟨by simp [printable_quoted, head], tail⟩

end

theorem printable_of_write {value : Value} {text : List Char} (written : write value = .ok text) :
    Printable text := by
  unfold write at written
  split at written
  · next known =>
    cases written
    exact printable_text? value known
  · cases written

end Values

section Entries

variable {entries : List (Value × Value)}

def WritableEntry (entry : Value × Value) : Prop :=
  (name? entry.1).isSome ∧ (text? entry.2).isSome

theorem isSome_entryTexts? (each : ∀ entry ∈ entries, WritableEntry entry) :
    (entryTexts? entries).isSome := by
  induction entries with
  | nil => rfl
  | cons entry entries ih =>
    have first : WritableEntry entry := each entry List.mem_cons_self
    have others : (entryTexts? entries).isSome :=
      ih fun other member => each other (List.mem_cons_of_mem entry member)
    obtain ⟨name, named⟩ := Option.isSome_iff_exists.1 first.1
    obtain ⟨text, shown⟩ := Option.isSome_iff_exists.1 first.2
    obtain ⟨texts, rest⟩ := Option.isSome_iff_exists.1 others
    simp [entryTexts?, named, shown, rest]

theorem write_map (each : ∀ entry ∈ entries, WritableEntry entry) :
    ∃ text, write (.map entries) = .ok text := by
  have written := isSome_entryTexts? each
  obtain ⟨texts, parts⟩ := Option.isSome_iff_exists.1 written
  have whole : text? (.map entries) = some (enclosed '\x7b' '\x7d' texts) := by
    rw [text?, parts, Option.map_some]
  exact ⟨_, by rw [write, whole]⟩

theorem writable_insertEntry {key value : Value} (each : ∀ entry ∈ entries, WritableEntry entry)
    (added : WritableEntry (key, value)) :
    ∀ entry ∈ Value.insertEntry entries key value, WritableEntry entry := by
  induction entries with
  | nil => exact List.forall_mem_singleton.2 added
  | cons entry entries ih =>
    have first : WritableEntry entry := each entry List.mem_cons_self
    have others : ∀ other ∈ entries, WritableEntry other :=
      fun other member => each other (List.mem_cons_of_mem entry member)
    rw [Value.insertEntry]
    split
    · exact List.forall_mem_cons.2 ⟨⟨first.1, added.2⟩, others⟩
    · exact List.forall_mem_cons.2 ⟨first, ih others⟩

theorem writable_insertEntries {fields : List (Value × Value)}
    (each : ∀ entry ∈ entries, WritableEntry entry)
    (added : ∀ field ∈ fields, WritableEntry field) :
    ∀ entry ∈ fields.foldl (fun entries field => Value.insertEntry entries field.1 field.2) entries,
      WritableEntry entry := by
  induction fields generalizing entries with
  | nil => exact each
  | cons field fields ih =>
    have first : WritableEntry field := added field List.mem_cons_self
    have others : ∀ other ∈ fields, WritableEntry other :=
      fun other member => added other (List.mem_cons_of_mem field member)
    exact ih (writable_insertEntry each first) others

end Entries

end SqlRoutes.Json
