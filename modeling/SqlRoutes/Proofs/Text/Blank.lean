import Mathlib.Data.List.DropRight
import SqlRoutes.Text.Blank

namespace SqlRoutes.Text

theorem dropWhile_isBlank_eq_nil {blanks : List Char} (blank : ∀ c ∈ blanks, isBlank c = true) :
    blanks.dropWhile isBlank = [] := by
  rwa [List.dropWhile_eq_nil_iff]

theorem stripRight_append_blanks {blanks : List Char} (blank : ∀ c ∈ blanks, isBlank c = true)
    (text : List Char) : stripRight (text ++ blanks) = stripRight text := by
  have nothing : blanks.reverse.dropWhile isBlank = [] :=
    dropWhile_isBlank_eq_nil fun c member => blank c (List.mem_reverse.1 member)
  unfold stripRight
  rw [List.reverse_append, List.dropWhile_append, nothing]
  rfl

theorem strip_append_blanks {blanks : List Char} (blank : ∀ c ∈ blanks, isBlank c = true)
    (text : List Char) : strip (text ++ blanks) = strip text := by
  unfold strip stripLeft
  rw [List.dropWhile_append]
  split
  · next nothing =>
    rw [List.isEmpty_iff.1 nothing, dropWhile_isBlank_eq_nil blank]
  · exact stripRight_append_blanks blank _

theorem stripLeft_blanks_append {blanks : List Char} (blank : ∀ c ∈ blanks, isBlank c = true)
    (text : List Char) : stripLeft (blanks ++ text) = stripLeft text :=
  List.dropWhile_append_of_pos blank

theorem strip_blanks_append {blanks : List Char} (blank : ∀ c ∈ blanks, isBlank c = true)
    (text : List Char) : strip (blanks ++ text) = strip text := by
  unfold strip
  rw [stripLeft_blanks_append blank]

theorem exists_stripRight_append (text : List Char) :
    ∃ blanks, (∀ c ∈ blanks, isBlank c = true) ∧ stripRight text ++ blanks = text := by
  refine ⟨(text.reverse.takeWhile isBlank).reverse, ?_, ?_⟩
  · intro c member
    exact List.mem_takeWhile_imp (List.mem_reverse.1 member)
  · rw [stripRight, ← List.reverse_append, List.takeWhile_append_dropWhile, List.reverse_reverse]

theorem strip_stripRight (text : List Char) : strip (stripRight text) = strip text := by
  obtain ⟨blanks, blank, whole⟩ := exists_stripRight_append text
  rw [← strip_append_blanks blank, whole]

theorem strip_stripLeft (text : List Char) : strip (stripLeft text) = strip text := by
  unfold strip stripLeft
  rw [List.dropWhile_idempotent]

theorem strip_strip (text : List Char) : strip (strip text) = strip text := by
  calc strip (strip text)
      = strip (stripLeft text) := strip_stripRight (stripLeft text)
    _ = strip text := strip_stripLeft text

theorem strip_eq_stripRight {text : List Char} (head : text.head?.any isBlank = false) :
    strip text = stripRight text := by
  have same : stripLeft text = text := by
    cases text with
    | nil => rfl
    | cons c rest =>
      have filled : isBlank c = false := by simpa using head
      simp [stripLeft, filled]
  rw [strip, same]

theorem stripRight_append_cons {c : Char} (filled : isBlank c = false) (before after : List Char) :
    stripRight (before ++ c :: after) = before ++ c :: stripRight after := by
  unfold stripRight
  rw [List.reverse_append, List.reverse_cons, List.append_assoc, List.dropWhile_append]
  split
  · next nothing =>
    rw [List.isEmpty_iff.1 nothing, List.singleton_append,
      List.dropWhile_cons_of_neg (by simp [filled])]
    simp
  · simp

theorem head_of_strip_eq {text : List Char} (stripped : strip text = text) :
    text.head?.any isBlank = false := by
  obtain ⟨blanks, -, whole⟩ := exists_stripRight_append (stripLeft text)
  rw [← strip, stripped] at whole
  cases text with
  | nil => rfl
  | cons c text =>
    have first := List.head?_dropWhile_not isBlank (c :: text)
    rw [← stripLeft, ← whole] at first
    simpa using first

theorem stripRight_of_strip_eq {text : List Char} (stripped : strip text = text) :
    stripRight text = text := by
  rw [← strip_eq_stripRight (head_of_strip_eq stripped), stripped]

theorem strip_of_filled {text : List Char} (filled : ∀ c ∈ text, isBlank c = false) :
    strip text = text := by
  obtain ⟨right, blankRight, whole⟩ := exists_stripRight_append (stripLeft text)
  have left : stripLeft text = text := by
    refine List.dropWhile_eq_self_iff.2 fun nonempty => ?_
    simp [filled]
  rw [left] at whole
  have nothing : right = [] := by
    refine List.eq_nil_iff_forall_not_mem.2 fun c member => ?_
    have inside : c ∈ text := whole ▸ List.mem_append_right _ member
    exact Bool.false_ne_true ((filled c inside).symm.trans (blankRight c member))
  rw [nothing, List.append_nil] at whole
  rw [strip, left, whole]

theorem strip_ne_nil {text : List Char} {c : Char} (member : c ∈ text)
    (filled : isBlank c = false) : strip text ≠ [] := by
  intro nothing
  obtain ⟨blanks, blank, whole⟩ := exists_stripRight_append (stripLeft text)
  rw [← strip, nothing, List.nil_append] at whole
  have all : ∀ c ∈ text, isBlank c = true := by
    intro c member
    rw [← List.takeWhile_append_dropWhile (p := isBlank) (l := text), ← stripLeft,
      ← whole] at member
    rcases List.mem_append.1 member with left | right
    · exact List.mem_takeWhile_imp left
    · exact blank c right
  exact Bool.false_ne_true (filled.symm.trans (all c member))

theorem stripRight_append {after : List Char} (filled : stripRight after ≠ [])
    (before : List Char) : stripRight (before ++ after) = before ++ stripRight after := by
  have kept : after.reverse.dropWhile isBlank ≠ [] := by simpa [stripRight] using filled
  unfold stripRight
  rw [List.reverse_append, List.dropWhile_append, if_neg (by simpa using kept)]
  simp

theorem collect_blanks {blanks : List Char} (blank : ∀ c ∈ blanks, isBlank c = true)
    (word : List Char) : words.collect word blanks = words.collect word [] := by
  induction blanks generalizing word with
  | nil => rfl
  | cons c blanks ih =>
    obtain ⟨first, others⟩ := List.forall_mem_cons.1 blank
    cases word with
    | nil => simp [words.collect, first, ih others]
    | cons d word => simp [words.collect, first, ih others]

theorem words_append_blanks {blanks : List Char} (blank : ∀ c ∈ blanks, isBlank c = true)
    (text : List Char) : words (text ++ blanks) = words text := by
  unfold words
  generalize ([] : List Char) = word
  induction text generalizing word with
  | nil => exact collect_blanks blank word
  | cons c text ih => simp only [List.cons_append, words.collect, ih]

theorem words_stripLeft (text : List Char) : words (stripLeft text) = words text := by
  unfold stripLeft
  induction text with
  | nil => rfl
  | cons c text ih =>
    cases blank : isBlank c with
    | true =>
      rw [List.dropWhile_cons_of_pos blank, ih]
      simp [words, words.collect, blank]
    | false => rw [List.dropWhile_cons_of_neg (by simp [blank])]

theorem words_blanks_append {blanks : List Char} (blank : ∀ c ∈ blanks, isBlank c = true)
    (text : List Char) : words (blanks ++ text) = words text := by
  rw [← words_stripLeft, stripLeft_blanks_append blank, words_stripLeft]

theorem words_strip (text : List Char) : words (strip text) = words text := by
  obtain ⟨blanks, blank, whole⟩ := exists_stripRight_append (stripLeft text)
  rw [strip, ← words_append_blanks blank, whole, words_stripLeft]

theorem ne_nil_of_mem_collect {word found text : List Char}
    (member : found ∈ words.collect word text) : found ≠ [] := by
  have filled {word : List Char} (unread : ¬word.isEmpty = true) : word.reverse ≠ [] := by
    simpa using unread
  induction text generalizing word with
  | nil =>
    rw [words.collect] at member
    split at member
    · cases member
    · next unread => exact List.mem_singleton.1 member ▸ filled unread
  | cons c text ih =>
    rw [words.collect] at member
    split at member
    · split at member
      · exact ih member
      · next unread =>
        rcases List.mem_cons.1 member with rfl | later
        · exact filled unread
        · exact ih later
    · exact ih member

theorem ne_nil_of_mem_words {text word : List Char} (member : word ∈ words text) : word ≠ [] :=
  ne_nil_of_mem_collect member

theorem collect_append {word : List Char} (filled : ∀ c ∈ word, isBlank c = false)
    (before rest : List Char) :
    words.collect before (word ++ rest) = words.collect (word.reverse ++ before) rest := by
  induction word generalizing before with
  | nil => rfl
  | cons c word ih =>
    obtain ⟨first, others⟩ := List.forall_mem_cons.1 filled
    simp [words.collect, first, ih others]

theorem words_of_filled {word : List Char} (nonempty : word ≠ [])
    (filled : ∀ c ∈ word, isBlank c = false) : words word = [word] := by
  have collected := collect_append filled [] []
  rw [List.append_nil] at collected
  simp [words, collected, words.collect, nonempty]

theorem words_append_blank {word : List Char} {c : Char} (nonempty : word ≠ [])
    (filled : ∀ c ∈ word, isBlank c = false) (blank : isBlank c = true) (rest : List Char) :
    words (word ++ c :: rest) = word :: words rest := by
  simp [words, collect_append filled, words.collect, blank, nonempty]

theorem cut?_eq (mark : Char) (text : List Char) :
    cut? mark text =
      if mark ∈ text then
        some (text.takeWhile (· ≠ mark), (text.dropWhile (· ≠ mark)).drop 1)
      else none := by
  induction text with
  | nil => rfl
  | cons c text ih =>
    rw [cut?]
    by_cases same : c = mark
    · simp [same]
    · rw [if_neg same, ih]
      by_cases later : mark ∈ text <;> simp [same, Ne.symm same, later]

theorem cut?_append {mark : Char} {before : List Char} (absent : mark ∉ before)
    (after : List Char) : cut? mark (before ++ mark :: after) = some (before, after) := by
  induction before with
  | nil => simp [cut?]
  | cons c before ih =>
    rw [List.mem_cons, not_or] at absent
    simp [cut?, Ne.symm absent.1, ih absent.2]

end SqlRoutes.Text
