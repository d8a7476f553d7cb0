import Mathlib.Data.List.TakeWhile
import SqlRoutes.Text.Blank
import SqlRoutes.Text.Lines

/-!
Lines and the texts they are read from. A line without line ends is read as it is, and the end of a
text is the end of its last line, whether a line feed marks it or not. Texts are read one after the
other where a line ends between them, and white space at the end of a line stays in that line.
-/
namespace SqlRoutes.Text

theorem isBlank_of_isBreak {c : Char} (ends : isBreak c = true) : isBlank c = true := by
  simp only [isBreak, isBlank, Bool.or_eq_true, Bool.and_eq_true, decide_eq_true_eq,
    beq_iff_eq] at ends ⊢
  omega

theorem isBreak_of_not_isBlank {c : Char} (filled : isBlank c = false) : isBreak c = false := by
  by_contra ends
  exact Bool.false_ne_true (filled.symm.trans (isBlank_of_isBreak (by simpa using ends)))

section Lines

variable {line : List Char}

theorem splitLines_cons {c : Char} (unbroken : isBreak c = false) (rest : List Char) :
    splitLines (c :: rest) = (c :: (splitLines rest).headD []) :: (splitLines rest).tail := by
  have other : c ≠ '\r' := by
    rintro rfl
    cases unbroken
  rw [splitLines]
  · cases splitLines rest <;> simp [unbroken]
  · rintro after rfl
    exact absurd rfl other

theorem splitLines_feed (rest : List Char) : splitLines ('\n' :: rest) = [] :: splitLines rest := by
  rw [splitLines]
  · rfl
  · rintro after same
    cases same

theorem splitLines_append_feed (unbroken : ∀ c ∈ line, isBreak c = false) (rest : List Char) :
    splitLines (line ++ '\n' :: rest) = line :: splitLines rest := by
  induction line with
  | nil => exact splitLines_feed rest
  | cons c line ih =>
    obtain ⟨first, others⟩ := List.forall_mem_cons.1 unbroken
    rw [List.cons_append, splitLines_cons first, ih others]
    rfl

theorem splitLines_last (unbroken : ∀ c ∈ line, isBreak c = false) (filled : line ≠ [])
    {ending : List Char} (ends : ending = [] ∨ ending = ['\n']) :
    splitLines (line ++ ending) = [line] := by
  rcases ends with rfl | rfl
  · rw [List.append_nil]
    induction line with
    | nil => exact absurd rfl filled
    | cons c line ih =>
      obtain ⟨first, others⟩ := List.forall_mem_cons.1 unbroken
      rw [splitLines_cons first]
      cases line with
      | nil => rfl
      | cons d line =>
        rw [ih others (by simp)]
        rfl
  · exact splitLines_append_feed unbroken []

end Lines

theorem splitLines_joined {lines : List (List Char)} {ending : List Char}
    (unbroken : ∀ line ∈ lines, ∀ c ∈ line, isBreak c = false) (nonempty : lines ≠ [])
    (filled : ∀ line ∈ lines.getLast?, line ≠ []) (ends : ending = [] ∨ ending = ['\n']) :
    splitLines (['\n'].intercalate lines ++ ending) = lines := by
  induction lines with
  | nil => exact absurd rfl nonempty
  | cons line lines ih =>
    obtain ⟨first, others⟩ := List.forall_mem_cons.1 unbroken
    cases lines with
    | nil =>
      rw [List.intercalate_singleton]
      exact splitLines_last first (filled line rfl) ends
    | cons next lines =>
      rw [List.intercalate_cons_cons, List.append_assoc, List.append_assoc, List.singleton_append,
        splitLines_append_feed first, ih others (by simp) (by simpa using filled)]

structure Gap (gap : List Char) : Prop where
  nonempty : gap ≠ []
  blank : ∀ c ∈ gap, isBlank c = true
  unbroken : ∀ c ∈ gap, isBreak c = false

theorem gap_of_mem {gap : List Char} (nonempty : gap ≠ []) (each : ∀ c ∈ gap, c = ' ' ∨ c = '\t') :
    Gap gap := by
  refine ⟨nonempty, fun c member => ?_, fun c member => ?_⟩
  · rcases each c member with rfl | rfl <;> rfl
  · rcases each c member with rfl | rfl <;> rfl

section Seams

variable {before after text : List Char}

theorem splitLines_ne_nil (filled : text ≠ []) : splitLines text ≠ [] := by
  fun_cases splitLines text <;> simp_all

theorem splitLines_break {c : Char} (ends : isBreak c = true) {rest : List Char}
    (whole : ¬(c = '\r' ∧ rest.head? = some '\n')) :
    splitLines (c :: rest) = [] :: splitLines rest := by
  rw [splitLines]
  · rw [if_pos ends]
  · rintro after rfl rfl
    exact whole ⟨rfl, rfl⟩

theorem splitLines_return_feed (rest : List Char) :
    splitLines ('\r' :: '\n' :: rest) = splitLines ('\n' :: rest) := by
  rw [splitLines, splitLines_feed]

theorem splitLines_unifyBreaks (text : List Char) :
    splitLines (unifyBreaks text) = splitLines text := by
  fun_induction unifyBreaks text with
  | case1 => rfl
  | case2 rest ih => rw [splitLines_feed, ih, splitLines]
  | case3 rest notPair ih =>
    have whole : ¬('\r' = '\r' ∧ rest.head? = some '\n') := by
      rintro ⟨-, feed⟩
      obtain ⟨after, same⟩ := List.head?_eq_some_iff.1 feed
      exact notPair after same
    rw [splitLines_feed, ih, splitLines_break rfl whole]
  | case4 c rest notPair notReturn ih =>
    have other : c ≠ '\r' := notReturn
    cases ends : isBreak c with
    | true =>
      rw [splitLines_break ends fun seam => other seam.1, ih,
        splitLines_break ends fun seam => other seam.1]
    | false => rw [splitLines_cons ends, ih, splitLines_cons ends]

/-- Between the two texts one line ends and the next one starts. -/
structure Boundary (before after : List Char) : Prop where
  ended : ∀ c ∈ before.getLast?, isBreak c = true
  whole : ¬(before.getLast? = some '\r' ∧ after.head? = some '\n')

theorem splitLines_append (boundary : Boundary before after) :
    splitLines (before ++ after) = splitLines before ++ splitLines after := by
  induction before with
  | nil => rfl
  | cons c before ih =>
    obtain ⟨ended, whole⟩ := boundary
    cases before with
    | nil =>
      have ends : isBreak c = true := ended c rfl
      have apart : ¬(c = '\r' ∧ after.head? = some '\n') := by
        simpa using whole
      rw [List.singleton_append, splitLines_break ends apart, splitLines_break ends (by simp)]
      rfl
    | cons d before =>
      have later := ih ⟨by simpa using ended, by simpa using whole⟩
      cases ends : isBreak c with
      | true =>
        by_cases pair : c = '\r' ∧ d = '\n'
        · obtain ⟨rfl, rfl⟩ := pair
          rw [splitLines_return_feed, ← later]
          exact splitLines_return_feed _
        · rw [List.cons_append, splitLines_break ends (by simpa using pair), later,
            splitLines_break ends (by simpa using pair)]
          rfl
      | false =>
        obtain ⟨first, others, lines⟩ :=
          List.exists_cons_of_ne_nil (splitLines_ne_nil (List.cons_ne_nil d before))
        rw [List.cons_append, splitLines_cons ends, splitLines_cons ends, later, lines]
        rfl

theorem exists_splitLines_break {c : Char} (ends : isBreak c = true) (rest : List Char) :
    ∃ later, splitLines (c :: rest) = [] :: later := by
  by_cases pair : c = '\r' ∧ rest.head? = some '\n'
  · obtain ⟨rfl, feed⟩ := pair
    obtain ⟨after, rfl⟩ := List.head?_eq_some_iff.1 feed
    exact ⟨_, splitLines.eq_2 after⟩
  · exact ⟨_, splitLines_break ends pair⟩

theorem exists_splitLines_append (ends : ∀ c ∈ after.head?, isBreak c = true) :
    ∃ later, ∀ line : List Char, (∀ c ∈ line, isBreak c = false) → line ++ after ≠ [] →
      splitLines (line ++ after) = line :: later := by
  cases after with
  | nil =>
    refine ⟨[], fun line unbroken filled => ?_⟩
    exact splitLines_last unbroken (by simpa using filled) (.inl rfl)
  | cons c rest =>
    obtain ⟨later, split⟩ := exists_splitLines_break (ends c rfl) rest
    refine ⟨later, fun line unbroken _ => ?_⟩
    induction line with
    | nil => exact split
    | cons d line ih =>
      obtain ⟨first, others⟩ := List.forall_mem_cons.1 unbroken
      rw [List.cons_append, splitLines_cons first, ih others (by simp)]
      rfl

theorem exists_splitLines_within (starts : ∀ c ∈ before.getLast?, isBreak c = true)
    (after : List Char) : ∃ line later, ∀ part : List Char, part ≠ [] →
      (∀ c ∈ part, isBreak c = false) →
        splitLines (before ++ (part ++ after)) = splitLines before ++ (part ++ line) :: later := by
  have ends : ∀ c ∈ (after.dropWhile (!isBreak ·)).head?, isBreak c = true := by
    intro c leads
    have stops := List.head?_dropWhile_not (!isBreak ·) after
    rw [Option.mem_def.1 leads] at stops
    simpa using stops
  obtain ⟨later, split⟩ := exists_splitLines_append ends
  refine ⟨after.takeWhile (!isBreak ·), later, fun part nonempty unbroken => ?_⟩
  have boundary : Boundary before (part ++ after) := by
    refine ⟨starts, fun seam => ?_⟩
    obtain ⟨c, rest, rfl⟩ := List.exists_cons_of_ne_nil nonempty
    obtain rfl : c = '\n' := by simpa using seam.2
    cases unbroken '\n' (.head _)
  have within : ∀ c ∈ part ++ after.takeWhile (!isBreak ·), isBreak c = false := by
    refine List.forall_mem_append.2 ⟨unbroken, fun c member => ?_⟩
    simpa using List.mem_takeWhile_imp member
  have first := split _ within (by simp [nonempty])
  rw [List.append_assoc, List.takeWhile_append_dropWhile] at first
  rw [splitLines_append boundary, first]

theorem mem_of_mem_splitLines {line : List Char} {c : Char} (member : line ∈ splitLines text)
    (inside : c ∈ line) : c ∈ text := by
  fun_induction splitLines text generalizing line with
  | case1 => simp at member
  | case2 rest ih =>
    rcases List.mem_cons.1 member with rfl | later
    · cases inside
    · exact .tail _ (.tail _ (ih later inside))
  | case3 d rest notPair ends ih =>
    rcases List.mem_cons.1 member with rfl | later
    · cases inside
    · exact .tail _ (ih later inside)
  | case4 d rest notPair unbroken none ih =>
    obtain rfl := List.mem_singleton.1 member
    obtain rfl := List.mem_singleton.1 inside
    exact .head _
  | case5 d rest notPair unbroken first lines found ih =>
    rw [found] at ih
    rcases List.mem_cons.1 member with rfl | later
    · rcases List.mem_cons.1 inside with rfl | behind
      · exact .head _
      · exact .tail _ (ih (.head _) behind)
    · exact .tail _ (ih (.tail _ later) inside)

theorem exists_splitLines_take (text : List Char) (count : Nat) :
    ∃ front, front <+: text ∧ splitLines front = (splitLines text).take count := by
  fun_induction splitLines text generalizing count with
  | case1 => exact ⟨[], List.nil_prefix, by simp [splitLines]⟩
  | case2 rest ih =>
    cases count with
    | zero => exact ⟨[], List.nil_prefix, rfl⟩
    | succ count =>
      obtain ⟨front, first, split⟩ := ih count
      refine ⟨'\r' :: '\n' :: front, by simpa using first, ?_⟩
      rw [splitLines, split, List.take_succ_cons]
  | case3 c rest notPair ends ih =>
    cases count with
    | zero => exact ⟨[], List.nil_prefix, rfl⟩
    | succ count =>
      obtain ⟨front, first, split⟩ := ih count
      have whole : ¬(c = '\r' ∧ front.head? = some '\n') := by
        rintro ⟨rfl, feed⟩
        obtain ⟨after, rfl⟩ := List.head?_eq_some_iff.1 feed
        obtain ⟨later, rfl⟩ := first
        exact notPair _ rfl rfl
      refine ⟨c :: front, by simpa using first, ?_⟩
      rw [splitLines_break ends whole, split, List.take_succ_cons]
  | case4 c rest notPair unbroken none ih =>
    cases count with
    | zero => exact ⟨[], List.nil_prefix, rfl⟩
    | succ count =>
      refine ⟨[c], by simp, ?_⟩
      rw [splitLines_cons (by simpa using unbroken)]
      simp [splitLines]
  | case5 c rest notPair unbroken line lines found ih =>
    cases count with
    | zero => exact ⟨[], List.nil_prefix, rfl⟩
    | succ count =>
      obtain ⟨front, first, split⟩ := ih (count + 1)
      refine ⟨c :: front, by simpa using first, ?_⟩
      rw [splitLines_cons (by simpa using unbroken), split, found]
      rfl

/-- Lines with white space added at their ends, and further lines of white space behind them. -/
inductive Trails : List (List Char) → List (List Char) → Prop where
  | blank {lines : List (List Char)} (blank : ∀ line ∈ lines, ∀ c ∈ line, isBlank c = true) :
      Trails [] lines
  | line {line gap : List Char} {lines others : List (List Char)}
      (blank : ∀ c ∈ gap, isBlank c = true) (later : Trails lines others) :
      Trails (line :: lines) ((line ++ gap) :: others)

namespace Trails

variable {lines others : List (List Char)}

theorem same (line : List Char) (later : Trails lines others) :
    Trails (line :: lines) (line :: others) := by
  have added : Trails (line :: lines) ((line ++ []) :: others) := .line (by simp) later
  rwa [List.append_nil] at added

theorem refl (lines : List (List Char)) : Trails lines lines := by
  induction lines with
  | nil => exact .blank (by simp)
  | cons line lines ih => exact ih.same line

theorem cons (c : Char) (trails : Trails lines others) :
    Trails ((c :: lines.headD []) :: lines.tail) ((c :: others.headD []) :: others.tail) := by
  cases trails with
  | blank blank =>
    cases others with
    | nil => exact refl _
    | cons gap others =>
      obtain ⟨first, later⟩ := List.forall_mem_cons.1 blank
      exact .line first (.blank later)
  | line blank later => exact .line blank later

theorem prepend {one other : List Char} (trails : Trails (splitLines one) (splitLines other))
    (before : List Char)
    (seam : before.getLast? = some '\r' → (one.head? = some '\n' ↔ other.head? = some '\n')) :
    Trails (splitLines (before ++ one)) (splitLines (before ++ other)) := by
  induction before with
  | nil => exact trails
  | cons c before ih =>
    have later : Trails (splitLines (before ++ one)) (splitLines (before ++ other)) := by
      cases before with
      | nil => exact trails
      | cons d before => exact ih (by simpa using seam)
    cases ends : isBreak c with
    | false =>
      rw [List.cons_append, List.cons_append, splitLines_cons ends, splitLines_cons ends]
      exact later.cons c
    | true =>
      have heads : c = '\r' →
          ((before ++ one).head? = some '\n' ↔ (before ++ other).head? = some '\n') := by
        rintro rfl
        cases before with
        | nil => exact seam rfl
        | cons d before => exact Iff.rfl
      by_cases pair : c = '\r' ∧ (before ++ one).head? = some '\n'
      · obtain ⟨rfl, feed⟩ := pair
        obtain ⟨rest, left⟩ := List.head?_eq_some_iff.1 feed
        obtain ⟨rest', right⟩ := List.head?_eq_some_iff.1 ((heads rfl).1 feed)
        rw [left, right] at later
        rw [List.cons_append, List.cons_append, left, right, splitLines_return_feed,
          splitLines_return_feed]
        exact later
      · have pair' : ¬(c = '\r' ∧ (before ++ other).head? = some '\n') := fun seam' =>
          pair ⟨seam'.1, (heads seam'.1).2 seam'.2⟩
        rw [List.cons_append, List.cons_append, splitLines_break ends pair,
          splitLines_break ends pair']
        exact later.same []

end Trails

theorem blank_of_mem_splitLines (blank : ∀ c ∈ text, isBlank c = true) :
    ∀ line ∈ splitLines text, ∀ c ∈ line, isBlank c = true :=
  fun _ member c inside => blank c (mem_of_mem_splitLines member inside)

theorem trails_append {tail : List Char} (blank : ∀ c ∈ tail, isBlank c = true)
    (text : List Char) : Trails (splitLines text) (splitLines (text ++ tail)) := by
  by_cases seam : text.getLast? = some '\r' ∧ tail.head? = some '\n'
  · obtain ⟨last, feed⟩ := seam
    obtain ⟨before, rfl⟩ := List.getLast?_eq_some_iff.1 last
    obtain ⟨rest, rfl⟩ := List.head?_eq_some_iff.1 feed
    have after : ∀ line ∈ splitLines rest, ∀ c ∈ line, isBlank c = true :=
      blank_of_mem_splitLines (List.forall_mem_cons.1 blank).2
    have trails : Trails (splitLines ['\r']) (splitLines ('\r' :: '\n' :: rest)) := by
      rw [splitLines_return_feed, splitLines_feed]
      exact .same [] (.blank after)
    rw [List.append_assoc]
    exact trails.prepend before (by simp)
  · have trails : Trails (splitLines []) (splitLines tail) := .blank (blank_of_mem_splitLines blank)
    simpa using trails.prepend text (by simpa using seam)

theorem trails_lineEnd {gap : List Char} (inline : Gap gap)
    (ends : ∀ c ∈ after.head?, isBreak c = true)
    (whole : ¬(before.getLast? = some '\r' ∧ after.head? = some '\n')) :
    Trails (splitLines (before ++ after)) (splitLines (before ++ (gap ++ after))) := by
  refine Trails.prepend ?_ before fun last => ?_
  · cases after with
    | nil =>
      rw [List.append_nil]
      exact .blank (blank_of_mem_splitLines inline.blank)
    | cons c rest =>
      obtain ⟨later, split⟩ := exists_splitLines_append ends
      rw [split gap inline.unbroken (by simp), ← List.nil_append (c :: rest),
        split [] (by simp) (by simp)]
      exact .line inline.blank (.refl later)
  · cases gap with
    | nil => exact Iff.rfl
    | cons c gap =>
      have other : c ≠ '\n' := by
        rintro rfl
        cases inline.unbroken '\n' (.head _)
      simpa [other] using fun feed => whole ⟨last, feed⟩

end Seams

end SqlRoutes.Text
