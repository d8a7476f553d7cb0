import SqlRoutes.Proofs.Query.Splice
import SqlRoutes.Proofs.Sql.Boundary

/-!
Line feeds and blanks in SQL text. A line feed is white space like a blank, except that it ends a
line comment. So writing blanks for line feeds keeps the bind variables before the first line
comment, and none after it.
-/
namespace SqlRoutes.Query

open Sql

def spaced (c : Char) : Char := if c = '\n' then ' ' else c

def openNames (text : List Char) : List String :=
  variableNames ((lexemes text).takeWhile fun lexeme => lexeme.kind ≠ .lineComment)

section Characters

variable {c : Char}

theorem spaced_eq_iff {mark : Char} (noBlank : mark ≠ ' ') (noFeed : mark ≠ '\n') :
    spaced c = mark ↔ c = mark := by
  unfold spaced
  split
  · next feed => simp [feed, Ne.symm noBlank, Ne.symm noFeed]
  · rfl

theorem spaced_congr {α : Type} (f : Char → α) (same : f ' ' = f '\n') (c : Char) :
    f (spaced c) = f c := by
  unfold spaced
  split
  · next feed => rw [feed, same]
  · rfl

theorem spaced_ne_feed (c : Char) : spaced c ≠ '\n' := by
  unfold spaced
  split
  · decide
  · assumption

theorem map_spaced_eq_self {text : List Char} (absent : '\n' ∉ text) : text.map spaced = text := by
  have same : ∀ c ∈ text, spaced c = id c := by
    intro c member
    have other : c ≠ '\n' := by
      rintro rfl
      exact absent member
    simp [spaced, other]
  rw [List.map_congr_left same, List.map_id]

theorem head?_map_spaced_eq_iff {mark : Char} {rest : List Char} (noBlank : mark ≠ ' ')
    (noFeed : mark ≠ '\n') : (rest.map spaced).head? = some mark ↔ rest.head? = some mark := by
  cases rest with
  | nil => rfl
  | cons d rest => simp [spaced_eq_iff noBlank noFeed]

theorem startsNumber_spaced (c : Char) (rest : List Char) :
    startsNumber (spaced c) (rest.map spaced) = startsNumber c rest := by
  have digit := spaced_congr Char.isDigit rfl
  have point := spaced_congr (fun d => decide (d = '.')) rfl c
  cases rest with
  | nil => simp only [startsNumber, List.map_nil, digit, point, List.head?_nil]
  | cons d rest =>
    simp only [startsNumber, List.map_cons, digit, point, List.head?_cons, Option.any_some]

end Characters

def both (f : Char → Char) (parts : List Char × List Char) : List Char × List Char :=
  (parts.1.map f, parts.2.map f)

theorem both_onto (f : Char → Char) (front : List Char) (parts : List Char × List Char) :
    both f (onto front parts) = onto (front.map f) (both f parts) := by
  simp [both, onto]

section Splits

variable (text : List Char)

theorem splitQuoted_spaced {quote : Char} (noBlank : quote ≠ ' ') (noFeed : quote ≠ '\n') :
    splitQuoted quote (text.map spaced) = both spaced (splitQuoted quote text) := by
  have same (c : Char) : spaced c = quote ↔ c = quote := spaced_eq_iff noBlank noFeed
  have alone : spaced quote = quote := (same quote).2 rfl
  fun_induction splitQuoted quote text with
  | case1 => rfl
  | case2 => rfl
  | case3 rest ih =>
    rw [both_onto, ← ih]
    simp only [List.map_cons, alone, splitQuoted_twice, List.map_nil]
  | case4 d rest other => simp [splitQuoted, alone, same, other, both]
  | case5 c d rest other ih =>
    rw [both_onto, ← ih, List.map_cons, splitQuoted_other (mt (same c).1 other)]
    rfl

theorem splitComment_spaced (depth : Nat) :
    splitComment depth (text.map spaced) = both spaced (splitComment depth text) := by
  fun_induction splitComment depth text with
  | case1 => rfl
  | case2 => rfl
  | case3 rest depth ih =>
    rw [both_onto, ← ih]
    rfl
  | case4 depth rest ih =>
    rw [both_onto, ← ih]
    rfl
  | case5 depth c rest closes opens ih =>
    rw [both_onto, ← ih, List.map_cons, splitComment_other]
    · rfl
    · rintro ⟨star, slash⟩
      rw [spaced_eq_iff (by decide) (by decide)] at star
      rw [head?_map_spaced_eq_iff (by decide) (by decide)] at slash
      obtain ⟨tail, rfl⟩ := List.head?_eq_some_iff.1 slash
      exact closes tail star rfl
    · rintro ⟨slash, star⟩
      rw [spaced_eq_iff (by decide) (by decide)] at slash
      rw [head?_map_spaced_eq_iff (by decide) (by decide)] at star
      obtain ⟨tail, rfl⟩ := List.head?_eq_some_iff.1 star
      exact opens tail slash rfl

theorem splitNumber_spaced :
    splitNumber false false (text.map spaced) = both spaced (splitNumber false false text) := by
  rw [splitNumber_eq_span, splitNumber_eq_span]
  generalize (⟨false, false, false⟩ : Numeral) = numeral
  induction text generalizing numeral with
  | nil => rfl
  | cons c rest ih =>
    have same : numeral.next? (spaced c) = numeral.next? c := spaced_congr numeral.next? rfl c
    cases next : numeral.next? c with
    | none =>
      rw [Numeral.span_stop next, List.map_cons, Numeral.span_stop (same.trans next)]
      rfl
    | some later =>
      rw [Numeral.span_next next, List.map_cons, Numeral.span_next (same.trans next), both_onto, ih]
      rfl

theorem takeWhile_spaced (p : Char → Bool) (same : p ' ' = p '\n') :
    ((text.map spaced).takeWhile p, (text.map spaced).dropWhile p) =
      both spaced (text.takeWhile p, text.dropWhile p) := by
  have every : p ∘ spaced = p := funext (spaced_congr p same)
  rw [List.takeWhile_map, List.dropWhile_map, every]
  rfl

theorem isPrefixOf_spaced {front : List Char} (visible : ' ' ∉ front ∧ '\n' ∉ front) :
    front.isPrefixOf (text.map spaced) = front.isPrefixOf text := by
  induction front generalizing text with
  | nil => rfl
  | cons c front ih =>
    obtain ⟨noBlank, noFeed⟩ := visible
    rw [List.mem_cons, not_or] at noBlank noFeed
    cases text with
    | nil => rfl
    | cons d text =>
      have same : (c == spaced d) = (c == d) := by
        rw [Bool.eq_iff_iff, beq_iff_eq, beq_iff_eq, eq_comm,
          spaced_eq_iff (Ne.symm noBlank.1) (Ne.symm noFeed.1), eq_comm]
      rw [List.map_cons, List.isPrefixOf, List.isPrefixOf, same, ih text ⟨noBlank.2, noFeed.2⟩]

theorem operator?_spaced : operator? (text.map spaced) = operator? text := by
  have visible : ∀ operator ∈ operators, ' ' ∉ operator ∧ '\n' ∉ operator := by decide
  have same : ∀ operator ∈ operators, operator <+: text.map spaced ↔ operator <+: text := by
    intro operator member
    rw [← List.isPrefixOf_iff_prefix, isPrefixOf_spaced text (visible operator member),
      List.isPrefixOf_iff_prefix]
  refine Option.ext fun operator => ?_
  simp only [operator?_eq_some_iff]
  refine and_congr_right fun member => and_congr (same operator member) ?_
  exact forall₂_congr fun other listed => imp_congr_left (same other listed)

end Splits

theorem bare_spaced {c : Char} {rest : List Char} (bare : Bare c rest) :
    Bare (spaced c) (rest.map spaced) where
  noString := mt (spaced_eq_iff (by decide) (by decide)).1 bare.noString
  noQuoted := mt (spaced_eq_iff (by decide) (by decide)).1 bare.noQuoted
  noLineComment := by
    rw [spaced_eq_iff (by decide) (by decide), head?_map_spaced_eq_iff (by decide) (by decide)]
    exact bare.noLineComment
  noBlockComment := by
    rw [spaced_eq_iff (by decide) (by decide), head?_map_spaced_eq_iff (by decide) (by decide)]
    exact bare.noBlockComment
  noNumber := (startsNumber_spaced c rest).trans bare.noNumber
  noSpace := (spaced_congr isSpace rfl c).trans bare.noSpace

theorem rule_spaced {c : Char} {rest : List Char} {kind : Kind} {parts : List Char × List Char}
    (rule : Rule c rest kind parts) (other : kind ≠ .lineComment) :
    Rule (spaced c) (rest.map spaced) kind (both spaced parts) := by
  cases rule with
  | string rest =>
    rw [both_onto, ← splitQuoted_spaced rest (by decide) (by decide)]
    exact .string _
  | quoted rest =>
    rw [both_onto, ← splitQuoted_spaced rest (by decide) (by decide)]
    exact .quoted _
  | line => exact absurd rfl other
  | block rest =>
    rw [both_onto, ← splitComment_spaced]
    exact .block _
  | number starts =>
    rw [← splitNumber_spaced]
    exact .number ((startsNumber_spaced c rest).trans starts)
  | space space =>
    rw [both_onto, ← takeWhile_spaced rest isSpace rfl]
    exact .space ((spaced_congr isSpace rfl c).trans space)
  | @operator c rest operator bare found =>
    have plain : ∀ operator ∈ operators, '\n' ∉ operator := by decide
    have same := map_spaced_eq_self (plain operator (operator?_eq_some_iff.1 found).1)
    rw [← operator?_spaced, List.map_cons] at found
    have taken := Rule.operator (bare_spaced bare) found
    rwa [← List.map_cons, ← List.map_drop, ← same, List.length_map] at taken
  | name bare absent =>
    rw [both_onto, splitName, ← takeWhile_spaced rest continuesName rfl]
    refine .name (bare_spaced bare) ?_
    rw [← List.map_cons, operator?_spaced]
    exact absent

theorem splitLine_of_absent {text : List Char} (absent : '\n' ∉ text) :
    splitLine text = (text, []) := by
  induction text with
  | nil => rfl
  | cons c text ih =>
    rw [List.mem_cons, not_or] at absent
    rw [splitLine, if_neg (Ne.symm absent.1), ih absent.2]
    rfl

theorem name_spaced {c : Char} {rest : List Char} {parts : List Char × List Char}
    (rule : Rule c rest .identifier parts) : parts.1.map spaced = parts.1 := by
  obtain ⟨bare, -, rfl⟩ := rule_name_iff.1 rule
  apply map_spaced_eq_self
  intro member
  rcases List.mem_cons.1 member with rfl | later
  · exact absurd bare.noSpace (by decide)
  · have continues := List.all_eq_true.1 List.all_takeWhile _ later
    exact absurd continues (by decide)

theorem variableNames_spaced {kind : Kind} {text : List Char} {first second : List Lexeme}
    (name : kind = .identifier → text.map spaced = text)
    (later : variableNames first = variableNames second) :
    variableNames (⟨kind, text.map spaced⟩ :: first) = variableNames (⟨kind, text⟩ :: second) := by
  by_cases identifier : kind = .identifier
  · rw [name identifier]
    cases bind : isVariable kind text with
    | true => rw [variableNames_bind bind, variableNames_bind bind, later]
    | false => rw [variableNames_other bind, variableNames_other bind, later]
  · have other (text : List Char) : isVariable kind text = false := by
      simp [isVariable, identifier]
    rw [variableNames_other (other _), variableNames_other (other _), later]

/-- With blanks for line feeds a line comment goes on to the end; all before it is as it was. -/
theorem variableNames_lexemes_spaced (text : List Char) :
    variableNames (lexemes (text.map spaced)) = openNames text := by
  unfold openNames
  fun_induction lexemes text with
  | case1 =>
    rw [List.map_nil, lexemes]
    rfl
  | case2 c rest front ih =>
    have rule : Rule c rest front.1 front.2 := rule_split c rest
    -- A line comment is the one lexeme that changes: it takes the whole rest, without a feed in it.
    by_cases line : front.1 = .lineComment
    · rw [List.takeWhile_cons_of_neg (by simp [line])]
      rw [line] at rule
      obtain ⟨rfl, tail, rfl, -⟩ := rule_line_iff.1 rule
      have absent : '\n' ∉ '-' :: tail.map spaced := by
        simp [spaced_ne_feed]
      have taken := split_of_rule (.line (tail.map spaced))
      rw [splitLine_of_absent absent] at taken
      have dash : spaced '-' = '-' := rfl
      rw [List.map_cons, List.map_cons, dash, lexemes, taken, variableNames_other rfl]
      simp only [onto, lexemes]
    · rw [List.takeWhile_cons_of_pos (by simp [line])]
      have taken := split_of_rule (rule_spaced rule line)
      rw [List.map_cons, lexemes, taken]
      exact variableNames_spaced (fun identifier => name_spaced (identifier ▸ rule)) ih

theorem openNames_space {c : Char} {rest : List Char} (space : isSpace c = true) :
    openNames (c :: rest) = openNames (rest.dropWhile isSpace) := by
  rw [openNames, lexemes, split_of_rule (.space space), List.takeWhile_cons_of_pos (by rfl),
    variableNames_other (by rfl)]
  rfl

theorem openNames_feed (text : List Char) : openNames ('\n' :: text) = openNames text := by
  rw [openNames_space rfl]
  cases text with
  | nil => rfl
  | cons c rest =>
    by_cases space : isSpace c = true
    · rw [openNames_space space, List.dropWhile_cons_of_pos space]
    · rw [List.dropWhile_cons_of_neg space]

end SqlRoutes.Query
