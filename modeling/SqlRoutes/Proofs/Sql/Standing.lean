import SqlRoutes.Proofs.Sql.Boundary
import SqlRoutes.Proofs.Sql.Scanner

/-!
Rows of lexemes. A row stands when each lexeme stands before the text of those after it, and the
rows that stand are exactly the ones that scanning gives. A lexeme looks only a little way ahead:
it stands as well before another text that shows it nothing else, such as one that departs from the
first at a mark it cannot go on with.
-/
namespace SqlRoutes.Sql

/-- Each lexeme stands before the text of those after it, and that before `rest`. -/
def Standing (rest : List Char) : List Lexeme → Prop
  | [] => True
  | lexeme :: found =>
    Stands lexeme ((found.map (·.text)).flatten ++ rest) ∧ Standing rest found

theorem Standing.of_append {before found : List Lexeme} {rest : List Char}
    (standing : Standing rest (before ++ found)) : Standing rest found := by
  induction before with
  | nil => exact standing
  | cons lexeme before ih => exact ih standing.2

theorem stands_split (c : Char) (rest : List Char) :
    Stands ⟨(split c rest).1, (split c rest).2.1⟩ (split c rest).2.2 := by
  have joined := split_joined c rest
  obtain ⟨d, tail, parts⟩ := List.exists_cons_of_ne_nil (split_ne_nil c rest)
  rw [parts, List.cons_append] at joined
  obtain ⟨rfl, tailJoined⟩ := List.cons.inj joined
  refine ⟨d, tail, parts, ?_⟩
  rw [tailJoined]
  exact rule_split d rest

theorem Stands.split {lexeme : Lexeme} {c : Char} {tail rest : List Char}
    (stands : Stands lexeme rest) (text : lexeme.text = c :: tail) :
    split c (tail ++ rest) = (lexeme.kind, lexeme.text, rest) := by
  obtain ⟨d, other, parts, rule⟩ := stands
  obtain ⟨rfl, rfl⟩ := List.cons.inj (text.symm.trans parts)
  exact split_of_rule rule

theorem Stands.ne_nil {lexeme : Lexeme} {rest : List Char} (stands : Stands lexeme rest) :
    lexeme.text ≠ [] := by
  obtain ⟨c, tail, text, -⟩ := stands
  rw [text]
  exact List.cons_ne_nil c tail

theorem standing_lexemes (text : List Char) : Standing [] (lexemes text) := by
  fun_induction lexemes text with
  | case1 => trivial
  | case2 c rest front ih =>
    refine ⟨?_, ih⟩
    rw [lexemes_joined, List.append_nil]
    exact stands_split c rest

theorem lexemes_append_of_standing {found : List Lexeme} {rest : List Char}
    (standing : Standing rest found) :
    lexemes ((found.map (·.text)).flatten ++ rest) = found ++ lexemes rest := by
  induction found with
  | nil => rfl
  | cons lexeme found ih =>
    obtain ⟨stands, later⟩ := standing
    obtain ⟨c, tail, text⟩ := List.exists_cons_of_ne_nil stands.ne_nil
    have front := stands.split text
    rw [List.map_cons, List.flatten_cons, List.append_assoc, text, List.cons_append, lexemes, front]
    exact congrArg (lexeme :: ·) (ih later)

theorem lexemes_eq_iff {text : List Char} {found : List Lexeme} :
    lexemes text = found ↔ (found.map (·.text)).flatten = text ∧ Standing [] found := by
  constructor
  · rintro rfl
    exact ⟨lexemes_joined text, standing_lexemes text⟩
  · rintro ⟨rfl, standing⟩
    simpa [lexemes] using lexemes_append_of_standing standing

/-- No lexeme goes on with such a mark, whatever it is, unless an operator has it. -/
structure Mark (mark : Char) : Prop where
  delimiter : continuesName mark = false
  noSpace : isSpace mark = false
  noQuote : mark ∉ ['\'', '"']
  noNumeral : mark ∉ ['.', '+', '-']
  noStar : mark ≠ '*'

instance (mark : Char) : Decidable (Mark mark) :=
  decidable_of_iff (continuesName mark = false ∧ isSpace mark = false ∧ mark ∉ ['\'', '"'] ∧
      mark ∉ ['.', '+', '-'] ∧ mark ≠ '*')
    ⟨fun ⟨delimiter, noSpace, noQuote, noNumeral, noStar⟩ =>
        ⟨delimiter, noSpace, noQuote, noNumeral, noStar⟩,
      fun ⟨delimiter, noSpace, noQuote, noNumeral, noStar⟩ =>
        ⟨delimiter, noSpace, noQuote, noNumeral, noStar⟩⟩

theorem isDigit_of_delimiter {c : Char} (delimiter : continuesName c = false) :
    c.isDigit = false := by
  have member : c ∈ delimiters := by simpa [continuesName] using delimiter
  have all : ∀ d ∈ delimiters, d.isDigit = false := by simp [delimiters]
  exact all c member

theorem Mark.next?_eq_none {mark : Char} (inert : Mark mark) (numeral : Numeral) :
    numeral.next? mark = none := by
  have member : mark ∈ delimiters := by simpa [continuesName] using inert.delimiter
  have all : ∀ c ∈ delimiters, c ≠ 'e' ∧ c ≠ 'E' := by simp [delimiters]
  have others := inert.noNumeral
  simp only [List.mem_cons, List.not_mem_nil, or_false, not_or] at others
  simp [Numeral.next?, isDigit_of_delimiter inert.delimiter, all mark member, others]

/-- Behind `text` the second text shows no more than the first: it starts like that or with a mark,
and an operator that reaches into it reaches as far into the first. -/
structure Replaces (text first second : List Char) : Prop where
  ended : first = [] → second = []
  starts : second.head? = first.head? ∨ ∃ mark, Mark mark ∧ second.head? = some mark
  reach : ∀ more, text ++ more ∈ operators → more <+: second → more <+: first

section Replacing

variable {text first second : List Char}

theorem Apart.of_reach (apart : Apart text first)
    (reach : ∀ more, text ++ more ∈ operators → more <+: second → more <+: first) :
    Apart text second := by
  intro operator member isFront
  apply Nat.le_of_not_lt
  intro longer
  obtain ⟨more, rfl⟩ := List.prefix_of_prefix_length_le (List.prefix_append text _) isFront
    (Nat.le_of_lt longer)
  have reached := reach more member ((List.prefix_append_right_inj text).1 isFront)
  have early := apart _ member ((List.prefix_append_right_inj text).2 reached)
  exact absurd early (Nat.not_le_of_lt longer)

theorem unmarked_of_mark {mark : Char} (inert : Mark mark) (marked : second.head? = some mark) :
    Unmarked text second := by
  have noNumeral := inert.noNumeral
  simp only [List.mem_cons, List.not_mem_nil, or_false, not_or] at noNumeral
  constructor
  · simpa [marked] using fun _ => noNumeral.2.2
  · simpa [marked] using fun _ => inert.noStar
  · simpa [marked] using fun _ => isDigit_of_delimiter inert.delimiter

theorem Unmarked.replaces (unmarked : Unmarked text first)
    (replaces : Replaces text first second) : Unmarked text second := by
  rcases replaces.starts with same | ⟨mark, inert, marked⟩
  · exact ⟨same ▸ unmarked.line, same ▸ unmarked.block, same ▸ unmarked.number⟩
  · exact unmarked_of_mark inert marked

theorem Fits.replaces {lexeme : Lexeme} (fits : Fits lexeme first)
    (replaces : Replaces lexeme.text first second) : Fits lexeme second := by
  obtain ⟨kind, text⟩ := lexeme
  have head (p : Char → Prop) (marked : ∀ mark, Mark mark → p mark)
      (every : ∀ c ∈ first.head?, p c) : ∀ c ∈ second.head?, p c := by
    rcases replaces.starts with same | ⟨mark, inert, same⟩
    · rwa [same]
    · intro c member
      rw [same] at member
      exact Option.some.inj member ▸ marked mark inert
  have quoted (quote : Char) (isQuote : quote ∈ ['\'', '"']) (alone : first.head? ≠ some quote) :
      second.head? ≠ some quote := by
    rcases replaces.starts with same | ⟨mark, inert, same⟩
    · rwa [same]
    · rw [same]
      intro equal
      exact inert.noQuote (Option.some.inj equal ▸ isQuote)
  cases kind with
  | stringLiteral =>
    exact fits.imp replaces.ended fun ⟨closed, alone⟩ => ⟨closed, quoted _ (by simp) alone⟩
  | quotedIdentifier =>
    exact fits.imp replaces.ended fun ⟨closed, alone⟩ => ⟨closed, quoted _ (by simp) alone⟩
  | lineComment => exact fits.imp_left replaces.ended
  | blockComment => exact fits.imp_left replaces.ended
  | numeric =>
    intro last whole
    exact head (last.next? · = none) (fun _ inert => inert.next?_eq_none last) (fits last whole)
  | whitespace => exact head (isSpace · = false) (fun _ inert => inert.noSpace) fits
  | operator => exact ⟨fits.1.replaces replaces, fits.2.of_reach replaces.reach⟩
  | identifier =>
    obtain ⟨unmarked, apart, ends⟩ := fits
    exact ⟨unmarked.replaces replaces, apart.of_reach replaces.reach,
      head (continuesName · = false) (fun _ inert => inert.delimiter) ends⟩
  | endOfInput => exact fits

theorem Stands.replaces {lexeme : Lexeme} (stands : Stands lexeme first)
    (replaces : Replaces lexeme.text first second) : Stands lexeme second := by
  obtain ⟨form, fits⟩ := (stands_iff_form lexeme first).1 stands
  exact (stands_iff_form lexeme second).2 ⟨form, fits.replaces replaces⟩

end Replacing

theorem prefix_of_not_mem {more front rest : List Char} {c : Char} (absent : c ∉ more)
    (isFront : more <+: front ++ c :: rest) : more <+: front := by
  apply List.prefix_of_prefix_length_le isFront (List.prefix_append front _)
  apply Nat.le_of_not_lt
  intro longer
  have passed : front ++ [c] <+: more := by
    refine List.prefix_of_prefix_length_le ⟨rest, by simp⟩ isFront ?_
    rw [List.length_append]
    exact longer
  exact absent (passed.subset (by simp))

/-- The texts are the same up to a place where the second has the mark and the first the marker of
a bind variable. -/
def Departs (mark : Char) (first second : List Char) : Prop :=
  first = second ∨
    ∃ front tail other, first = front ++ ':' :: tail ∧ second = front ++ mark :: other

section Departing

variable {mark : Char} {first second : List Char}

theorem Departs.append (departs : Departs mark first second) (front : List Char) :
    Departs mark (front ++ first) (front ++ second) := by
  rcases departs with rfl | ⟨middle, tail, other, rfl, rfl⟩
  · exact .inl rfl
  · exact .inr ⟨front ++ middle, tail, other, by simp, by simp⟩

theorem Departs.replaces {text : List Char} (inert : Mark mark)
    (departs : Departs mark first second)
    (free : ∀ more, text ++ more ∈ operators → mark ∉ more) : Replaces text first second := by
  rcases departs with rfl | ⟨front, tail, other, rfl, rfl⟩
  · exact ⟨id, .inl rfl, fun _ _ => id⟩
  · refine ⟨by simp, ?_, ?_⟩
    · cases front with
      | nil => exact .inr ⟨mark, inert, rfl⟩
      | cons c front => exact .inl rfl
    · intro more member isFront
      exact (prefix_of_not_mem (free more member) isFront).trans (List.prefix_append front _)

theorem Stands.departs {lexeme : Lexeme} (inert : Mark mark) (stands : Stands lexeme first)
    (departs : Departs mark first second)
    (free : ∀ more, lexeme.text ++ more ∈ operators → mark ∉ more) : Stands lexeme second :=
  stands.replaces (departs.replaces inert free)

end Departing

end SqlRoutes.Sql
