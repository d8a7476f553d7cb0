import SqlRoutes.Proofs.Sql.Extent
import SqlRoutes.Proofs.Sql.Rule

/-!
Boundaries between lexemes. Whether a lexeme stands before a text is a matter of its own form and
of what its rule sees of that text, which is the first two characters at most: `stands_iff_form`
takes the two apart.
-/
namespace SqlRoutes.Sql

/-- The lexeme is what the scanner reads at the front of its text followed by `rest`. -/
def Stands (lexeme : Lexeme) (rest : List Char) : Prop :=
  ∃ c tail, lexeme.text = c :: tail ∧ Rule c (tail ++ rest) lexeme.kind (lexeme.text, rest)

structure Unmarked (text rest : List Char) : Prop where
  line : text = ['-'] → rest.head? ≠ some '-'
  block : text = ['/'] → rest.head? ≠ some '*'
  number : text = ['.'] → ∀ c ∈ rest.head?, c.isDigit = false

/-- No operator that begins in `text` reaches into `rest`. -/
def Apart (text rest : List Char) : Prop :=
  ∀ operator ∈ operators, operator <+: text ++ rest → operator.length ≤ text.length

/-- Nothing at the front of `rest` goes on with the lexeme. -/
def Fits (lexeme : Lexeme) (rest : List Char) : Prop :=
  match lexeme.kind with
  | .stringLiteral =>
    rest = [] ∨ closes '\'' lexeme.text.tail = true ∧ rest.head? ≠ some '\''
  | .quotedIdentifier =>
    rest = [] ∨ closes '"' lexeme.text.tail = true ∧ rest.head? ≠ some '"'
  | .lineComment => rest = [] ∨ lexeme.text.getLast? = some '\n'
  | .blockComment => rest = [] ∨ levelsLeft 0 (lexeme.text.drop 2) = 0
  | .numeric =>
    ∀ last, Numeral.start.after? lexeme.text = some last → ∀ c ∈ rest.head?, last.next? c = none
  | .whitespace => ∀ c ∈ rest.head?, isSpace c = false
  | .operator => Unmarked lexeme.text rest ∧ Apart lexeme.text rest
  | .identifier => Unmarked lexeme.text rest ∧ Apart lexeme.text rest ∧
      ∀ c ∈ rest.head?, continuesName c = false
  | .endOfInput => False

def Form (lexeme : Lexeme) : Prop :=
  match lexeme.kind with
  | .stringLiteral => ∃ tail, lexeme.text = '\'' :: tail ∧ splitQuoted '\'' tail = (tail, [])
  | .quotedIdentifier => ∃ tail, lexeme.text = '"' :: tail ∧ splitQuoted '"' tail = (tail, [])
  | .lineComment => ∃ tail, lexeme.text = '-' :: '-' :: tail ∧ splitLine tail = (tail, [])
  | .blockComment => ∃ tail, lexeme.text = '/' :: '*' :: tail ∧ splitComment 0 tail = (tail, [])
  | .numeric => ∃ c tail last, lexeme.text = c :: tail ∧ startsNumber c tail = true ∧
      Numeral.start.after? lexeme.text = some last
  | .whitespace => lexeme.text ≠ [] ∧ ∀ c ∈ lexeme.text, isSpace c = true
  | .operator => lexeme.text ∈ operators
  | .identifier => ∃ c tail, lexeme.text = c :: tail ∧ Bare c tail ∧
      operator? lexeme.text = none ∧ ∀ d ∈ tail, continuesName d = true
  | .endOfInput => False

section Kinds

variable {text rest : List Char}

theorem stands_quote_iff {kind : Kind} {quote : Char}
    (rule_iff : ∀ {c : Char} {rest : List Char} {parts : List Char × List Char},
      Rule c rest kind parts ↔ c = quote ∧ parts = onto [quote] (splitQuoted quote rest)) :
    Stands ⟨kind, text⟩ rest ↔
      (∃ tail, text = quote :: tail ∧ splitQuoted quote tail = (tail, [])) ∧
        (rest = [] ∨ closes quote text.tail = true ∧ rest.head? ≠ some quote) := by
  constructor
  · rintro ⟨c, tail, rfl, rule⟩
    obtain ⟨rfl, parts⟩ := rule_iff.1 rule
    have taken := (splitQuoted_append_iff _ _ _).1 (onto_one_iff.1 parts.symm)
    exact ⟨⟨tail, rfl, taken.1⟩, taken.2⟩
  · rintro ⟨⟨tail, rfl, whole⟩, fits⟩
    have taken := (splitQuoted_append_iff _ _ _).2 ⟨whole, fits⟩
    exact ⟨_, tail, rfl, rule_iff.2 ⟨rfl, (onto_one_iff.2 taken).symm⟩⟩

theorem stands_line_iff : Stands ⟨.lineComment, text⟩ rest ↔
    Form ⟨.lineComment, text⟩ ∧ Fits ⟨.lineComment, text⟩ rest := by
  have step (tail : List Char) : splitLine ('-' :: tail) = onto ['-'] (splitLine tail) := by
    simp [splitLine]
  constructor
  · rintro ⟨c, tail, rfl, rule⟩
    obtain ⟨rfl, more, joined, parts⟩ := rule_line_iff.1 rule
    rw [step] at parts
    cases tail with
    | nil => simp [onto] at parts
    | cons d tail =>
      obtain ⟨rfl, rfl⟩ := by simpa using joined
      have taken := onto_one_iff.1 (onto_one_iff.1 parts.symm)
      obtain ⟨whole, ended⟩ := (splitLine_append_iff _ _).1 taken
      refine ⟨⟨tail, rfl, whole⟩, ended.imp_right fun newline => ?_⟩
      simp [List.getLast?_cons, newline]
  · rintro ⟨⟨tail, rfl, whole⟩, fits⟩
    have ended : rest = [] ∨ tail.getLast? = some '\n' := by
      refine fits.imp_right fun newline => ?_
      cases tail with
      | nil => simp at newline
      | cons d tail => simpa using newline
    have taken := (splitLine_append_iff _ _).2 ⟨whole, ended⟩
    have parts : onto ['-'] (splitLine ('-' :: (tail ++ rest))) = ('-' :: '-' :: tail, rest) := by
      rw [step, onto_one_iff, onto_one_iff, taken]
    exact ⟨_, _, rfl, rule_line_iff.2 ⟨rfl, tail ++ rest, rfl, parts.symm⟩⟩

theorem stands_block_iff : Stands ⟨.blockComment, text⟩ rest ↔
    Form ⟨.blockComment, text⟩ ∧ Fits ⟨.blockComment, text⟩ rest := by
  constructor
  · rintro ⟨c, tail, rfl, rule⟩
    obtain ⟨rfl, more, joined, parts⟩ := rule_block_iff.1 rule
    cases tail with
    | nil => simp [onto] at parts
    | cons d tail =>
      obtain ⟨rfl, rfl⟩ := by simpa using joined
      obtain ⟨whole, closed⟩ := (splitComment_append_iff _ _ _).1 (onto_two_iff.1 parts.symm)
      exact ⟨⟨tail, rfl, whole⟩, closed⟩
  · rintro ⟨⟨tail, rfl, whole⟩, fits⟩
    have taken := (splitComment_append_iff _ _ _).2 ⟨whole, fits⟩
    exact ⟨_, _, rfl, rule_block_iff.2 ⟨rfl, tail ++ rest, rfl, (onto_two_iff.2 taken).symm⟩⟩

theorem startsNumber_append {c : Char} {tail : List Char} (starts : startsNumber c tail = true)
    (rest : List Char) : startsNumber c (tail ++ rest) = true := by
  cases tail with
  | cons d tail => exact starts
  | nil =>
    have digit : c.isDigit = true := by simpa [startsNumber] using starts
    simp [startsNumber, digit]

theorem stands_number_iff : Stands ⟨.numeric, text⟩ rest ↔
    Form ⟨.numeric, text⟩ ∧ Fits ⟨.numeric, text⟩ rest := by
  constructor
  · rintro ⟨c, tail, rfl, rule⟩
    obtain ⟨starts, parts⟩ := rule_number_iff.1 rule
    obtain ⟨last, whole, stops⟩ := (splitNumber_append_iff (c :: tail) rest).1 parts.symm
    have startsAlone : startsNumber c tail = true := by
      cases tail with
      | cons d tail => exact starts
      | nil =>
        rcases (by simpa [startsNumber] using starts : c.isDigit = true ∨
          c = '.' ∧ rest.head?.any Char.isDigit = true) with digit | ⟨rfl, digit⟩
        · simp [startsNumber, digit]
        · obtain ⟨d, head, digit⟩ := (Option.any_eq_true _ _).1 digit
          obtain rfl : last = ⟨true, false, false⟩ := (Option.some.inj whole).symm
          have stopped := stops d head
          simp [Numeral.next?, digit] at stopped
    refine ⟨⟨c, tail, last, rfl, startsAlone, whole⟩, ?_⟩
    intro other same
    rw [whole] at same
    exact Option.some.inj same ▸ stops
  · rintro ⟨⟨c, tail, last, rfl, starts, whole⟩, fits⟩
    have taken := (splitNumber_append_iff (c :: tail) rest).2 ⟨last, whole, fits last whole⟩
    exact ⟨c, tail, rfl, rule_number_iff.2 ⟨startsNumber_append starts rest, taken.symm⟩⟩

theorem stands_space_iff : Stands ⟨.whitespace, text⟩ rest ↔
    Form ⟨.whitespace, text⟩ ∧ Fits ⟨.whitespace, text⟩ rest := by
  constructor
  · rintro ⟨c, tail, rfl, rule⟩
    obtain ⟨space, parts⟩ := rule_space_iff.1 rule
    have taken := (takeWhile_append_iff _ _ _).1 (onto_one_iff.1 parts.symm)
    exact ⟨⟨List.cons_ne_nil _ _, List.forall_mem_cons.2 ⟨space, taken.1⟩⟩, taken.2⟩
  · rintro ⟨⟨filled, spaces⟩, fits⟩
    obtain ⟨c, tail, rfl⟩ := List.exists_cons_of_ne_nil filled
    obtain ⟨space, others⟩ := List.forall_mem_cons.1 spaces
    have taken := (takeWhile_append_iff _ _ _).2 ⟨others, fits⟩
    exact ⟨c, tail, rfl, rule_space_iff.2 ⟨space, (onto_one_iff.2 taken).symm⟩⟩

theorem bare_append_iff {c : Char} {tail : List Char} :
    Bare c (tail ++ rest) ↔ Bare c tail ∧ Unmarked (c :: tail) rest := by
  cases tail with
  | cons d tail =>
    have unmarked : Unmarked (c :: d :: tail) rest := ⟨by simp, by simp, by simp⟩
    constructor
    · intro bare
      exact ⟨⟨bare.noString, bare.noQuoted, bare.noLineComment, bare.noBlockComment, bare.noNumber,
        bare.noSpace⟩, unmarked⟩
    · rintro ⟨bare, -⟩
      exact ⟨bare.noString, bare.noQuoted, bare.noLineComment, bare.noBlockComment, bare.noNumber,
        bare.noSpace⟩
  | nil =>
    constructor
    · intro bare
      have noNumber := bare.noNumber
      simp only [List.nil_append, startsNumber, Bool.or_eq_false_iff] at noNumber
      refine ⟨⟨bare.noString, bare.noQuoted, by simp, by simp, ?_, bare.noSpace⟩, ?_, ?_, ?_⟩
      · simp [startsNumber, noNumber.1]
      · intro same dash
        exact bare.noLineComment ⟨by simpa using same, dash⟩
      · intro same star
        exact bare.noBlockComment ⟨by simpa using same, star⟩
      · intro same d head
        have point : c = '.' := by simpa using same
        cases digit : d.isDigit with
        | false => rfl
        | true => simp [point, Option.mem_def.1 head, digit] at noNumber
    · rintro ⟨bare, unmarked⟩
      refine ⟨bare.noString, bare.noQuoted, ?_, ?_, ?_, bare.noSpace⟩
      · rintro ⟨rfl, dash⟩
        exact unmarked.line rfl dash
      · rintro ⟨rfl, star⟩
        exact unmarked.block rfl star
      · have noDigit : c.isDigit = false := by simpa [startsNumber] using bare.noNumber
        cases starts : startsNumber c rest with
        | false => exact starts
        | true =>
          obtain ⟨rfl, follows⟩ := by simpa [startsNumber, noDigit] using starts
          obtain ⟨d, head, digit⟩ := (Option.any_eq_true _ _).1 follows
          simp [unmarked.number rfl d head] at digit

theorem bare_of_mem_operators {operator : List Char} (member : operator ∈ operators) :
    ∃ c tail, operator = c :: tail ∧ Bare c tail := by
  have all : ∀ operator ∈ operators, operator = operator.headD ' ' :: operator.tail ∧
      Bare (operator.headD ' ') operator.tail := by decide
  exact ⟨_, _, all operator member⟩

theorem stands_operator_iff : Stands ⟨.operator, text⟩ rest ↔
    Form ⟨.operator, text⟩ ∧ Fits ⟨.operator, text⟩ rest := by
  constructor
  · rintro ⟨c, tail, rfl, rule⟩
    obtain ⟨bare, operator, found, parts⟩ := rule_operator_iff.1 rule
    obtain ⟨rfl, -⟩ := Prod.mk.inj parts
    obtain ⟨member, -, longest⟩ := operator?_eq_some_iff.1 found
    exact ⟨member, (bare_append_iff.1 bare).2, longest⟩
  · rintro ⟨member, unmarked, apart⟩
    obtain ⟨c, tail, rfl, bare⟩ := bare_of_mem_operators member
    have found := operator?_eq_some_iff.2 ⟨member, List.prefix_append _ rest, apart⟩
    refine ⟨c, tail, rfl, rule_operator_iff.2 ⟨bare_append_iff.2 ⟨bare, unmarked⟩, _, found, ?_⟩⟩
    simp

theorem operator?_append_eq_none_iff :
    operator? (text ++ rest) = none ↔ operator? text = none ∧ Apart text rest := by
  simp only [operator?_eq_none_iff]
  constructor
  · intro absent
    constructor
    · intro operator member front
      exact absent operator member (front.trans (List.prefix_append _ _))
    · intro operator member front
      exact absurd front (absent operator member)
  · rintro ⟨absent, apart⟩ operator member front
    exact absent operator member (List.prefix_of_prefix_length_le front (List.prefix_append _ _)
      (apart operator member front))

theorem stands_name_iff : Stands ⟨.identifier, text⟩ rest ↔
    Form ⟨.identifier, text⟩ ∧ Fits ⟨.identifier, text⟩ rest := by
  constructor
  · rintro ⟨c, tail, rfl, rule⟩
    obtain ⟨bare, absent, parts⟩ := rule_name_iff.1 rule
    obtain ⟨bareAlone, unmarked⟩ := bare_append_iff.1 bare
    rw [← List.cons_append] at absent
    obtain ⟨absentAlone, apart⟩ := operator?_append_eq_none_iff.1 absent
    obtain ⟨continues, ends⟩ := (takeWhile_append_iff _ _ _).1 (onto_one_iff.1 parts.symm)
    exact ⟨⟨c, tail, rfl, bareAlone, absentAlone, continues⟩, unmarked, apart, ends⟩
  · rintro ⟨⟨c, tail, rfl, bare, absent, continues⟩, unmarked, apart, ends⟩
    have taken := (takeWhile_append_iff _ _ _).2 ⟨continues, ends⟩
    exact ⟨c, tail, rfl, rule_name_iff.2 ⟨bare_append_iff.2 ⟨bare, unmarked⟩,
      operator?_append_eq_none_iff.2 ⟨absent, apart⟩, (onto_one_iff.2 taken).symm⟩⟩

end Kinds

theorem stands_iff_form (lexeme : Lexeme) (rest : List Char) :
    Stands lexeme rest ↔ Form lexeme ∧ Fits lexeme rest := by
  obtain ⟨kind, text⟩ := lexeme
  cases kind with
  | whitespace => exact stands_space_iff
  | lineComment => exact stands_line_iff
  | blockComment => exact stands_block_iff
  | identifier => exact stands_name_iff
  | quotedIdentifier => exact stands_quote_iff rule_quoted_iff
  | stringLiteral => exact stands_quote_iff rule_string_iff
  | numeric => exact stands_number_iff
  | operator => exact stands_operator_iff
  | endOfInput =>
    constructor
    · rintro ⟨c, tail, -, rule⟩
      exact absurd rfl rule.kind_ne
    · rintro ⟨form, -⟩
      exact form.elim

end SqlRoutes.Sql
