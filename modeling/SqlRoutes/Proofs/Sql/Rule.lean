import SqlRoutes.Proofs.Sql.Operator

/-!
The lexical rules, one for each kind of lexeme. `split` decides between them in a fixed order; here
each rule says on its own when it applies and what it takes, and `split_eq_iff` says that the order
is right: of all rules exactly one applies, and it is the one that is used.
-/
namespace SqlRoutes.Sql

structure Bare (c : Char) (rest : List Char) : Prop where
  noString : c ≠ '\''
  noQuoted : c ≠ '"'
  noLineComment : ¬(c = '-' ∧ rest.head? = some '-')
  noBlockComment : ¬(c = '/' ∧ rest.head? = some '*')
  noNumber : startsNumber c rest = false
  noSpace : isSpace c = false

instance (c : Char) (rest : List Char) : Decidable (Bare c rest) :=
  decidable_of_iff
    (c ≠ '\'' ∧ c ≠ '"' ∧ ¬(c = '-' ∧ rest.head? = some '-') ∧
      ¬(c = '/' ∧ rest.head? = some '*') ∧ startsNumber c rest = false ∧ isSpace c = false)
    ⟨fun ⟨string, quoted, line, block, number, space⟩ =>
        ⟨string, quoted, line, block, number, space⟩,
      fun ⟨string, quoted, line, block, number, space⟩ =>
        ⟨string, quoted, line, block, number, space⟩⟩

/-- `Rule c rest kind parts`: the lexeme that starts with `c` before `rest` is of this kind and
reaches as far as `parts` says. -/
inductive Rule : Char → List Char → Kind → List Char × List Char → Prop where
  | string (rest : List Char) :
      Rule '\'' rest .stringLiteral (onto ['\''] (splitQuoted '\'' rest))
  | quoted (rest : List Char) :
      Rule '"' rest .quotedIdentifier (onto ['"'] (splitQuoted '"' rest))
  | line (rest : List Char) :
      Rule '-' ('-' :: rest) .lineComment (onto ['-'] (splitLine ('-' :: rest)))
  | block (rest : List Char) :
      Rule '/' ('*' :: rest) .blockComment (onto ['/', '*'] (splitComment 0 rest))
  | number {c : Char} {rest : List Char} (starts : startsNumber c rest = true) :
      Rule c rest .numeric (splitNumber false false (c :: rest))
  | space {c : Char} {rest : List Char} (space : isSpace c = true) :
      Rule c rest .whitespace (onto [c] (rest.takeWhile isSpace, rest.dropWhile isSpace))
  | operator {c : Char} {rest operator : List Char} (bare : Bare c rest)
      (found : operator? (c :: rest) = some operator) :
      Rule c rest .operator (operator, (c :: rest).drop operator.length)
  | name {c : Char} {rest : List Char} (bare : Bare c rest)
      (absent : operator? (c :: rest) = none) :
      Rule c rest .identifier (onto [c] (splitName rest))

theorem rule_split (c : Char) (rest : List Char) :
    Rule c rest (split c rest).1 (split c rest).2 := by
  unfold split
  split
  · next same => subst same; exact .string rest
  next noString =>
  split
  · next same => subst same; exact .quoted rest
  next noQuoted =>
  split
  · next opens =>
    obtain ⟨rfl, dash⟩ := by simpa using opens
    obtain ⟨tail, rfl⟩ := List.head?_eq_some_iff.1 dash
    exact .line tail
  next noLine =>
  split
  · next opens =>
    obtain ⟨rfl, star⟩ := by simpa using opens
    obtain ⟨tail, rfl⟩ := List.head?_eq_some_iff.1 star
    exact .block tail
  next noBlock =>
  split
  · next starts => exact .number starts
  next noNumber =>
  split
  · next space => exact .space space
  next noSpace =>
  have bare : Bare c rest :=
    { noString, noQuoted
      noLineComment := by simpa using noLine
      noBlockComment := by simpa using noBlock
      noNumber := by simpa using noNumber
      noSpace := by simpa using noSpace }
  split
  · unfold splitOperator
    split
    · next found => exact .operator bare found
    · next absent => exact .name bare absent
  · next other => exact .name bare (operator?_of_start rest (by simpa using other))

/-- What does not start like an operator has none at the front, so nothing is lost when no table is
asked. -/
theorem split_of_bare {c : Char} {rest : List Char} (bare : Bare c rest) :
    split c rest = splitOperator c rest := by
  have asked : split c rest = if operatorStarts.contains c then splitOperator c rest
      else (.identifier, onto [c] (splitName rest)) := by
    simp [split, bare.noString, bare.noQuoted, bare.noLineComment, bare.noBlockComment,
      bare.noNumber, bare.noSpace]
  rw [asked]
  split
  · rfl
  · next other => rw [splitOperator, operator?_of_start rest (by simpa using other)]

theorem startsNumber_ne (mark : Char) {c : Char} {rest : List Char}
    (starts : startsNumber c rest = true) (noDigit : mark.isDigit = false) (noPoint : mark ≠ '.') :
    c ≠ mark := by
  rintro rfl
  simp [startsNumber, noDigit, noPoint] at starts

theorem guards_of_isSpace {c : Char} (rest : List Char) (space : isSpace c = true) :
    c ≠ '\'' ∧ c ≠ '"' ∧ c ≠ '-' ∧ c ≠ '/' ∧ startsNumber c rest = false := by
  simp only [isSpace, Bool.or_eq_true, decide_eq_true_eq] at space
  rcases space with ((rfl | rfl) | rfl) | rfl <;> simp [startsNumber]

/-- The rules do not overlap, so their order in `split` does not matter. -/
theorem split_of_rule {c : Char} {rest : List Char} {kind : Kind} {parts : List Char × List Char}
    (rule : Rule c rest kind parts) : split c rest = (kind, parts) := by
  cases rule with
  | string => rfl
  | quoted => rfl
  | line => rfl
  | block => rfl
  | number starts =>
    have noString := startsNumber_ne '\'' starts rfl (by decide)
    have noQuoted := startsNumber_ne '"' starts rfl (by decide)
    have noDash := startsNumber_ne '-' starts rfl (by decide)
    have noSlash := startsNumber_ne '/' starts rfl (by decide)
    simp [split, starts, noString, noQuoted, noDash, noSlash]
  | space space =>
    obtain ⟨noString, noQuoted, noDash, noSlash, noNumber⟩ := guards_of_isSpace rest space
    simp [split, space, noNumber, noString, noQuoted, noDash, noSlash]
  | operator bare found => rw [split_of_bare bare, splitOperator, found]
  | name bare absent => rw [split_of_bare bare, splitOperator, absent]

theorem split_eq_iff {c : Char} {rest : List Char} {kind : Kind} {parts : List Char × List Char} :
    split c rest = (kind, parts) ↔ Rule c rest kind parts := by
  constructor
  · intro same
    have rule := rule_split c rest
    rwa [same] at rule
  · exact split_of_rule

theorem Rule.unique {c : Char} {rest : List Char} {kind other : Kind}
    {parts otherParts : List Char × List Char} (rule : Rule c rest kind parts)
    (second : Rule c rest other otherParts) : kind = other ∧ parts = otherParts :=
  Prod.mk.inj ((split_of_rule rule).symm.trans (split_of_rule second))

theorem Rule.kind_ne {c : Char} {rest : List Char} {kind : Kind} {parts : List Char × List Char}
    (rule : Rule c rest kind parts) : kind ≠ .endOfInput := by
  cases rule <;> decide

section Inversion

variable {c : Char} {rest : List Char} {parts : List Char × List Char}

theorem rule_string_iff : Rule c rest .stringLiteral parts ↔
    c = '\'' ∧ parts = onto ['\''] (splitQuoted '\'' rest) := by
  constructor
  · intro rule
    cases rule with
    | string => exact ⟨rfl, rfl⟩
  · rintro ⟨rfl, rfl⟩
    exact .string rest

theorem rule_quoted_iff : Rule c rest .quotedIdentifier parts ↔
    c = '"' ∧ parts = onto ['"'] (splitQuoted '"' rest) := by
  constructor
  · intro rule
    cases rule with
    | quoted => exact ⟨rfl, rfl⟩
  · rintro ⟨rfl, rfl⟩
    exact .quoted rest

theorem rule_line_iff : Rule c rest .lineComment parts ↔
    c = '-' ∧ ∃ tail, rest = '-' :: tail ∧ parts = onto ['-'] (splitLine ('-' :: tail)) := by
  constructor
  · intro rule
    cases rule with
    | line tail => exact ⟨rfl, tail, rfl, rfl⟩
  · rintro ⟨rfl, tail, rfl, rfl⟩
    exact .line tail

theorem rule_block_iff : Rule c rest .blockComment parts ↔
    c = '/' ∧ ∃ tail, rest = '*' :: tail ∧ parts = onto ['/', '*'] (splitComment 0 tail) := by
  constructor
  · intro rule
    cases rule with
    | block tail => exact ⟨rfl, tail, rfl, rfl⟩
  · rintro ⟨rfl, tail, rfl, rfl⟩
    exact .block tail

theorem rule_number_iff : Rule c rest .numeric parts ↔
    startsNumber c rest = true ∧ parts = splitNumber false false (c :: rest) := by
  constructor
  · intro rule
    cases rule with
    | number starts => exact ⟨starts, rfl⟩
  · rintro ⟨starts, rfl⟩
    exact .number starts

theorem rule_space_iff : Rule c rest .whitespace parts ↔
    isSpace c = true ∧ parts = onto [c] (rest.takeWhile isSpace, rest.dropWhile isSpace) := by
  constructor
  · intro rule
    cases rule with
    | space space => exact ⟨space, rfl⟩
  · rintro ⟨space, rfl⟩
    exact .space space

theorem rule_operator_iff : Rule c rest .operator parts ↔
    Bare c rest ∧ ∃ operator, operator? (c :: rest) = some operator ∧
      parts = (operator, (c :: rest).drop operator.length) := by
  constructor
  · intro rule
    cases rule with
    | operator bare found => exact ⟨bare, _, found, rfl⟩
  · rintro ⟨bare, operator, found, rfl⟩
    exact .operator bare found

theorem rule_name_iff : Rule c rest .identifier parts ↔
    Bare c rest ∧ operator? (c :: rest) = none ∧ parts = onto [c] (splitName rest) := by
  constructor
  · intro rule
    cases rule with
    | name bare absent => exact ⟨bare, absent, rfl⟩
  · rintro ⟨bare, absent, rfl⟩
    exact .name bare absent

end Inversion

end SqlRoutes.Sql
