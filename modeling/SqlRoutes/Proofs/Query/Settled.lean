import SqlRoutes.Proofs.Query.Exchange

/-!
Texts that have been rewritten. No bind variable is left in them and none has come about, so that
rewriting them again changes nothing. Between other markers the lexemes stay as they were; question
marks may join up with each other and a bracket behind them, and `lexemes_splice_question` says that
nothing else happens.
-/
namespace SqlRoutes.Query

open Sql

theorem splice_of_no_names {sql : List Char} (none : variableNames (lexemes sql) = [])
    (q : Placeholder) : splice sql q = (sql, []) := by
  rw [splice_eq_substitute, substitute_of_no_names none, lexemes_joined, none]

theorem head?_render {p : Placeholder} (written : p.passthrough = false) (text : List Char)
    (index : Int) : (p.render text index).head? = some p.marker := by
  cases style : p.style <;> simp [Placeholder.render, written, style]

theorem variableNames_exchange {p : Placeholder} (own : p.marker ≠ ':') (index : Nat)
    (found : List Lexeme) : variableNames (exchange p index found) = [] := by
  have written : p.passthrough = false := by simp [Placeholder.passthrough, bindMarker, own]
  induction found generalizing index with
  | nil => rfl
  | cons lexeme found ih =>
    cases bind : isVariable lexeme.kind lexeme.text with
    | false => rw [exchange_other bind, variableNames_other bind, ih]
    | true =>
      have other : isVariable .identifier (p.render lexeme.text index) = false := by
        simp [isVariable, head?_render written, bindMarker, own]
      rw [exchange_bind bind, variableNames_other other, ih]

def question : Lexeme := ⟨.identifier, ['?']⟩

def brackets : List Char := ['(', ')']

/-- A lexeme before others: two question marks and a bracket are one operator. -/
def join (lexeme : Lexeme) : List Lexeme → List Lexeme
  | second :: ⟨.operator, [d]⟩ :: found =>
    if lexeme = question ∧ second = question ∧ d ∈ brackets then
      ⟨.operator, ['?', '?', d]⟩ :: found
    else lexeme :: second :: ⟨.operator, [d]⟩ :: found
  | found => lexeme :: found

/-- The row with all question marks and brackets joined up that can be. -/
def joined : List Lexeme → List Lexeme
  | [] => []
  | lexeme :: found => join lexeme (joined found)

section Joining

variable {lexeme : Lexeme} {found : List Lexeme} {d : Char}

theorem join_bracket (closing : d ∈ brackets) (found : List Lexeme) :
    join question (question :: ⟨.operator, [d]⟩ :: found) =
      ⟨.operator, ['?', '?', d]⟩ :: found := by
  simp [join, closing]

theorem join_cases (lexeme : Lexeme) (found : List Lexeme) :
    (∃ d ∈ brackets, ∃ later, lexeme = question ∧ found = question :: ⟨.operator, [d]⟩ :: later) ∨
      join lexeme found = lexeme :: found := by
  unfold join
  split
  · next second d later =>
    by_cases joins : lexeme = question ∧ second = question ∧ d ∈ brackets
    · obtain ⟨rfl, rfl, closing⟩ := joins
      exact .inl ⟨d, closing, later, rfl, rfl⟩
    · exact .inr (if_neg joins)
  · exact .inr rfl

theorem flatten_join (lexeme : Lexeme) (found : List Lexeme) :
    ((join lexeme found).map (·.text)).flatten =
      lexeme.text ++ (found.map (·.text)).flatten := by
  rcases join_cases lexeme found with ⟨d, closing, later, rfl, rfl⟩ | kept
  · rw [join_bracket closing]
    rfl
  · rw [kept, List.map_cons, List.flatten_cons]

theorem flatten_joined (found : List Lexeme) :
    ((joined found).map (·.text)).flatten = (found.map (·.text)).flatten := by
  induction found with
  | nil => rfl
  | cons lexeme found ih => rw [joined, flatten_join, ih, List.map_cons, List.flatten_cons]

theorem variableNames_join (lexeme : Lexeme) (found : List Lexeme) :
    variableNames (join lexeme found) = variableNames (lexeme :: found) := by
  rcases join_cases lexeme found with ⟨d, closing, later, rfl, rfl⟩ | kept
  · rw [join_bracket closing]
    rfl
  · rw [kept]

theorem variableNames_joined (found : List Lexeme) :
    variableNames (joined found) = variableNames found := by
  induction found with
  | nil => rfl
  | cons lexeme found ih =>
    calc variableNames (join lexeme (joined found))
        = variableNames ([lexeme] ++ joined found) := variableNames_join lexeme (joined found)
      _ = variableNames ([lexeme] ++ found) := by
        rw [variableNames_append, variableNames_append, ih]

theorem eq_of_mem_brackets (closing : d ∈ brackets) : d = '(' ∨ d = ')' := by
  simpa [brackets] using closing

theorem split_bracket (closing : d ∈ brackets) (rest : List Char) :
    split d rest = (.operator, [d], rest) := by
  rcases eq_of_mem_brackets closing with rfl | rfl <;> rfl

theorem continuesName_bracket (closing : d ∈ brackets) : continuesName d = false := by
  rcases eq_of_mem_brackets closing with rfl | rfl <;> rfl

theorem joins_bracket (closing : d ∈ brackets) : ['?', '?', d] ∈ operators := by
  rcases eq_of_mem_brackets closing with rfl | rfl <;> decide

theorem eq_bracket {rest tail : List Char} (stands : Stands lexeme rest) (closing : d ∈ brackets)
    (text : lexeme.text = d :: tail) : lexeme = ⟨.operator, [d]⟩ := by
  have scanned := stands.split text
  rw [split_bracket closing] at scanned
  obtain ⟨kind, parts⟩ := Prod.mk.inj scanned
  rw [kind, (Prod.mk.inj parts).1]

theorem eq_question {rest tail more : List Char} (stands : Stands lexeme rest)
    (text : lexeme.text = '?' :: tail) (closing : d ∈ brackets) (next : tail ++ rest = d :: more) :
    lexeme = question := by
  obtain ⟨kind, _⟩ := lexeme
  dsimp only at text
  subst text
  by_cases named : kind = .identifier
  · subst named
    obtain ⟨c, word, parts, -, -, continues⟩ := ((stands_iff_form _ _).1 stands).1
    obtain ⟨rfl, rfl⟩ := List.cons.inj parts
    cases tail with
    | nil => rfl
    | cons e tail =>
      obtain ⟨rfl, -⟩ := List.cons.inj next
      cases (continuesName_bracket closing).symm.trans (continues e (.head _))
  · have own := question_text stands rfl named
    rcases (by simpa using own : tail = ['?', '('] ∨ tail = ['?', ')']) with rfl | rfl
    all_goals
      obtain ⟨rfl, -⟩ := List.cons.inj next
      simp [brackets] at closing

theorem eq_question_cons {more : List Char} (standing : Standing [] found) (closing : d ∈ brackets)
    (reach : (found.map (·.text)).flatten ++ [] = '?' :: d :: more) :
    ∃ later, found = question :: ⟨.operator, [d]⟩ :: later := by
  cases found with
  | nil => cases reach
  | cons second found =>
    obtain ⟨stands, standing⟩ := standing
    obtain ⟨c, tail, text⟩ := List.exists_cons_of_ne_nil stands.ne_nil
    rw [List.map_cons, List.flatten_cons, text, List.append_assoc, List.cons_append] at reach
    obtain ⟨rfl, next⟩ := List.cons.inj reach
    obtain rfl := eq_question stands text closing next
    obtain rfl : [] = tail := (List.cons.inj text).2
    cases found with
    | nil => cases next
    | cons third found =>
      obtain ⟨e, tail, text⟩ := List.exists_cons_of_ne_nil standing.1.ne_nil
      rw [List.nil_append, List.map_cons, List.flatten_cons, text] at next
      obtain ⟨rfl, -⟩ := List.cons.inj next
      exact ⟨found, by rw [eq_bracket standing.1 closing text]⟩

theorem operator_of_question {operator : List Char} (member : operator ∈ operators)
    (head : operator.head? = some '?') : ∃ d ∈ brackets, operator = ['?', '?', d] := by
  have all : ∀ operator ∈ operators, operator.head? = some '?' →
      operator = ['?', '?', '('] ∨ operator = ['?', '?', ')'] := by decide
  rcases all operator member head with rfl | rfl
  · exact ⟨'(', by decide, rfl⟩
  · exact ⟨')', by decide, rfl⟩

theorem standing_join_question (standing : Standing [] found)
    (ends : ∀ c ∈ ((found.map Lexeme.text).flatten ++ []).head?, continuesName c = false) :
    Standing [] (join question found) := by
  have unmarked (text rest : List Char) : Unmarked ('?' :: text) rest :=
    ⟨by simp, by simp, by simp⟩
  by_cases joins : ∃ d ∈ brackets, ∃ later, found = question :: ⟨.operator, [d]⟩ :: later
  · obtain ⟨d, closing, later, rfl⟩ := joins
    have short : ∀ operator ∈ operators, operator.length ≤ 3 := by decide
    rw [join_bracket closing]
    exact ⟨(stands_iff_form _ _).2 ⟨joins_bracket closing, unmarked _ _, fun operator present _ =>
      short operator present⟩, standing.2.2⟩
  · have apart : Apart ['?'] ((found.map (·.text)).flatten ++ []) := by
      intro operator member front
      obtain ⟨c, tail, rfl, -⟩ := bare_of_mem_operators member
      obtain ⟨rfl, reach⟩ := List.cons_prefix_cons.1 front
      obtain ⟨d, closing, same⟩ := operator_of_question member rfl
      obtain ⟨more, whole⟩ := reach
      rw [(List.cons.inj same).2] at whole
      obtain ⟨later, row⟩ := eq_question_cons standing closing whole.symm
      exact absurd ⟨d, closing, later, row⟩ joins
    have kept : join question found = question :: found := by
      refine (join_cases question found).resolve_left ?_
      rintro ⟨d, closing, later, -, row⟩
      exact joins ⟨d, closing, later, row⟩
    rw [kept]
    refine ⟨(stands_iff_form _ _).2 ⟨?_, unmarked _ _, apart, ends⟩, standing⟩
    exact ⟨'?', [], rfl, by decide, by decide, by simp⟩

end Joining

theorem ends_of_departs {mark : Char} {first second : List Char} (inert : Mark mark)
    (departs : Departs mark first second) (ends : ∀ c ∈ first.head?, continuesName c = false) :
    ∀ c ∈ second.head?, continuesName c = false := by
  rcases departs with rfl | ⟨front, tail, other, rfl, rfl⟩
  · exact ends
  · cases front with
    | nil => simpa using inert.delimiter
    | cons c front => exact ends

theorem not_mem_of_ne_question {lexeme : Lexeme} {rest more : List Char}
    (stands : Stands lexeme rest) (other : lexeme ≠ question)
    (member : lexeme.text ++ more ∈ operators) : '?' ∉ more := by
  by_cases named : lexeme.kind = .identifier ∧ lexeme.text.head? = some '?'
  · obtain ⟨kind, text⟩ := lexeme
    obtain ⟨rfl, head⟩ := named
    obtain ⟨c, word, rfl, -, -, continues⟩ := ((stands_iff_form _ _).1 stands).1
    obtain rfl : c = '?' := by simpa using head
    cases word with
    | nil => exact absurd rfl other
    | cons e word =>
      obtain ⟨d, -, same⟩ := operator_of_question member rfl
      obtain ⟨rfl, -⟩ := List.cons.inj (List.cons.inj same).2
      cases continues '?' (.head _)
  · have opens : Opens ⟨.simple, '?'⟩ [lexeme] :=
      .question rfl rfl (by simpa using fun kind head => named ⟨kind, head⟩) (by simp)
    exact opens.free_of_stands stands member

theorem standing_joined_exchange {p : Placeholder} {found : List Lexeme}
    (simple : p.style = .simple) (marker : p.marker = '?') (index : Nat)
    (standing : Standing [] found) : Standing [] (joined (exchange p index found)) := by
  have written : p.passthrough = false := by simp [Placeholder.passthrough, simple]
  have inert : Mark p.marker := by rw [marker]; decide
  induction found generalizing index with
  | nil => trivial
  | cons lexeme found ih =>
    obtain ⟨stands, later⟩ := standing
    have departs (index : Nat) := @departs_exchange p index found written later
    have joins (index : Nat) (named : lexeme.kind = .identifier) :
        Standing [] (join question (joined (exchange p index found))) := by
      have fits : Fits ⟨.identifier, lexeme.text⟩ ((found.map (·.text)).flatten ++ []) :=
        named ▸ ((stands_iff_form _ _).1 stands).2
      refine standing_join_question (ih index later) ?_
      rw [flatten_joined]
      exact ends_of_departs inert (departs index) fits.2.2
    cases bind : isVariable lexeme.kind lexeme.text with
    | true =>
      have mark : p.render lexeme.text index = ['?'] := by
        simp [Placeholder.render, written, simple, marker]
      rw [exchange_bind bind, mark]
      exact joins (index + 1) (isVariable_iff.1 bind).1
    | false =>
      rw [exchange_other bind]
      by_cases lone : lexeme = question
      · subst lone
        exact joins index rfl
      · have kept : join lexeme (joined (exchange p index found)) =
            lexeme :: joined (exchange p index found) := by
          refine (join_cases _ _).resolve_left ?_
          rintro ⟨-, -, -, same, -⟩
          exact lone same
        rw [joined, kept]
        refine ⟨?_, ih index later⟩
        rw [flatten_joined]
        exact stands.departs inert (departs index) fun more member =>
          marker ▸ not_mem_of_ne_question stands lone member

/-- With question marks for the bind variables the text scans as before, a question mark being the
lexeme for each of them, except that question marks join up with brackets where they can. -/
theorem lexemes_splice_question (sql : List Char) {p : Placeholder} (simple : p.style = .simple)
    (marker : p.marker = '?') :
    lexemes (splice sql p).1 = joined (exchange p 0 (lexemes sql)) := by
  rw [splice_eq_substitute, ← map_text_exchange, ← flatten_joined]
  exact lexemes_eq_iff.2
    ⟨rfl, standing_joined_exchange simple marker 0 (standing_lexemes sql)⟩

example : lexemes (splice "?::?:a(::b)".toList ⟨.simple, '?'⟩).1 =
    [question, ⟨.operator, [':', ':']⟩, ⟨.operator, ['?', '?', '(']⟩, ⟨.operator, [':', ':']⟩,
      ⟨.identifier, ['b']⟩, ⟨.operator, [')']⟩] := by decide +kernel

theorem variableNames_splice (sql : List Char) {p : Placeholder}
    (own : p.marker ∈ freeMarkers ∨ p.style = .simple ∧ p.marker = '?') :
    variableNames (lexemes (splice sql p).1) = [] := by
  rcases own with free | ⟨simple, marker⟩
  · have other : p.marker ≠ ':' := by
      intro same
      rw [same] at free
      exact absurd free (by decide)
    rw [lexemes_splice sql p (.inr (.free free)), variableNames_exchange other]
  · rw [lexemes_splice_question sql simple marker, variableNames_joined,
      variableNames_exchange (by rw [marker]; decide)]

/-- Rewriting twice is rewriting once. A placeholder that passes variables through leaves the text
and its names as they are; with any other marker no bind variable is left to be rewritten, and none
has come about. -/
theorem splice_splice (sql : List Char) (p : Placeholder) :
    ((p.style = .named ∨ p.style = .numbered) → p.marker = ':' →
      (splice sql p).1 = sql ∧ splice (splice sql p).1 p = splice sql p) ∧
    (p.marker ∈ ['$', '@', '#', '~', '&', '\x60'] ∨ p.style = .simple ∧ p.marker = '?' →
      ∀ q, splice (splice sql p).1 q = ((splice sql p).1, [])) := by
  constructor
  · intro style marker
    have passes : p.passthrough = true := by
      rcases style with named | numbered
      · simp [Placeholder.passthrough, named, marker, bindMarker]
      · simp [Placeholder.passthrough, numbered, marker, bindMarker]
    have same : (splice sql p).1 = sql := by
      rw [splice_eq_substitute, substitute_passthrough passes, lexemes_joined]
    exact ⟨same, by rw [same]⟩
  · intro own q
    exact splice_of_no_names (variableNames_splice sql own) q

theorem splice_splice_question :
    (splice "?::?:a(::b)".toList ⟨.simple, '?'⟩).1 = "?::??(::b)".toList ∧
      splice "?::??(::b)".toList ⟨.named, ':'⟩ = ("?::??(::b)".toList, []) := by
  have rewritten : (splice "?::?:a(::b)".toList ⟨.simple, '?'⟩).1 = "?::??(::b)".toList := by
    decide +kernel
  obtain ⟨-, settled⟩ := splice_splice "?::?:a(::b)".toList ⟨.simple, '?'⟩
  have again := settled (.inr ⟨rfl, rfl⟩) ⟨.named, ':'⟩
  rw [rewritten] at again
  exact ⟨rewritten, again⟩

end SqlRoutes.Query
