import SqlRoutes.Proofs.Query.Splice
import SqlRoutes.Proofs.Sql.Standing

/-!
Placeholders in the place of bind variables. The text for the driver scans as the configured one
does, with a single identifier for every bind variable: a placeholder joins up with nothing before
or after it, provided that its marker opens it.
-/
namespace SqlRoutes.Query

open Sql

/-- Lexemes with a placeholder for every bind variable, the first of them as occurrence `index`. -/
def exchange (p : Placeholder) (index : Nat) : List Lexeme → List Lexeme
  | [] => []
  | lexeme :: found =>
    if isVariable lexeme.kind lexeme.text then
      ⟨.identifier, p.render lexeme.text index⟩ :: exchange p (index + 1) found
    else lexeme :: exchange p index found

def freeMarkers : List Char := ['$', '@', '#', '~', '&', '\x60']

/-- The marker starts the placeholder and nothing else in the text. A question mark also starts
operators, so it has to stand alone, and apart from another one. -/
inductive Opens (p : Placeholder) (found : List Lexeme) : Prop where
  | free (member : p.marker ∈ freeMarkers)
  | question (simple : p.style = .simple) (marker : p.marker = '?')
      (unused : ∀ lexeme ∈ found, lexeme.kind = .identifier → lexeme.text.head? ≠ some '?')
      (separate : ∀ pair ∈ found.zip found.tail,
        ¬(isVariable pair.1.kind pair.1.text = true ∧ isVariable pair.2.kind pair.2.text = true))

section Rows

variable {p : Placeholder} {index : Nat} {lexeme : Lexeme} {found : List Lexeme}

theorem exchange_bind (bind : isVariable lexeme.kind lexeme.text = true) :
    exchange p index (lexeme :: found) =
      ⟨.identifier, p.render lexeme.text index⟩ :: exchange p (index + 1) found := by
  simp only [exchange, bind, ↓reduceIte]

theorem exchange_other (other : isVariable lexeme.kind lexeme.text = false) :
    exchange p index (lexeme :: found) = lexeme :: exchange p index found := by
  simp only [exchange, other, Bool.false_eq_true, ↓reduceIte]

theorem map_text_exchange : (exchange p index found).map (·.text) = substitute p index found := by
  induction found generalizing index with
  | nil => rfl
  | cons lexeme found ih =>
    cases bind : isVariable lexeme.kind lexeme.text with
    | true => rw [exchange_bind bind, substitute_bind bind, List.map_cons, ih]
    | false => rw [exchange_other bind, substitute_other bind, List.map_cons, ih]

theorem exchange_passthrough (passes : p.passthrough = true) : exchange p index found = found := by
  induction found generalizing index with
  | nil => rfl
  | cons lexeme found ih =>
    cases bind : isVariable lexeme.kind lexeme.text with
    | true =>
      obtain ⟨kind, -⟩ := isVariable_iff.1 bind
      have same : p.render lexeme.text index = lexeme.text := by simp [Placeholder.render, passes]
      rw [exchange_bind bind, same, ih, ← kind]
    | false => rw [exchange_other bind, ih]

theorem Opens.tail (opens : Opens p (lexeme :: found)) : Opens p found := by
  cases opens with
  | free member => exact .free member
  | question simple marker unused separate =>
    refine .question simple marker (fun other member => unused other (.tail _ member)) ?_
    cases found with
    | nil => simp
    | cons next found => exact fun pair member => separate pair (.tail _ member)

theorem Opens.mark (opens : Opens p found) : Mark p.marker := by
  cases opens with
  | free member =>
    have all : (freeMarkers.all fun marker => Mark marker) = true := by decide
    simpa using List.all_eq_true.1 all _ member
  | question simple marker => rw [marker]; decide

theorem Opens.written (opens : Opens p found) : p.passthrough = false := by
  cases opens with
  | free member =>
    have all : ∀ marker ∈ freeMarkers, marker ≠ bindMarker := by simp [freeMarkers, bindMarker]
    simp [Placeholder.passthrough, all _ member]
  | question simple => simp [Placeholder.passthrough, simple]

theorem bind_text {rest : List Char} (stands : Stands lexeme rest)
    (bind : isVariable lexeme.kind lexeme.text = true) :
    ∃ word, lexeme = ⟨.identifier, ':' :: word⟩ ∧ ∀ c ∈ word, continuesName c = true := by
  obtain ⟨kind, text⟩ := lexeme
  obtain ⟨rfl, head⟩ := isVariable_iff.1 bind
  obtain ⟨c, word, rfl, -, -, continues⟩ := ((stands_iff_form _ rest).1 stands).1
  obtain rfl : c = ':' := by simpa using head
  exact ⟨word, rfl, continues⟩

theorem continuesName_of_isDigit {c : Char} (digit : c.isDigit = true) :
    continuesName c = true := by
  cases continues : continuesName c with
  | true => rfl
  | false => simp [isDigit_of_delimiter continues] at digit

theorem not_mem_operator {marker : Char} (free : marker ∈ freeMarkers) {operator : List Char}
    (member : operator ∈ operators) : marker ∉ operator := by
  have all : ∀ marker ∈ freeMarkers, ∀ operator ∈ operators, marker ∉ operator := by
    simp [freeMarkers, operators, threeCharOperators, twoCharOperators, oneCharOperators]
  exact all marker free operator member

theorem render_word (written : p.passthrough = false) {word : List Char}
    (continues : ∀ c ∈ word, continuesName c = true) (index : Nat) :
    ∃ name, p.render (':' :: word) index = p.marker :: name ∧
      (∀ c ∈ name, continuesName c = true) ∧ (p.style = .simple → name = []) := by
  cases style : p.style with
  | simple => exact ⟨[], by simp [Placeholder.render, written, style], by simp, fun _ => rfl⟩
  | numbered =>
    refine ⟨_, render_numbered style written (':' :: word) index, ?_, by simp⟩
    intro c member
    rw [Nat.toList_repr] at member
    exact continuesName_of_isDigit (Nat.isDigit_of_mem_toDigits (by decide) (by decide) member)
  | named =>
    exact ⟨word, by simp [Placeholder.render, written, style], continues, by simp⟩

theorem question_text {rest : List Char} (stands : Stands lexeme rest)
    (head : lexeme.text.head? = some '?') (unused : lexeme.kind ≠ .identifier) :
    lexeme.text ∈ [['?', '?', '('], ['?', '?', ')']] := by
  obtain ⟨kind, text⟩ := lexeme
  obtain ⟨c, tail, rfl, rule⟩ := stands
  obtain rfl : c = '?' := by simpa using head
  dsimp only at rule unused
  generalize parts : ('?' :: tail, rest) = parts at rule
  cases rule with
  | number starts => simp [startsNumber] at starts
  | space space => simp [isSpace] at space
  | operator bare found =>
    obtain ⟨same, -⟩ := Prod.mk.inj parts
    have all : ∀ operator ∈ operators, operator.head? = some '?' →
        operator ∈ [['?', '?', '('], ['?', '?', ')']] := by decide
    exact all _ (operator?_eq_some_iff.1 (same ▸ found)).1 rfl
  | name bare absent => exact absurd rfl unused

theorem Opens.free_of_stands {rest : List Char} (opens : Opens p (lexeme :: found))
    (stands : Stands lexeme rest) {more : List Char} (member : lexeme.text ++ more ∈ operators) :
    p.marker ∉ more := by
  cases opens with
  | free marker =>
    exact fun inside => not_mem_operator marker member (List.mem_append_right _ inside)
  | question simple marker unused =>
    rw [marker]
    intro inside
    have opening : ∀ operator ∈ operators, '?' ∈ operator.tail → operator.head? = some '?' := by
      decide
    have short : ∀ operator ∈ operators, operator.length ≤ 3 := by decide
    have long : ∀ operator ∈ [['?', '?', '('], ['?', '?', ')']], operator.length = 3 := by decide
    obtain ⟨c, tail, text⟩ := List.exists_cons_of_ne_nil stands.ne_nil
    have head : lexeme.text.head? = some '?' := by
      have starts := opening _ member (by simp [text, inside])
      simpa [text] using starts
    have own := long _ (question_text stands head fun kind => unused lexeme (.head _) kind head)
    have whole := short _ member
    have filled := List.length_pos_of_mem inside
    rw [List.length_append] at whole
    omega

theorem departs_exchange (written : p.passthrough = false) (standing : Standing [] found) :
    Departs p.marker ((found.map (·.text)).flatten ++ [])
      (((exchange p index found).map (·.text)).flatten ++ []) := by
  induction found generalizing index with
  | nil => exact .inl rfl
  | cons lexeme found ih =>
    obtain ⟨stands, later⟩ := standing
    cases bind : isVariable lexeme.kind lexeme.text with
    | true =>
      obtain ⟨word, rfl, continues⟩ := bind_text stands bind
      obtain ⟨name, text, -⟩ := render_word written continues index
      rw [exchange_bind bind]
      exact .inr ⟨[], _, _, rfl, by simp only [List.map_cons, List.flatten_cons, text]; rfl⟩
    | false =>
      rw [exchange_other bind]
      simpa using (ih later).append lexeme.text

theorem Opens.apart (index : Nat) (opens : Opens p (lexeme :: found))
    (standing : Standing [] (lexeme :: found))
    (bind : isVariable lexeme.kind lexeme.text = true) {name : List Char}
    (short : p.style = .simple → name = []) :
    operator? (p.marker :: name) = none ∧
      Apart (p.marker :: name) (((exchange p index found).map (·.text)).flatten ++ []) := by
  rw [← operator?_append_eq_none_iff, operator?_eq_none_iff, List.cons_append]
  intro operator member front
  obtain ⟨c, tail, rfl, -⟩ := bare_of_mem_operators member
  obtain ⟨rfl, reach⟩ := List.cons_prefix_cons.1 front
  cases opens with
  | free marker => exact not_mem_operator marker member (.head _)
  | question simple marker unused separate =>
    rw [short simple, List.nil_append, List.append_nil] at reach
    have shapes : ∀ operator ∈ operators, operator.head? = some '?' →
        ∃ d ∈ ['(', ')'], operator.tail = ['?', d] := by
      simp [operators, threeCharOperators, twoCharOperators, oneCharOperators]
    obtain ⟨d, closing, shape⟩ := shapes _ member (by rw [marker]; rfl)
    obtain rfl : tail = ['?', d] := shape
    -- A next lexeme with the second question mark is an operator and goes on with a third one.
    cases found with
    | nil => simp [exchange] at reach
    | cons next found =>
      have other : isVariable next.kind next.text = false := by
        cases both : isVariable next.kind next.text with
        | false => rfl
        | true => exact absurd ⟨bind, both⟩ (separate (lexeme, next) (.head _))
      obtain ⟨e, more, text⟩ := List.exists_cons_of_ne_nil standing.2.1.ne_nil
      rw [exchange_other other, List.map_cons, List.flatten_cons, text, List.cons_append] at reach
      obtain ⟨rfl, follows⟩ := List.cons_prefix_cons.1 reach
      have head : next.text.head? = some '?' := by rw [text]; rfl
      have own := question_text standing.2.1 head
        fun kind => unused next (.tail _ (.head _)) kind head
      have second : more.head? = some '?' := by
        rw [text] at own
        rcases (by simpa using own : more = ['?', '('] ∨ more = ['?', ')']) with rfl | rfl <;> rfl
      obtain ⟨others, rfl⟩ := List.head?_eq_some_iff.1 second
      obtain ⟨rfl, -⟩ := List.cons_prefix_cons.1 follows
      simp at closing

theorem bare_marker (opens : Opens p found) (name : List Char) : Bare p.marker name := by
  have marks : p.marker ∈ ['$', '@', '#', '~', '&', '\x60', '?'] := by
    cases opens with
    | free member => exact List.mem_append_left ['?'] member
    | question simple marker => rw [marker]; decide
  simp only [List.mem_cons, List.not_mem_nil, or_false] at marks
  constructor
  all_goals rcases marks with same | same | same | same | same | same | same <;> rw [same]
  all_goals simp [startsNumber, isSpace]

theorem standing_exchange (opens : Opens p found) (standing : Standing [] found) :
    Standing [] (exchange p index found) := by
  induction found generalizing index with
  | nil => trivial
  | cons lexeme found ih =>
    obtain ⟨stands, later⟩ := standing
    have before (index : Nat) : Stands lexeme
        (((exchange p index found).map (·.text)).flatten ++ []) :=
      stands.departs opens.mark (departs_exchange opens.written later)
        fun more member => opens.free_of_stands stands member
    cases bind : isVariable lexeme.kind lexeme.text with
    | false =>
      rw [exchange_other bind]
      exact ⟨before index, ih opens.tail later⟩
    | true =>
      -- Where the variable ended, the placeholder ends: the text behind changes alike for both.
      rw [exchange_bind bind]
      refine ⟨?_, ih opens.tail later⟩
      obtain ⟨word, rfl, continues⟩ := bind_text stands bind
      obtain ⟨name, text, nameContinues, short⟩ := render_word opens.written continues index
      obtain ⟨absent, apart⟩ := opens.apart (index + 1) ⟨stands, later⟩ bind short
      obtain ⟨-, -, ends⟩ := ((stands_iff_form _ _).1 (before (index + 1))).2
      have bare (more : List Char) := bare_marker opens more
      rw [text]
      exact (stands_iff_form _ _).2 ⟨⟨_, name, rfl, bare name, absent, nameContinues⟩,
        (bare_append_iff.1 (bare _)).2, apart, ends⟩

end Rows

/-- The text for the driver has the lexemes of the configured one, with placeholders for the bind
variables. -/
theorem lexemes_splice (sql : List Char) (p : Placeholder)
    (opens : p.passthrough = true ∨ Opens p (lexemes sql)) :
    lexemes (splice sql p).1 = exchange p 0 (lexemes sql) := by
  rw [splice_eq_substitute, ← map_text_exchange]
  rcases opens with passes | opens
  · rw [exchange_passthrough passes, lexemes_joined]
  · exact lexemes_eq_iff.2 ⟨rfl, standing_exchange opens (standing_lexemes sql)⟩

theorem exchange_end (p : Placeholder) (index : Nat) (found : List Lexeme) :
    exchange p index (found ++ [⟨.endOfInput, []⟩]) =
      exchange p index found ++ [⟨.endOfInput, []⟩] := by
  induction found generalizing index with
  | nil => rfl
  | cons lexeme found ih =>
    rw [List.cons_append]
    cases bind : isVariable lexeme.kind lexeme.text with
    | true => rw [exchange_bind bind, exchange_bind bind, ih, List.cons_append]
    | false => rw [exchange_other bind, exchange_other bind, ih, List.cons_append]

theorem mem_zip_tail_append {α : Type} {first : List α} {pair : α × α}
    (member : pair ∈ first.zip first.tail) (second : List α) :
    pair ∈ (first ++ second).zip (first ++ second).tail := by
  induction first with
  | nil => simp at member
  | cons a first ih =>
    cases first with
    | nil => simp at member
    | cons b first =>
      rcases List.mem_cons.1 member with rfl | later
      · exact .head _
      · exact .tail _ (ih later)

theorem opens_of_tokens {sql : List Char} {p : Placeholder} (simple : p.style = .simple)
    (marker : p.marker = '?')
    (unused : ∀ token ∈ tokens sql, token.kind = .identifier → token.text.head? ≠ some '?')
    (separate : ∀ pair ∈ (tokens sql).zip (tokens sql).tail,
      ¬(isBind pair.1 = true ∧ isBind pair.2 = true)) :
    Opens p (lexemes sql) := by
  refine .question simple marker ?_ ?_
  · intro lexeme member kind
    have inTokens : lexeme ∈ (tokens sql).map lexemeOf := by
      rw [map_lexemeOf_tokens]
      exact List.mem_append_left _ member
    obtain ⟨token, tokenMember, rfl⟩ := List.mem_map.1 inTokens
    exact unused token tokenMember kind
  · intro pair member
    have inTokens := mem_zip_tail_append member [⟨.endOfInput, []⟩]
    rw [← map_lexemeOf_tokens, ← List.map_tail, List.zip_map] at inTokens
    obtain ⟨tokenPair, tokenMember, rfl⟩ := List.mem_map.1 inTokens
    exact separate tokenPair tokenMember

theorem tokens_splice (sql : List Char) (p : Placeholder)
    (opens : p.passthrough = true ∨ Opens p (lexemes sql)) :
    (tokens (splice sql p).1).map lexemeOf = exchange p 0 ((tokens sql).map lexemeOf) := by
  rw [map_lexemeOf_tokens, map_lexemeOf_tokens, exchange_end, lexemes_splice sql p opens]

/-- What every token becomes: a bind variable the single identifier that its placeholder is, and any
other token itself. The occurrence is counted by the bind variables before it. -/
def exchanged (p : Placeholder) (found : List Token) : List Lexeme :=
  found.mapIdx fun k token =>
    if isBind token then
      ⟨.identifier, p.render token.text ((found.take k).countP isBind : Nat)⟩
    else lexemeOf token

theorem exchange_eq_mapIdx (p : Placeholder) (index : Nat) (found : List Token) :
    exchange p index (found.map lexemeOf) = found.mapIdx fun k token =>
      if isBind token then
        ⟨.identifier, p.render token.text (index + (found.take k).countP isBind : Nat)⟩
      else lexemeOf token := by
  induction found generalizing index with
  | nil => rfl
  | cons token found ih =>
    rw [List.map_cons, List.mapIdx_cons]
    cases bind : isBind token with
    | true =>
      rw [exchange_bind bind, ih]
      simp [bind, lexemeOf, Nat.add_comm, Nat.add_left_comm]
    | false =>
      rw [exchange_other bind, ih]
      simp [bind]

/-- The text for the driver has the tokens of the configured one, with one identifier in the place
of each bind variable: a placeholder neither joins up with its neighbours nor changes what they
are. -/
theorem tokens_rewritten (sql : List Char) (p : Placeholder)
    (opens : p.marker ∈ ['$', '@', '#', '~', '&', '\x60'] ∨
      p.style = .simple ∧ p.marker = '?' ∧
        (∀ token ∈ tokens sql, token.kind = .identifier → token.text.head? ≠ some '?') ∧
        ∀ pair ∈ (tokens sql).zip (tokens sql).tail,
          ¬(isBind pair.1 = true ∧ isBind pair.2 = true)) :
    (tokens (splice sql p).1).map lexemeOf = exchanged p (tokens sql) := by
  have starts : Opens p (lexemes sql) := by
    rcases opens with free | ⟨simple, marker, unused, separate⟩
    · exact .free free
    · exact opens_of_tokens simple marker unused separate
  rw [tokens_splice sql p (.inr starts), exchange_eq_mapIdx]
  simp only [exchanged, Nat.zero_add]

theorem tokens_rewritten_tight :
    (tokens (splice "-:a-1e:b.".toList ⟨.simple, '?'⟩).1).map lexemeOf =
      [⟨.operator, ['-']⟩, ⟨.identifier, ['?']⟩, ⟨.operator, ['-']⟩, ⟨.numeric, ['1', 'e']⟩,
        ⟨.identifier, ['?']⟩, ⟨.operator, ['.']⟩, ⟨.endOfInput, []⟩] := by
  have scanned : tokens "-:a-1e:b.".toList =
      [⟨.operator, 0, ['-']⟩, ⟨.identifier, 1, [':', 'a']⟩, ⟨.operator, 3, ['-']⟩,
        ⟨.numeric, 4, ['1', 'e']⟩, ⟨.identifier, 6, [':', 'b']⟩, ⟨.operator, 8, ['.']⟩,
        ⟨.endOfInput, 9, []⟩] := by decide +kernel
  have unused : ∀ token ∈ tokens "-:a-1e:b.".toList, token.kind = .identifier →
      token.text.head? ≠ some '?' := by
    rw [scanned]
    decide
  have separate : ∀ pair ∈ (tokens "-:a-1e:b.".toList).zip (tokens "-:a-1e:b.".toList).tail,
      ¬(isBind pair.1 = true ∧ isBind pair.2 = true) := by
    rw [scanned]
    decide
  rw [tokens_rewritten _ _ (.inr ⟨rfl, rfl, unused, separate⟩), scanned]
  rfl

end SqlRoutes.Query
