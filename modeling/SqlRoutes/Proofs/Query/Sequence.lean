import SqlRoutes.Proofs.Query.Sealed

/-!
Statements one after the other. No token goes on over a semicolon, except a quote or a comment that
is still open. So the statements on both sides of one are scanned and rewritten each by itself, and
it is only in the numbers of the second that the bind variables of the first count.
-/
namespace SqlRoutes.Query

open Sql

section Marks

variable {mark : Char} {text rest : List Char} {lexeme : Lexeme} {found : List Lexeme}

theorem fits_before_mark {kind : Kind} (inert : Mark mark)
    (free : ∀ more, text ++ more ∈ operators → mark ∉ more)
    (ends : kind ∈ sealedKinds → Terminated ⟨kind, text⟩) (fits : Fits ⟨kind, text⟩ []) :
    Fits ⟨kind, text⟩ (mark :: rest) := by
  have alone (quote : Char) (isQuote : quote ∈ ['\'', '"']) :
      (mark :: rest).head? ≠ some quote := by
    intro same
    exact inert.noQuote (Option.some.inj same ▸ isQuote)
  have reach : ∀ more, text ++ more ∈ operators → more <+: mark :: rest → more <+: [] :=
    fun more member isFront => prefix_of_not_mem (free more member) isFront
  cases kind with
  | stringLiteral => exact .inr ⟨ends (by decide), alone '\'' (by decide)⟩
  | quotedIdentifier => exact .inr ⟨ends (by decide), alone '"' (by decide)⟩
  | lineComment => exact .inr (ends (by decide))
  | blockComment => exact .inr (ends (by decide))
  | numeric => exact fun last _ c head => Option.some.inj head ▸ inert.next?_eq_none last
  | whitespace => exact fun c head => Option.some.inj head ▸ inert.noSpace
  | operator => exact ⟨unmarked_of_mark inert rfl, fits.2.of_reach reach⟩
  | identifier =>
    exact ⟨unmarked_of_mark inert rfl, fits.2.1.of_reach reach, fun c head =>
      Option.some.inj head ▸ inert.delimiter⟩
  | endOfInput => exact fits

theorem replaces_before_mark {shown : List Char} (filled : shown ≠ [])
    (free : ∀ more, text ++ more ∈ operators → mark ∉ more) :
    Replaces text (shown ++ []) (shown ++ mark :: rest) := by
  obtain ⟨c, tail, rfl⟩ := List.exists_cons_of_ne_nil filled
  refine ⟨by simp, .inl rfl, ?_⟩
  intro more member isFront
  rw [List.append_nil]
  exact prefix_of_not_mem (free more member) isFront

theorem standing_before_mark (inert : Mark mark)
    (free : ∀ operator ∈ operators, mark ∉ operator.tail) (standing : Standing [] found)
    (ends : ∀ lexeme ∈ found.getLast?, lexeme.kind ∈ sealedKinds → Terminated lexeme) :
    Standing (mark :: rest) found := by
  induction found with
  | nil => trivial
  | cons lexeme found ih =>
    obtain ⟨stands, later⟩ := standing
    have unused : ∀ more, lexeme.text ++ more ∈ operators → mark ∉ more := by
      intro more member inside
      obtain ⟨c, tail, text⟩ := List.exists_cons_of_ne_nil stands.ne_nil
      refine free _ member ?_
      rw [text]
      exact List.mem_append_right tail inside
    cases found with
    | nil =>
      obtain ⟨form, fits⟩ := (stands_iff_form _ _).1 stands
      exact ⟨(stands_iff_form _ _).2 ⟨form, fits_before_mark inert unused (ends lexeme rfl) fits⟩,
        trivial⟩
    | cons next found =>
      have shown : ((next :: found).map (·.text)).flatten ≠ [] := by
        rw [List.map_cons, List.flatten_cons]
        exact List.append_ne_nil_of_left_ne_nil later.1.ne_nil _
      refine ⟨stands.replaces (replaces_before_mark shown unused), ih later ?_⟩
      rwa [List.getLast?_cons_cons] at ends

theorem lexemes_semicolon {first : List Char} (second : List Char)
    (ends : ∀ lexeme ∈ (lexemes first).getLast?, lexeme.kind ∈ sealedKinds → Terminated lexeme) :
    lexemes (first ++ ';' :: second) = lexemes first ++ ⟨.operator, [';']⟩ :: lexemes second := by
  have standing : Standing (';' :: second) (lexemes first) :=
    standing_before_mark (by decide) (by decide) (standing_lexemes first) ends
  have read := lexemes_append_of_standing standing
  have separator : split ';' second = (.operator, [';'], second) := rfl
  rw [lexemes_joined] at read
  rw [read, lexemes, separator]

end Marks

theorem map_lexemeOf_dropLast (sql : List Char) :
    (tokens sql).dropLast.map lexemeOf = lexemes sql := by
  rw [List.map_dropLast, map_lexemeOf_tokens, List.dropLast_concat]

/-- What the tokens become when `index` bind variables stand before them. -/
def replacedFrom (p : Placeholder) (index : Nat) (found : List Token) : List (List Char) :=
  found.mapIdx fun k token =>
    if isBind token then p.render token.text (index + (found.take k).countP isBind : Nat)
    else token.text

theorem flatten_replacedFrom (p : Placeholder) (index : Nat) (sql : List Char) :
    (replacedFrom p index (tokens sql)).flatten = (substitute p index (lexemes sql)).flatten := by
  rw [replacedFrom, ← substitute_eq_mapIdx, flatten_substitute_tokens]

theorem render_eq_render {p : Placeholder} (free : p.style ≠ .numbered ∨ p.passthrough = true)
    (text : List Char) (first second : Int) : p.render text first = p.render text second := by
  unfold Placeholder.render
  split
  · rfl
  · next written =>
    have other : p.style ≠ .numbered := free.resolve_right written
    cases style : p.style with
    | simple => rfl
    | numbered => exact absurd style other
    | named => rfl

theorem substitute_eq_substitute {p : Placeholder}
    (free : p.style ≠ .numbered ∨ p.passthrough = true) (first second : Nat)
    (found : List Lexeme) : substitute p first found = substitute p second found := by
  induction found generalizing first second with
  | nil => rfl
  | cons lexeme found ih =>
    cases bind : isVariable lexeme.kind lexeme.text with
    | true =>
      rw [substitute_bind bind, substitute_bind bind, ih (first + 1) (second + 1),
        render_eq_render free lexeme.text first second]
    | false => rw [substitute_other bind, substitute_other bind, ih first second]

/-- Rewriting goes through a semicolon: two statements with one between them have the names of the
first and then those of the second, and their texts are rewritten each by itself, with the
occurrences in the second counted from those in the first. Where no numbers are written, that is the
second text as it is rewritten alone. The first must not end in a quote or a comment that is open. -/
theorem splice_semicolon (first second : List Char) (p : Placeholder)
    (ends : ∀ token ∈ (tokens first).dropLast.getLast?, token.kind ∈ sealedKinds →
      Terminated (lexemeOf token)) :
    (splice (first ++ ';' :: second) p).2 = (splice first p).2 ++ (splice second p).2 ∧
    (splice (first ++ ';' :: second) p).1 = (splice first p).1 ++
      ';' :: (replacedFrom p (splice first p).2.length (tokens second)).flatten ∧
    (p.style ≠ .numbered ∨ p.passthrough = true →
      (splice (first ++ ';' :: second) p).1 = (splice first p).1 ++ ';' :: (splice second p).1) := by
  have scanned : lexemes (first ++ ';' :: second) =
      lexemes first ++ ⟨.operator, [';']⟩ :: lexemes second := by
    apply lexemes_semicolon
    intro lexeme last
    rw [← map_lexemeOf_dropLast, List.getLast?_map] at last
    obtain ⟨token, present, rfl⟩ := Option.map_eq_some_iff.1 last
    exact ends token present
  have pieces : substitute p 0 (lexemes first ++ ⟨.operator, [';']⟩ :: lexemes second) =
      substitute p 0 (lexemes first) ++
        [';'] :: substitute p (variableNames (lexemes first)).length (lexemes second) :=
    substitute_around p _ _ rfl
  have names : variableNames (lexemes first ++ ⟨.operator, [';']⟩ :: lexemes second) =
      variableNames (lexemes first) ++ variableNames (lexemes second) := by
    rw [variableNames_append, variableNames_other rfl]
  simp only [splice_eq_substitute, scanned, pieces, names, flatten_replacedFrom,
    List.flatten_append, List.flatten_cons, List.singleton_append, true_and]
  intro free
  rw [substitute_eq_substitute free (variableNames (lexemes first)).length 0]

theorem splice_semicolon_comment :
    splice ("a=:x--'\n".toList ++ ';' :: ":y,':z".toList) ⟨.numbered, '$'⟩ =
      ("a=$1--'\n;$2,':z".toList, ["x", "y"]) ∧
    (splice ("a=:x--'\n".toList ++ ';' :: ":y,':z".toList) ⟨.named, '@'⟩).1 =
      (splice "a=:x--'\n".toList ⟨.named, '@'⟩).1 ++
        ';' :: (splice ":y,':z".toList ⟨.named, '@'⟩).1 := by
  have scanned : tokens "a=:x--'\n".toList =
      [⟨.identifier, 0, ['a']⟩, ⟨.operator, 1, ['=']⟩, ⟨.identifier, 2, [':', 'x']⟩,
        ⟨.lineComment, 4, "--'\n".toList⟩, ⟨.endOfInput, 8, []⟩] := by decide +kernel
  have ends : ∀ token ∈ (tokens "a=:x--'\n".toList).dropLast.getLast?,
      token.kind ∈ sealedKinds → Terminated (lexemeOf token) := by
    rw [scanned]
    intro token last _
    obtain rfl := Option.some.inj last
    rfl
  obtain ⟨names, text, -⟩ := splice_semicolon _ ":y,':z".toList ⟨.numbered, '$'⟩ ends
  obtain ⟨-, -, together⟩ := splice_semicolon _ ":y,':z".toList ⟨.named, '@'⟩ ends
  refine ⟨Prod.ext ?_ ?_, together (.inl (by decide))⟩
  · rw [text]
    decide +kernel
  · rw [names]
    decide +kernel

end SqlRoutes.Query
