import SqlRoutes.Proofs.Sql.Place

/-!
Quoted text. What stands between the quotes is a text with every quote written twice: any text can
be written so, and each quoted token has exactly one that it is written for. Without a closing
quote the token is the last one.
-/
namespace SqlRoutes.Sql

def doubled (quote : Char) (text : List Char) : List Char :=
  text.flatMap fun c => if c = quote then [quote, quote] else [c]

inductive Quotes : Char → Kind → Prop where
  | string : Quotes '\'' .stringLiteral
  | name : Quotes '"' .quotedIdentifier

section Doubling

variable {quote c : Char} {text rest : List Char}

theorem doubled_quote : doubled quote (quote :: text) = quote :: quote :: doubled quote text := by
  simp [doubled]

theorem doubled_other (other : c ≠ quote) :
    doubled quote (c :: text) = c :: doubled quote text := by
  simp [doubled, other]

theorem count_doubled (quote : Char) (text : List Char) :
    (doubled quote text).count quote = 2 * text.count quote := by
  induction text with
  | nil => rfl
  | cons c text ih =>
    by_cases same : c = quote
    · subst same
      rw [doubled_quote, List.count_cons_self, List.count_cons_self, List.count_cons_self, ih]
      omega
    · rw [doubled_other same, List.count_cons_of_ne same, List.count_cons_of_ne same, ih]

theorem doubled_injective (quote : Char) : Function.Injective (doubled quote) := by
  intro first second
  induction first generalizing second with
  | nil =>
    intro same
    cases second with
    | nil => rfl
    | cons d second => by_cases quoted : d = quote <;> simp [doubled, quoted] at same
  | cons c first ih =>
    intro same
    cases second with
    | nil => by_cases quoted : c = quote <;> simp [doubled, quoted] at same
    | cons d second =>
      by_cases quoted : c = quote
      · subst quoted
        by_cases other : d = c
        · subst other
          rw [doubled_quote, doubled_quote] at same
          rw [ih (List.cons.inj (List.cons.inj same).2).2]
        · rw [doubled_quote, doubled_other other] at same
          exact absurd (List.cons.inj same).1.symm other
      · by_cases other : d = quote
        · subst other
          rw [doubled_other quoted, doubled_quote] at same
          exact absurd (List.cons.inj same).1 quoted
        · rw [doubled_other quoted, doubled_other other] at same
          obtain ⟨rfl, later⟩ := List.cons.inj same
          rw [ih later]

theorem doubled_ne_closed (quote : Char) (first second : List Char) :
    doubled quote first ≠ doubled quote second ++ [quote] := by
  intro same
  have counts := congrArg (List.count quote) same
  rw [List.count_append, count_doubled, count_doubled, List.count_singleton_self] at counts
  omega

theorem splitQuoted_doubled (alone : rest.head? ≠ some quote) (text : List Char) :
    splitQuoted quote (doubled quote text ++ quote :: rest) =
      (doubled quote text ++ [quote], rest) := by
  induction text with
  | nil => exact splitQuoted_alone alone
  | cons c text ih =>
    by_cases same : c = quote
    · subst same
      rw [doubled_quote, List.cons_append, List.cons_append, splitQuoted_twice, ih]
      rfl
    · rw [doubled_other same, List.cons_append, splitQuoted_other same, ih]
      rfl

/-- What is read is a text with doubled quotes, up to a quote that stands alone or to the end. -/
inductive Closing (quote : Char) : List Char × List Char → Prop where
  | closed (inner : List Char) {rest : List Char} (alone : rest.head? ≠ some quote) :
      Closing quote (doubled quote inner ++ [quote], rest)
  | unclosed (inner : List Char) : Closing quote (doubled quote inner, [])

theorem Closing.onto_twice {parts : List Char × List Char} (closing : Closing quote parts) :
    Closing quote (onto [quote, quote] parts) := by
  cases closing with
  | closed inner alone => simpa [onto, doubled_quote] using Closing.closed (quote :: inner) alone
  | unclosed inner =>
    have unclosed : Closing quote (doubled quote (quote :: inner), []) := .unclosed _
    rwa [doubled_quote] at unclosed

theorem Closing.onto_other {parts : List Char × List Char} (closing : Closing quote parts)
    (other : c ≠ quote) : Closing quote (onto [c] parts) := by
  cases closing with
  | closed inner alone => simpa [onto, doubled_other other] using Closing.closed (c :: inner) alone
  | unclosed inner =>
    have unclosed : Closing quote (doubled quote (c :: inner), []) := .unclosed _
    rwa [doubled_other other] at unclosed

theorem closing_splitQuoted (quote : Char) (text : List Char) :
    Closing quote (splitQuoted quote text) := by
  fun_induction splitQuoted quote text with
  | case1 => exact .unclosed []
  | case2 c =>
    by_cases same : c = quote
    · subst same
      exact .closed [] (by simp)
    · exact (Closing.unclosed []).onto_other same
  | case3 rest ih => exact ih.onto_twice
  | case4 d rest other => exact .closed [] (by simpa using other)
  | case5 c d rest other ih => exact ih.onto_other other

end Doubling

section Tokens

variable {quote : Char} {kind : Kind}

theorem Quotes.closing (quotes : Quotes quote kind) {text rest : List Char}
    (stands : Stands ⟨kind, text⟩ rest) :
    ∃ tail, text = quote :: tail ∧ Closing quote (tail, rest) := by
  obtain ⟨c, tail, rfl, rule⟩ := stands
  have parts : c = quote ∧ (c :: tail, rest) = onto [quote] (splitQuoted quote (tail ++ rest)) := by
    cases quotes with
    | string => exact rule_string_iff.1 rule
    | name => exact rule_quoted_iff.1 rule
  obtain ⟨rfl, same⟩ := parts
  have closing := closing_splitQuoted c (tail ++ rest)
  rw [onto_one_iff.1 same.symm] at closing
  exact ⟨tail, rfl, closing⟩

theorem Quotes.split (quotes : Quotes quote kind) (rest : List Char) :
    split quote rest = (kind, onto [quote] (splitQuoted quote rest)) := by
  cases quotes with
  | string => exact split_of_rule (.string rest)
  | name => exact split_of_rule (.quoted rest)

/-- Doubling the quotes of a text is the way to write it in quotes, and the only one. A token that
lacks its closing quote is the last before the end of the input; the number of its quotes, which is
odd, tells it from one that is closed. -/
theorem tokens_quoted (quote : Char) (kind : Kind) (quotes : Quotes quote kind) :
    (∀ inner rest : List Char, rest.head? ≠ some quote →
      (tokens (quote :: (doubled quote inner ++ quote :: rest)))[0]? =
        some ⟨kind, 0, quote :: (doubled quote inner ++ [quote])⟩) ∧
    ∀ (sql : List Char) (i : Nat) (token : Token), (tokens sql)[i]? = some token →
      token.kind = kind →
      Xor
        ((∃! inner, token.text = quote :: (doubled quote inner ++ [quote])) ∧
          sql[token.stop.toNat]? ≠ some quote)
        ((tokens sql)[i + 1]? = some ⟨.endOfInput, sql.length, []⟩ ∧
          ∃! inner, token.text = quote :: doubled quote inner) := by
  constructor
  · intro inner rest alone
    have front : split quote (doubled quote inner ++ quote :: rest) =
        (kind, quote :: (doubled quote inner ++ [quote]), rest) := by
      rw [quotes.split, splitQuoted_doubled alone]
      rfl
    rw [tokens, lexemes, front]
    rfl
  · intro sql i token present same
    subst same
    rcases between_of_getElem? present with rfl | ⟨before, after, between, rfl⟩
    · cases quotes
    obtain ⟨tail, text, closing⟩ := quotes.closing between.stands
    have next : sql[token.stop.toNat]? = (after.map (·.text)).flatten.head? := by
      rw [← List.head?_drop, between.behind]
    rw [next, text]
    generalize behind : (after.map (·.text)).flatten = rest at closing
    cases closing with
    | closed inner alone =>
      left
      refine ⟨⟨⟨inner, rfl, ?_⟩, alone⟩, ?_⟩
      · intro other written
        have inside := List.append_cancel_right (List.cons.inj written).2
        exact doubled_injective quote inside.symm
      · rintro ⟨-, other, written, -⟩
        exact doubled_ne_closed quote other inner (List.cons.inj written).2.symm
    | unclosed inner =>
      right
      obtain ⟨following, present, -, ended⟩ := between.next
      refine ⟨⟨by rw [present, ended behind], inner, rfl, ?_⟩, ?_⟩
      · intro other written
        exact doubled_injective quote (List.cons.inj written).2.symm
      · rintro ⟨⟨other, written, -⟩, -⟩
        exact doubled_ne_closed quote inner other (List.cons.inj written).2

theorem tokens_quoted_quotes :
    Quotes '\'' .stringLiteral ∧
      (tokens "''''''-'a''".toList)[0]? = some ⟨.stringLiteral, 0, "''''''".toList⟩ ∧
      (∃! inner, "''''''".toList = '\'' :: (doubled '\'' inner ++ ['\''])) ∧
      ∃! inner, "'a''".toList = '\'' :: doubled '\'' inner := by
  have quotes : Quotes '\'' .stringLiteral := .string
  obtain ⟨written, read⟩ := tokens_quoted '\'' .stringLiteral quotes
  have first := written ['\'', '\''] "-'a''".toList (by decide)
  have last : (tokens "''''''-'a''".toList)[2]? = some ⟨.stringLiteral, 7, "'a''".toList⟩ := by
    decide +kernel
  refine ⟨quotes, first, ?_, ?_⟩
  · rcases read "''''''-'a''".toList 0 ⟨.stringLiteral, 0, "''''''".toList⟩ first rfl with
      ⟨⟨unique, -⟩, -⟩ | ⟨⟨ended, -⟩, -⟩
    · exact unique
    · exact absurd ended (by decide +kernel)
  · rcases read "''''''-'a''".toList 2 ⟨.stringLiteral, 7, "'a''".toList⟩ last rfl with
      ⟨⟨⟨inner, text, -⟩, -⟩, -⟩ | ⟨⟨-, unique⟩, -⟩
    · exact absurd (List.cons.inj text).2 (doubled_ne_closed '\'' ['a', '\''] inner)
    · exact unique

end Tokens

end SqlRoutes.Sql
