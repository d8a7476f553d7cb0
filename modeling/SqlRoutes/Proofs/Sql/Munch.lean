import SqlRoutes.Proofs.Sql.Comment
import SqlRoutes.Proofs.Sql.Number

/-!
White space, operators and names. Where no quote, comment or number starts, three languages are
tried in turn, and the token is the longest front of the text that the first of them has: white
space, the operators, or any character with those of a name behind it.
-/
namespace SqlRoutes.Sql

structure Longest (l : Language Char) (text front : List Char) : Prop where
  member : front ∈ l
  isFront : front <+: text
  most : ∀ other ∈ l, other <+: text → other.length ≤ front.length

def blanks : Language Char := {text | ∀ c ∈ text, isSpace c = true}

def symbols : Language Char := {text | text ∈ operators}

/-- One character, whatever it is, and others that are no delimiters. -/
def words : Language Char := {text | ∃ c tail, text = c :: tail ∧ ∀ d ∈ tail, d ∉ delimiters}

structure Loose (text : List Char) : Prop where
  noString : text.head? ≠ some '\''
  noQuoted : text.head? ≠ some '"'
  noLineComment : ¬['-', '-'] <+: text
  noBlockComment : ¬['/', '*'] <+: text
  noDigit : ¬∃ c rest, text = c :: rest ∧ c.isDigit = true
  noPoint : ¬∃ c rest, text = '.' :: c :: rest ∧ c.isDigit = true

section Fronts

variable {p : Char → Bool} {c : Char} {front rest text : List Char}

theorem prefix_takeWhile (every : ∀ c ∈ front, p c = true) (isFront : front <+: text) :
    front <+: text.takeWhile p := by
  obtain ⟨more, rfl⟩ := isFront
  rw [List.takeWhile_append_of_pos every]
  exact List.prefix_append front _

theorem continuesName_iff : continuesName c = true ↔ c ∉ delimiters := by
  simp [continuesName]

theorem longest_blanks (space : isSpace c = true) :
    Longest blanks (c :: rest) (c :: rest.takeWhile isSpace) := by
  have whole : (c :: rest).takeWhile isSpace = c :: rest.takeWhile isSpace :=
    List.takeWhile_cons_of_pos space
  rw [← whole]
  constructor
  · exact List.all_eq_true.1 List.all_takeWhile
  · exact List.takeWhile_prefix isSpace
  · intro other every isFront
    exact (prefix_takeWhile every isFront).length_le

theorem longest_symbols {operator : List Char} (found : operator? text = some operator) :
    Longest symbols text operator := by
  obtain ⟨member, isFront, most⟩ := operator?_eq_some_iff.1 found
  exact ⟨member, isFront, most⟩

theorem longest_words (c : Char) (rest : List Char) :
    Longest words (c :: rest) (c :: rest.takeWhile continuesName) := by
  constructor
  · refine ⟨c, _, rfl, fun d inside => ?_⟩
    exact continuesName_iff.1 (List.all_eq_true.1 List.all_takeWhile d inside)
  · exact (List.prefix_cons_inj c).2 (List.takeWhile_prefix continuesName)
  · rintro other ⟨d, tail, rfl, free⟩ isFront
    obtain ⟨-, behind⟩ := List.cons_prefix_cons.1 isFront
    have every : ∀ e ∈ tail, continuesName e = true := fun e inside =>
      continuesName_iff.2 (free e inside)
    exact Nat.succ_le_succ (prefix_takeWhile every behind).length_le

end Fronts

section Rules

variable {c : Char} {rest : List Char} {kind : Kind} {parts : List Char × List Char}

theorem loose_cons_iff : Loose (c :: rest) ↔
    c ≠ '\'' ∧ c ≠ '"' ∧ ¬(c = '-' ∧ rest.head? = some '-') ∧
      ¬(c = '/' ∧ rest.head? = some '*') ∧ startsNumber c rest = false := by
  rw [← Bool.not_eq_true, startsNumber_iff, not_or, ← two_prefix_iff, ← two_prefix_iff]
  constructor
  · intro loose
    exact ⟨by simpa using loose.noString, by simpa using loose.noQuoted, loose.noLineComment,
      loose.noBlockComment, loose.noDigit, loose.noPoint⟩
  · rintro ⟨noString, noQuoted, noLine, noBlock, noDigit, noPoint⟩
    exact ⟨by simpa using noString, by simpa using noQuoted, noLine, noBlock, noDigit, noPoint⟩

theorem bare_iff_loose : Bare c rest ↔ Loose (c :: rest) ∧ isSpace c = false := by
  rw [loose_cons_iff]
  constructor
  · intro bare
    exact ⟨⟨bare.noString, bare.noQuoted, bare.noLineComment, bare.noBlockComment, bare.noNumber⟩,
      bare.noSpace⟩
  · rintro ⟨⟨noString, noQuoted, noLine, noBlock, noNumber⟩, noSpace⟩
    exact ⟨noString, noQuoted, noLine, noBlock, noNumber, noSpace⟩

theorem loose_of_isSpace (space : isSpace c = true) : Loose (c :: rest) := by
  obtain ⟨noString, noQuoted, noDash, noSlash, noNumber⟩ := guards_of_isSpace rest space
  exact loose_cons_iff.2 ⟨noString, noQuoted, fun opens => noDash opens.1,
    fun opens => noSlash opens.1, noNumber⟩

theorem Rule.loose_iff (rule : Rule c rest kind parts) :
    Loose (c :: rest) ↔ kind ∈ [.whitespace, .operator, .identifier] := by
  cases rule with
  | string => exact iff_of_false (fun loose => loose.noString rfl) (by decide)
  | quoted => exact iff_of_false (fun loose => loose.noQuoted rfl) (by decide)
  | line rest =>
    exact iff_of_false (fun loose => loose.noLineComment ⟨rest, rfl⟩) (by decide)
  | block rest =>
    exact iff_of_false (fun loose => loose.noBlockComment ⟨rest, rfl⟩) (by decide)
  | number starts =>
    refine iff_of_false (fun loose => ?_) (by decide)
    obtain ⟨-, -, -, -, noNumber⟩ := loose_cons_iff.1 loose
    rw [starts] at noNumber
    cases noNumber
  | space space => exact iff_of_true (loose_of_isSpace space) (by decide)
  | operator bare found => exact iff_of_true (bare_iff_loose.1 bare).1 (by decide)
  | name bare absent => exact iff_of_true (bare_iff_loose.1 bare).1 (by decide)

theorem Rule.munch (rule : Rule c rest kind parts) (loose : Loose (c :: rest)) :
    if isSpace c = true then kind = .whitespace ∧ Longest blanks (c :: rest) parts.1
    else if ∃ operator ∈ operators, operator <+: c :: rest then
      kind = .operator ∧ Longest symbols (c :: rest) parts.1
    else kind = .identifier ∧ Longest words (c :: rest) parts.1 := by
  by_cases space : isSpace c = true
  · rw [if_pos space]
    obtain ⟨rfl, rfl⟩ := rule.unique (.space space)
    exact ⟨rfl, longest_blanks space⟩
  · rw [if_neg space]
    have bare : Bare c rest := bare_iff_loose.2 ⟨loose, by simpa using space⟩
    cases found : operator? (c :: rest) with
    | some operator =>
      obtain ⟨member, isFront, -⟩ := operator?_eq_some_iff.1 found
      obtain ⟨rfl, rfl⟩ := rule.unique (.operator bare found)
      rw [if_pos ⟨operator, member, isFront⟩]
      exact ⟨rfl, longest_symbols found⟩
    | none =>
      have absent := operator?_eq_none_iff.1 found
      obtain ⟨rfl, rfl⟩ := rule.unique (.name bare found)
      rw [if_neg fun ⟨other, member, isFront⟩ => absent other member isFront]
      exact ⟨rfl, longest_words c rest⟩

end Rules

theorem Between.delimited {sql : List Char} {before after : List Lexeme} {token : Token}
    (between : Between sql before token after) (named : token.kind = .identifier) :
    ∀ c ∈ sql[token.stop.toNat]?, c ∈ delimiters := by
  have fits := ((stands_iff_form _ _).1 between.stands).2
  rw [named] at fits
  rw [← List.head?_drop, between.behind]
  intro c head
  have ends := fits.2.2 c head
  by_contra free
  rw [continuesName_iff.2 free] at ends
  cases ends

/-- Where neither a quote, a comment nor a number starts, a token is white space, an operator or a
name: the longest run of blanks if there is one, or else the longest operator, or else the character
that is there with all that follow up to a delimiter. A name is always followed by a delimiter or
the end of the input. -/
theorem tokens_munch (sql : List Char) (i : Nat) (token : Token)
    (present : (tokens sql)[i]? = some token) :
    let left := sql.drop token.position.toNat
    (token.kind ∈ [.whitespace, .operator, .identifier] ↔ left ≠ [] ∧ Loose left) ∧
    (left ≠ [] → Loose left →
      if left.head?.any isSpace = true then
        token.kind = .whitespace ∧ Longest blanks left token.text
      else if ∃ operator ∈ operators, operator <+: left then
        token.kind = .operator ∧ Longest symbols left token.text
      else token.kind = .identifier ∧ Longest words left token.text) ∧
    (token.kind = .identifier → ∀ c ∈ sql[token.stop.toNat]?, c ∈ delimiters) := by
  intro left
  rcases between_of_getElem? present with rfl | ⟨before, after, between, rfl⟩
  · simp [left]
  obtain ⟨c, rest, here, rule⟩ := between.rule
  have here : left = c :: rest := here
  rw [here]
  refine ⟨?_, fun _ loose => rule.munch loose, between.delimited⟩
  rw [← rule.loose_iff]
  exact ⟨fun loose => ⟨List.cons_ne_nil c rest, loose⟩, And.right⟩

theorem tokens_munch_question :
    let text := "\t ??(<>=!b~".toList
    ((tokens text)[0]? = some ⟨.whitespace, 0, ['\t', ' ']⟩ ∧ Longest blanks text ['\t', ' ']) ∧
      ((tokens text)[1]? = some ⟨.operator, 2, "??(".toList⟩ ∧
        Longest symbols "??(<>=!b~".toList "??(".toList) ∧
      (tokens text)[4]? = some ⟨.identifier, 8, ['!', 'b']⟩ ∧
      Longest words "!b~".toList ['!', 'b'] ∧ '~' ∈ delimiters := by
  intro text
  have blank : (tokens text)[0]? = some ⟨.whitespace, 0, ['\t', ' ']⟩ := by decide +kernel
  have operator : (tokens text)[1]? = some ⟨.operator, 2, "??(".toList⟩ := by decide +kernel
  have name : (tokens text)[4]? = some ⟨.identifier, 8, ['!', 'b']⟩ := by decide +kernel
  refine ⟨⟨blank, ?_⟩, ⟨operator, ?_⟩, name, ?_⟩
  · obtain ⟨kinds, munch, -⟩ := tokens_munch text 0 _ blank
    obtain ⟨filled, loose⟩ := kinds.1 (by decide)
    have taken := munch filled loose
    rw [if_pos (by decide)] at taken
    exact taken.2
  · obtain ⟨kinds, munch, -⟩ := tokens_munch text 1 _ operator
    obtain ⟨filled, loose⟩ := kinds.1 (by decide)
    have taken := munch filled loose
    rw [if_neg (by decide), if_pos (by decide)] at taken
    exact taken.2
  · obtain ⟨kinds, munch, ends⟩ := tokens_munch text 4 _ name
    obtain ⟨filled, loose⟩ := kinds.1 (by decide)
    have taken := munch filled loose
    rw [if_neg (by decide), if_neg (by decide)] at taken
    exact ⟨taken.2, ends rfl '~' rfl⟩

end SqlRoutes.Sql
