import SqlRoutes.Proofs.Sql.Standing

/-!
Stretches of a text between boundaries of its tokens. What stands before a text stands before every
front of it, so a row of lexemes that is cut anywhere stands by itself, and a stretch is scanned
alone as it is scanned within the text.
-/
namespace SqlRoutes.Sql

section Front

variable {text front back : List Char}

theorem head?_append_of_mem {c : Char} (member : c ∈ front.head?) : c ∈ (front ++ back).head? := by
  rw [List.head?_append, Option.mem_def.1 member]
  rfl

theorem head?_ne_of_append {c : Char} (other : (front ++ back).head? ≠ some c) :
    front.head? ≠ some c :=
  fun head => other (head?_append_of_mem head)

theorem Unmarked.of_append (unmarked : Unmarked text (front ++ back)) : Unmarked text front where
  line same := head?_ne_of_append (unmarked.line same)
  block same := head?_ne_of_append (unmarked.block same)
  number same c head := unmarked.number same c (head?_append_of_mem head)

theorem Apart.of_append (apart : Apart text (front ++ back)) : Apart text front := by
  intro operator member isFront
  apply apart operator member
  rw [← List.append_assoc]
  exact isFront.trans (List.prefix_append _ back)

theorem Fits.of_append {lexeme : Lexeme} (fits : Fits lexeme (front ++ back)) :
    Fits lexeme front := by
  obtain ⟨kind, text⟩ := lexeme
  have ended (nothing : front ++ back = []) : front = [] := (List.append_eq_nil_iff.1 nothing).1
  cases kind with
  | stringLiteral => exact fits.imp ended fun ⟨closed, alone⟩ => ⟨closed, head?_ne_of_append alone⟩
  | quotedIdentifier =>
    exact fits.imp ended fun ⟨closed, alone⟩ => ⟨closed, head?_ne_of_append alone⟩
  | lineComment => exact fits.imp_left ended
  | blockComment => exact fits.imp_left ended
  | numeric => exact fun last whole c head => fits last whole c (head?_append_of_mem head)
  | whitespace => exact fun c head => fits c (head?_append_of_mem head)
  | operator => exact ⟨fits.1.of_append, fits.2.of_append⟩
  | identifier =>
    obtain ⟨unmarked, apart, ends⟩ := fits
    exact ⟨unmarked.of_append, apart.of_append, fun c head => ends c (head?_append_of_mem head)⟩
  | endOfInput => exact fits

theorem Stands.of_append {lexeme : Lexeme} (stands : Stands lexeme (front ++ back)) :
    Stands lexeme front := by
  obtain ⟨form, fits⟩ := (stands_iff_form _ _).1 stands
  exact (stands_iff_form _ _).2 ⟨form, fits.of_append⟩

end Front

theorem Standing.before {found after : List Lexeme} {rest : List Char}
    (standing : Standing rest (found ++ after)) :
    Standing ((after.map (·.text)).flatten ++ rest) found := by
  induction found with
  | nil => trivial
  | cons lexeme found ih =>
    obtain ⟨stands, later⟩ := standing
    refine ⟨?_, ih later⟩
    simpa using stands

theorem Standing.of_rest {found : List Lexeme} {front back : List Char}
    (standing : Standing (front ++ back) found) : Standing front found := by
  induction found with
  | nil => trivial
  | cons lexeme found ih =>
    obtain ⟨stands, later⟩ := standing
    rw [← List.append_assoc] at stands
    exact ⟨stands.of_append, ih later⟩

theorem lexemes_middle {sql : List Char} {before found after : List Lexeme}
    (scanned : lexemes sql = before ++ (found ++ after)) :
    lexemes (found.map (·.text)).flatten = found := by
  have standing : Standing [] (before ++ (found ++ after)) := scanned ▸ standing_lexemes sql
  have alone : Standing ([] ++ ((after.map (·.text)).flatten ++ [])) found :=
    standing.of_append.before
  exact lexemes_eq_iff.2 ⟨rfl, alone.of_rest⟩

/-- The token as it stands in the text that is left from `start` on. -/
def Token.rebase (start : Int) (token : Token) : Token :=
  { token with position := token.position - start }

theorem place_append (position : Nat) (first second : List Lexeme) :
    place position (first ++ second) =
      placed position first ++ place (position + (first.map (·.text)).flatten.length) second := by
  induction first generalizing position with
  | nil => rfl
  | cons lexeme first ih => simp [place, placed, ih, Nat.add_assoc]

theorem place_eq_cons (position : Nat) (found : List Lexeme) :
    ∃ first others, place position found = first :: others ∧ first.position = position ∧
      (first.kind ≠ .endOfInput → ∃ later, found = ⟨first.kind, first.text⟩ :: later) := by
  cases found with
  | nil => exact ⟨_, [], rfl, rfl, fun other => absurd rfl other⟩
  | cons lexeme found => exact ⟨_, _, rfl, rfl, fun _ => ⟨found, rfl⟩⟩

theorem map_rebase_place (start position : Nat) (found : List Lexeme) :
    (place (start + position) found).map (Token.rebase start) = place position found := by
  have moved : (start + position : Nat) - (start : Int) = position := by omega
  induction found generalizing position with
  | nil => rw [place, place, List.map_singleton, Token.rebase, moved]
  | cons lexeme found ih =>
    rw [place, place, List.map_cons, Nat.add_assoc, ih _ (by omega), Token.rebase, moved]

theorem map_rebase_placed (start position : Nat) (found : List Lexeme) :
    (placed (start + position) found).map (Token.rebase start) = placed position found := by
  have whole := map_rebase_place start position found
  rw [place_eq_placed, place_eq_placed, List.map_append] at whole
  exact (List.append_inj' whole rfl).1

theorem tokens_cut {sql : List Char} {before later : List Lexeme}
    (scanned : lexemes sql = before ++ later) :
    tokens sql = placed 0 before ++ place (before.map (·.text)).flatten.length later ∧
      sql.drop (before.map (·.text)).flatten.length = (later.map (·.text)).flatten := by
  have whole := lexemes_joined sql
  rw [scanned, List.map_append, List.flatten_append] at whole
  refine ⟨by rw [tokens, scanned, place_append, Nat.zero_add], ?_⟩
  rw [← whole, List.drop_left]

theorem tokens_flatten {found : List Lexeme} (alone : lexemes (found.map (·.text)).flatten = found)
    {text : List Char} (same : text = (found.map (·.text)).flatten) :
    tokens text = placed 0 found ++ [⟨.endOfInput, text.length, []⟩] := by
  subst same
  rw [tokens_eq, alone]

theorem exists_eq_append {α : Type} {row : List α} {i j : Nat} (ordered : i ≤ j)
    (inside : j ≤ row.length) :
    ∃ before found after, row = before ++ (found ++ after) ∧ before.length = i ∧
      before.length + found.length = j := by
  refine ⟨row.take i, (row.drop i).take (j - i), row.drop j, ?_, ?_, ?_⟩
  · rw [← Nat.add_sub_cancel' ordered, ← List.drop_drop, Nat.add_sub_cancel_left,
      List.take_append_drop, List.take_append_drop]
  · rw [List.length_take]
    omega
  · rw [List.length_take, List.length_take, List.length_drop]
    omega

theorem drop_take_append {α : Type} {first second third : List α} {i j : Nat}
    (start : first.length = i) (stop : first.length + second.length = j) :
    ((first ++ (second ++ third)).take j).drop i = second := by
  subst start stop
  rw [← List.append_assoc, ← List.length_append, List.take_left, List.drop_left]

/-- The tokens from one boundary to another are those of the text between the boundaries. So
scanning can start at any boundary, and each token is scanned as itself. -/
theorem tokens_stretch (sql : List Char) (i j : Nat) (ordered : i ≤ j)
    (inside : j < (tokens sql).length) :
    ∃ first, (tokens sql)[i]? = some first ∧
      (let stretch := ((tokens sql).take j).drop i
        let text := (stretch.map (·.text)).flatten
        tokens text = stretch.map (Token.rebase first.position) ++
          [⟨.endOfInput, text.length, []⟩]) ∧
      tokens (sql.drop first.position.toNat) =
        ((tokens sql).drop i).map (Token.rebase first.position) ∧
      (first.kind ≠ .endOfInput → tokens first.text =
        [⟨first.kind, 0, first.text⟩, ⟨.endOfInput, first.text.length, []⟩]) := by
  have count : (tokens sql).length = (lexemes sql).length + 1 := by
    rw [tokens_eq, List.length_append, length_placed, List.length_singleton]
  obtain ⟨before, found, after, scanned, reached, stop⟩ :=
    exists_eq_append ordered (by omega : j ≤ (lexemes sql).length)
  obtain ⟨cut, left⟩ := tokens_cut scanned
  generalize (before.map (·.text)).flatten.length = position at cut left
  obtain ⟨first, others, listed, here, inText⟩ := place_eq_cons position (found ++ after)
  have length : (placed 0 before).length = i := by rw [length_placed, reached]
  refine ⟨first, ?_, ?_, ?_, ?_⟩
  · rw [cut, listed, ← length, List.getElem?_append_right (Nat.le_refl _), Nat.sub_self]
    rfl
  · have stretch : ((tokens sql).take j).drop i = placed position found := by
      rw [cut, place_append]
      exact drop_take_append length (by rw [length_placed, length_placed, stop])
    have moved := map_rebase_placed position 0 found
    rw [Nat.add_zero] at moved
    simp only [stretch, here, moved, map_text_placed]
    exact tokens_flatten (lexemes_middle scanned) rfl
  · -- All that stands behind a boundary is a stretch with nothing after it.
    have behind : lexemes ((found ++ after).map (·.text)).flatten = found ++ after :=
      @lexemes_middle sql before (found ++ after) [] (by rw [List.append_nil, scanned])
    have moved := map_rebase_place position 0 (found ++ after)
    rw [Nat.add_zero] at moved
    rw [here, Int.toNat_natCast, left, tokens, behind, cut, ← length, List.drop_left, moved]
  · intro inside
    obtain ⟨later, row⟩ := inText inside
    have single : lexemes ([⟨first.kind, first.text⟩].map Lexeme.text).flatten =
        [⟨first.kind, first.text⟩] := lexemes_middle (by rw [scanned, row]; rfl)
    exact tokens_flatten single (by simp)

theorem tokens_stretch_cast :
    (1 ≤ 3 ∧ 3 < (tokens "1.:::a--:b".toList).length) ∧
      tokens ":::a".toList =
        [⟨.operator, 0, [':', ':']⟩, ⟨.identifier, 2, [':', 'a']⟩, ⟨.endOfInput, 4, []⟩] := by
  have scanned : tokens "1.:::a--:b".toList =
      [⟨.numeric, 0, ['1', '.']⟩, ⟨.operator, 2, [':', ':']⟩, ⟨.identifier, 4, [':', 'a']⟩,
        ⟨.lineComment, 6, "--:b".toList⟩, ⟨.endOfInput, 10, []⟩] := by decide +kernel
  have inside : 3 < (tokens "1.:::a--:b".toList).length := by
    rw [scanned]
    decide
  obtain ⟨first, present, alone, -⟩ := tokens_stretch "1.:::a--:b".toList 1 3 (by decide) inside
  rw [scanned] at present alone
  obtain rfl := Option.some.inj present
  exact ⟨⟨by decide, inside⟩, alone⟩

end SqlRoutes.Sql
