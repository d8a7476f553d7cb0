import SqlRoutes.Proofs.Query.Splice
import SqlRoutes.Proofs.Sql.Standing

/-!
Text in quotes and in comments. A lexeme of these kinds can be exchanged for another of its kind
that ends by itself: those before it look no further than at the characters that open it, and
scanning goes on behind it as it did. So nothing written in it makes or hides a bind variable.
-/
namespace SqlRoutes.Query

open Sql

def sealedKinds : List Kind := [.stringLiteral, .quotedIdentifier, .lineComment, .blockComment]

/-- The lexeme ends by its own text: with a quote that stands alone, a line feed, or the mark that
closes the outermost comment. -/
def Terminated (lexeme : Lexeme) : Prop :=
  match lexeme.kind with
  | .stringLiteral => closes '\'' lexeme.text.tail = true
  | .quotedIdentifier => closes '"' lexeme.text.tail = true
  | .lineComment => lexeme.text.getLast? = some '\n'
  | .blockComment => levelsLeft 0 (lexeme.text.drop 2) = 0
  | _ => False

/-- No lexeme before the texts tells one from the other: they have their first two characters in
common, or all up to one that is in no operator. -/
def Alike (first second : List Char) : Prop :=
  first.take 2 = second.take 2 ∨
    ∃ front quote tail other, (∀ operator ∈ operators, quote ∉ operator) ∧
      first = front ++ quote :: tail ∧ second = front ++ quote :: other

section Neighbours

variable {first second text : List Char}

theorem Alike.append (alike : Alike first second) (front : List Char) :
    Alike (front ++ first) (front ++ second) := by
  rcases alike with same | ⟨middle, quote, tail, other, free, rfl, rfl⟩
  · left
    have shorter (more : List Char) (fewer : more = first ∨ more = second) :
        more.take (2 - front.length) = (more.take 2).take (2 - front.length) := by
      rw [List.take_take, Nat.min_eq_left (Nat.sub_le _ _)]
    rw [List.take_append, List.take_append, shorter first (.inl rfl), shorter second (.inr rfl),
      same]
  · exact .inr ⟨front ++ middle, quote, tail, other, free, by simp, by simp⟩

theorem length_le_two_of_reach {more : List Char} (filled : text ≠ [])
    (member : text ++ more ∈ operators) : more.length ≤ 2 := by
  have short : ∀ operator ∈ operators, operator.length ≤ 3 := by decide
  have whole := short _ member
  have positive := List.length_pos_iff.2 filled
  rw [List.length_append] at whole
  omega

theorem Alike.replaces (alike : Alike first second) (filled : text ≠ []) :
    Replaces text first second := by
  rcases alike with same | ⟨front, quote, tail, other, free, rfl, rfl⟩
  · constructor
    · rintro rfl
      simpa using same.symm
    · left
      have heads := congrArg List.head? same
      simpa [List.head?_take] using heads.symm
    · intro more member isFront
      have within := length_le_two_of_reach filled member
      rw [List.prefix_iff_eq_take] at isFront ⊢
      calc more
          = (second.take 2).take more.length := by
            rw [List.take_take, Nat.min_eq_left within]
            exact isFront
        _ = first.take more.length := by rw [← same, List.take_take, Nat.min_eq_left within]
  · constructor
    · simp
    · left
      cases front <;> rfl
    · intro more member isFront
      have absent : quote ∉ more := fun inside => free _ member (List.mem_append_right text inside)
      exact (prefix_of_not_mem absent isFront).trans (List.prefix_append front _)

theorem alike_of_form {kind : Kind} {other : List Char} (isSealed : kind ∈ sealedKinds)
    (form : Form ⟨kind, text⟩) (otherForm : Form ⟨kind, other⟩) (rest : List Char) :
    Alike (text ++ rest) (other ++ rest) := by
  have quotes : ∀ operator ∈ operators, '\'' ∉ operator ∧ '"' ∉ operator := by decide
  simp only [sealedKinds, List.mem_cons, List.not_mem_nil, or_false] at isSealed
  rcases isSealed with rfl | rfl | rfl | rfl
  · obtain ⟨tail, rfl, -⟩ := form
    obtain ⟨otherTail, rfl, -⟩ := otherForm
    exact .inr ⟨[], '\'', tail ++ rest, otherTail ++ rest,
      fun operator member => (quotes operator member).1, rfl, rfl⟩
  · obtain ⟨tail, rfl, -⟩ := form
    obtain ⟨otherTail, rfl, -⟩ := otherForm
    exact .inr ⟨[], '"', tail ++ rest, otherTail ++ rest,
      fun operator member => (quotes operator member).2, rfl, rfl⟩
  · obtain ⟨tail, rfl, -⟩ := form
    obtain ⟨otherTail, rfl, -⟩ := otherForm
    exact .inl rfl
  · obtain ⟨tail, rfl, -⟩ := form
    obtain ⟨otherTail, rfl, -⟩ := otherForm
    exact .inl rfl

theorem fits_of_terminated {kind : Kind} {other rest : List Char} (isSealed : kind ∈ sealedKinds)
    (fits : Fits ⟨kind, text⟩ rest) (terminated : Terminated ⟨kind, other⟩) :
    Fits ⟨kind, other⟩ rest := by
  simp only [sealedKinds, List.mem_cons, List.not_mem_nil, or_false] at isSealed
  rcases isSealed with rfl | rfl | rfl | rfl
  · exact fits.imp_right fun ⟨_, alone⟩ => ⟨terminated, alone⟩
  · exact fits.imp_right fun ⟨_, alone⟩ => ⟨terminated, alone⟩
  · exact .inr terminated
  · exact .inr terminated

end Neighbours

theorem standing_replace {before after : List Lexeme} {lexeme other : Lexeme}
    (alike : ∀ rest, Alike (lexeme.text ++ rest) (other.text ++ rest))
    (stands : Stands other ((after.map (·.text)).flatten ++ []))
    (standing : Standing [] (before ++ lexeme :: after)) :
    Standing [] (before ++ other :: after) := by
  induction before with
  | nil => exact ⟨stands, standing.2⟩
  | cons head before ih =>
    obtain ⟨first, later⟩ := standing
    refine ⟨first.replaces (Alike.replaces ?_ first.ne_nil), ih later⟩
    have behind := (alike ((after.map (·.text)).flatten ++ [])).append
      (before.map (·.text)).flatten
    simpa using behind

theorem lexemes_replace {before after : List Lexeme} {kind : Kind} {sql text other : List Char}
    (found : lexemes sql = before ++ ⟨kind, text⟩ :: after) (isSealed : kind ∈ sealedKinds)
    (single : lexemes other = [⟨kind, other⟩]) (terminated : Terminated ⟨kind, other⟩) :
    lexemes ((before.map (·.text)).flatten ++ other ++ (after.map (·.text)).flatten) =
      before ++ ⟨kind, other⟩ :: after := by
  have standing : Standing [] (before ++ ⟨kind, text⟩ :: after) := found ▸ standing_lexemes sql
  obtain ⟨form, fits⟩ := (stands_iff_form _ _).1 standing.of_append.1
  have alone : Standing [] [⟨kind, other⟩] := single ▸ standing_lexemes other
  have otherForm := ((stands_iff_form _ _).1 alone.1).1
  have stands := (stands_iff_form _ _).2 ⟨otherForm, fits_of_terminated isSealed fits terminated⟩
  exact lexemes_eq_iff.2
    ⟨by simp, standing_replace (alike_of_form isSealed form otherForm) stands standing⟩

theorem split_of_getElem?_place {found : List Lexeme} {position k : Nat} {token : Token}
    (present : (place position found)[k]? = some token) (inside : token.kind ≠ .endOfInput) :
    ∃ before after, found = before ++ lexemeOf token :: after ∧ before.length = k ∧
      token.position = (position + (before.map (·.text)).flatten.length : Nat) := by
  induction found generalizing position k with
  | nil =>
    obtain ⟨rfl, rfl⟩ : k = 0 ∧ token = ⟨.endOfInput, position, []⟩ := by
      cases k with
      | zero => simpa [place, eq_comm] using present
      | succ k => simp [place] at present
    exact absurd rfl inside
  | cons lexeme found ih =>
    cases k with
    | zero =>
      obtain rfl : ⟨lexeme.kind, position, lexeme.text⟩ = token := by simpa [place] using present
      exact ⟨[], found, rfl, rfl, by simp⟩
    | succ k =>
      obtain ⟨before, after, rfl, length, start⟩ := ih (by simpa [place] using present)
      refine ⟨lexeme :: before, after, rfl, by rw [List.length_cons, length], ?_⟩
      rw [start, List.map_cons, List.flatten_cons, List.length_append, Nat.add_assoc]

theorem set_append_cons {α : Type} {before after : List α} {a b : α} {k : Nat}
    (length : before.length = k) : (before ++ a :: after).set k b = before ++ b :: after := by
  subst length
  simp

theorem splice_fst (sql : List Char) (p : Placeholder) :
    (splice sql p).1 = (replaced p (tokens sql)).flatten := by
  rw [splice_eq_substitute, replaced_eq_substitute, flatten_substitute_tokens]

theorem isVariable_of_sealed {kind : Kind} (isSealed : kind ∈ sealedKinds) (text : List Char) :
    isVariable kind text = false := by
  have others : ∀ kind ∈ sealedKinds, kind ≠ .identifier := by decide
  simp [isVariable, others kind isSealed]

theorem length_substitute (p : Placeholder) (index : Nat) (found : List Lexeme) :
    (substitute p index found).length = found.length := by
  induction found generalizing index with
  | nil => rfl
  | cons lexeme found ih =>
    cases bind : isVariable lexeme.kind lexeme.text with
    | true => rw [substitute_bind bind, List.length_cons, List.length_cons, ih]
    | false => rw [substitute_other bind, List.length_cons, List.length_cons, ih]

theorem substitute_around (p : Placeholder) (before after : List Lexeme) {lexeme : Lexeme}
    (other : isVariable lexeme.kind lexeme.text = false) :
    substitute p 0 (before ++ lexeme :: after) =
      substitute p 0 before ++
        lexeme.text :: substitute p (variableNames before).length after := by
  rw [substitute_append, substitute_other other, Nat.zero_add]

def overwrite (sql : List Char) (token : Token) (other : List Char) : List Char :=
  sql.take token.position.toNat ++ other ++ sql.drop token.stop.toNat

theorem overwrite_eq {sql : List Char} (other : List Char) {k : Nat} {token : Token}
    (present : (tokens sql)[k]? = some token) (inside : token.kind ≠ .endOfInput) :
    ∃ before after, lexemes sql = before ++ lexemeOf token :: after ∧ before.length = k ∧
      overwrite sql token other =
        (before.map (·.text)).flatten ++ other ++ (after.map (·.text)).flatten := by
  obtain ⟨before, after, found, length, start⟩ := split_of_getElem?_place present inside
  refine ⟨before, after, found, length, ?_⟩
  have whole := lexemes_joined sql
  rw [found, List.map_append, List.map_cons, List.flatten_append, List.flatten_cons] at whole
  have stop : token.stop.toNat = ((before.map (·.text)).flatten ++ token.text).length := by
    rw [Token.stop, start, List.length_append]
    omega
  have front : sql.take token.position.toNat = (before.map (·.text)).flatten := by
    rw [← whole, start, Nat.zero_add, Int.toNat_natCast, List.take_left]
  have back : sql.drop token.stop.toNat = (after.map (·.text)).flatten := by
    rw [← whole, ← List.append_assoc, stop]
    exact List.drop_left
  rw [overwrite, front, back]

/-- A lexeme in quotes or a comment gives its place to another of its kind. The other tokens keep
kind and text, so the parameters stay the same; the two texts for the driver are put together from
the same pieces, except that the piece of this token is the one text or the other. -/
theorem replace_sealed (sql other : List Char) (k : Nat) (token : Token)
    (present : (tokens sql)[k]? = some token)
    (isSealed : token.kind ∈ [.stringLiteral, .quotedIdentifier, .lineComment, .blockComment])
    (single : (tokens other).map lexemeOf = [⟨token.kind, other⟩, ⟨.endOfInput, []⟩])
    (terminated : Terminated ⟨token.kind, other⟩) :
    (tokens (overwrite sql token other)).map lexemeOf =
        ((tokens sql).map lexemeOf).set k ⟨token.kind, other⟩ ∧
      ∀ p : Placeholder,
        (splice (overwrite sql token other) p).2 = (splice sql p).2 ∧
        (replaced p (tokens sql))[k]? = some token.text ∧
        (splice sql p).1 = (replaced p (tokens sql)).flatten ∧
        (splice (overwrite sql token other) p).1 =
          ((replaced p (tokens sql)).set k other).flatten := by
  have inside : token.kind ≠ .endOfInput := by
    intro same
    simp [same] at isSealed
  obtain ⟨before, after, found, length, changed⟩ := overwrite_eq other present inside
  have alone : lexemes other = [⟨token.kind, other⟩] := by
    have both : lexemes other ++ [⟨.endOfInput, []⟩] =
        [⟨token.kind, other⟩] ++ [⟨.endOfInput, []⟩] :=
      (map_lexemeOf_tokens other).symm.trans single
    exact List.append_cancel_right both
  have scanned := lexemes_replace found isSealed alone terminated
  rw [← changed] at scanned
  have same (text : List Char) : isVariable token.kind text = false :=
    isVariable_of_sealed isSealed text
  have count (p : Placeholder) : (substitute p 0 before).length = k := by
    rw [length_substitute, length]
  -- Both rows of pieces are cut at the token; the end of the input is the last of those after it.
  have pieces (p : Placeholder) : replaced p (tokens sql) = substitute p 0 before ++
      token.text :: substitute p (variableNames before).length (after ++ [⟨.endOfInput, []⟩]) := by
    rw [replaced_eq_substitute, map_lexemeOf_tokens, found, List.append_assoc, List.cons_append,
      substitute_around p _ _ (same _)]
    rfl
  have changedPieces (p : Placeholder) :
      replaced p (tokens (overwrite sql token other)) = substitute p 0 before ++
        other :: substitute p (variableNames before).length (after ++ [⟨.endOfInput, []⟩]) := by
    rw [replaced_eq_substitute, map_lexemeOf_tokens, scanned, List.append_assoc, List.cons_append,
      substitute_around p _ _ (same _)]
  refine ⟨?_, fun p => ⟨?_, ?_, splice_fst sql p, ?_⟩⟩
  · rw [map_lexemeOf_tokens, map_lexemeOf_tokens, scanned, found, List.append_assoc,
      List.append_assoc, List.cons_append, List.cons_append, set_append_cons length]
  · have skipped (text : List Char) :
        variableNames (⟨token.kind, text⟩ :: after) = variableNames after :=
      variableNames_other (same text)
    simp only [splice_eq_substitute, scanned, found, variableNames_append, lexemeOf, skipped]
  · rw [pieces, List.getElem?_append_right (Nat.le_of_eq (count p)), count, Nat.sub_self]
    rfl
  · rw [splice_fst, pieces, changedPieces, set_append_cons (count p)]

theorem replace_sealed_string :
    (tokens (overwrite ":a-':b--':c".toList ⟨.stringLiteral, 3, "':b--'".toList⟩
        "'/*'''".toList)).map lexemeOf =
      [⟨.identifier, [':', 'a']⟩, ⟨.operator, ['-']⟩, ⟨.stringLiteral, "'/*'''".toList⟩,
        ⟨.identifier, [':', 'c']⟩, ⟨.endOfInput, []⟩] ∧
    ∀ p : Placeholder,
      (splice (overwrite ":a-':b--':c".toList ⟨.stringLiteral, 3, "':b--'".toList⟩
        "'/*'''".toList) p).2 = ["a", "c"] := by
  have scanned : tokens ":a-':b--':c".toList =
      [⟨.identifier, 0, [':', 'a']⟩, ⟨.operator, 2, ['-']⟩, ⟨.stringLiteral, 3, "':b--'".toList⟩,
        ⟨.identifier, 9, [':', 'c']⟩, ⟨.endOfInput, 11, []⟩] := by decide +kernel
  have single : (tokens "'/*'''".toList).map lexemeOf =
      [⟨.stringLiteral, "'/*'''".toList⟩, ⟨.endOfInput, []⟩] := by decide +kernel
  have closed : Terminated ⟨.stringLiteral, "'/*'''".toList⟩ := by
    change closes '\'' _ = true
    decide
  obtain ⟨kept, rewritten⟩ := replace_sealed ":a-':b--':c".toList "'/*'''".toList 2
    ⟨.stringLiteral, 3, "':b--'".toList⟩ (by rw [scanned]; rfl) (by decide) single closed
  rw [scanned] at kept
  refine ⟨kept, fun p => ?_⟩
  rw [(rewritten p).1, splice_eq_substitute]
  change variableNames _ = _
  decide +kernel

end SqlRoutes.Query
