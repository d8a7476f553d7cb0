import Mathlib.Data.Nat.Init
import SqlRoutes.Proofs.Query.Sealed
import SqlRoutes.Proofs.Sql.Comment
import SqlRoutes.Proofs.Sql.Quote
import SqlRoutes.Query.Basic

/-!
Which colons are bind variables. A run of colons outside quotes and comments is read in pairs, each
of them a cast operator; the colon that is left over if their number is odd makes a variable of the
name behind it. No other token has a colon, so the variables can be told from the text alone.
-/
namespace SqlRoutes.Query

open Sql

/-- All colons that stand between `before` and `after`, `count` of them, none of which is in quotes
or in a comment. -/
structure ColonRun (sql before : List Char) (count : Nat) (after : List Char) : Prop where
  text : sql = before ++ (List.replicate count ':' ++ after)
  filled : 0 < count
  starts : before.getLast? ≠ some ':'
  ends : after.head? ≠ some ':'
  outside : ∀ token ∈ tokens sql, token.kind ∈ sealedKinds →
    token.stop ≤ before.length ∨ (before.length + count : Nat) ≤ token.position

/-- How `count` colons are read before `after`: casts, and a variable if a colon is left over. -/
def colonRow (count : Nat) (after : List Char) : List Lexeme :=
  List.replicate (count / 2) ⟨.operator, [':', ':']⟩ ++
    if count % 2 = 1 then [⟨.identifier, ':' :: after.takeWhile continuesName⟩] else []

section Rows

variable {count : Nat} {rest after : List Char}

theorem bare_colon (rest : List Char) : Bare ':' rest where
  noString := by decide
  noQuoted := by decide
  noLineComment := by simp
  noBlockComment := by simp
  noNumber := by simp [startsNumber]
  noSpace := by decide

theorem split_two_colons (rest : List Char) :
    split ':' (':' :: rest) = (.operator, [':', ':'], rest) :=
  split_of_rule (.operator (bare_colon _) rfl)

theorem operator?_lone_colon (alone : rest.head? ≠ some ':') : operator? (':' :: rest) = none := by
  have two : ∀ operator ∈ operators, operator.head? = some ':' → operator = [':', ':'] := by decide
  rw [operator?_eq_none_iff]
  rintro operator member ⟨tail, joined⟩
  obtain ⟨c, front, rfl, -⟩ := bare_of_mem_operators member
  obtain ⟨rfl, same⟩ := List.cons.inj joined
  obtain ⟨-, rfl⟩ := List.cons.inj (two _ member rfl)
  exact alone (by rw [← same]; rfl)

theorem split_lone_colon (alone : rest.head? ≠ some ':') :
    split ':' rest =
      (.identifier, ':' :: rest.takeWhile continuesName, rest.dropWhile continuesName) :=
  split_of_rule (.name (bare_colon rest) (operator?_lone_colon alone))

theorem lexemes_colons (count : Nat) (ends : after.head? ≠ some ':') :
    ∃ later, lexemes (List.replicate count ':' ++ after) = colonRow count after ++ later := by
  induction count using Nat.twoStepInduction with
  | zero => exact ⟨lexemes after, rfl⟩
  | one =>
    refine ⟨lexemes (after.dropWhile continuesName), ?_⟩
    rw [List.replicate_one, List.singleton_append, lexemes, split_lone_colon ends]
    rfl
  | more count ih _ =>
    obtain ⟨later, read⟩ := ih
    have half : (count + 2) / 2 = count / 2 + 1 := by omega
    have parity : (count + 2) % 2 = count % 2 := by omega
    refine ⟨later, ?_⟩
    rw [List.replicate_succ, List.replicate_succ, List.cons_append, List.cons_append, lexemes,
      split_two_colons, colonRow, half, parity, List.replicate_succ]
    exact congrArg (⟨.operator, [':', ':']⟩ :: ·) read

theorem count_le_length_colonRow (count : Nat) (after : List Char) :
    count ≤ ((colonRow count after).map (·.text)).flatten.length := by
  by_cases odd : count % 2 = 1
  · simp [colonRow, odd]
    omega
  · simp [colonRow, odd]
    omega

end Rows

section Edges

variable {kind : Kind} {text rest : List Char}

theorem after?_eq_none {numeral : Numeral} {c : Char} (member : c ∈ text)
    (inert : ∀ numeral : Numeral, numeral.next? c = none) : numeral.after? text = none := by
  induction text generalizing numeral with
  | nil => exact absurd member List.not_mem_nil
  | cons d text ih =>
    rw [Numeral.after?_cons, Option.bind_eq_none_iff]
    intro next passed
    rcases List.mem_cons.1 member with rfl | later
    · rw [inert numeral] at passed
      cases passed
    · exact ih later

theorem text_of_colon (form : Form ⟨kind, text⟩) (isOpen : kind ∉ sealedKinds)
    (member : ':' ∈ text) : text = [':', ':'] ∨ ∃ name, text = ':' :: name ∧ ':' ∉ name := by
  cases kind with
  | stringLiteral | quotedIdentifier | lineComment | blockComment => simp [sealedKinds] at isOpen
  | numeric =>
    obtain ⟨-, -, last, -, -, whole⟩ := form
    have mark : Mark ':' := by decide
    rw [after?_eq_none member mark.next?_eq_none] at whole
    cases whole
  | whitespace => exact absurd (form.2 ':' member) (by decide)
  | operator =>
    have two : ∀ operator ∈ operators, ':' ∈ operator → operator = [':', ':'] := by decide
    exact .inl (two text form member)
  | identifier =>
    obtain ⟨c, name, same, -, -, continues⟩ := form
    have same : text = c :: name := same
    have absent : ':' ∉ name := fun inside => absurd (continues ':' inside) (by decide)
    rw [same] at member
    rcases List.mem_cons.1 member with rfl | inside
    · exact .inr ⟨name, same, absent⟩
    · exact absurd inside absent
  | endOfInput => exact form.elim

theorem colon_of_colon (form : Form ⟨kind, text⟩) (isOpen : kind ∉ sealedKinds) {k : Nat}
    (colon : text[k + 1]? = some ':') : text[k]? = some ':' := by
  rcases text_of_colon form isOpen (List.mem_of_getElem? colon) with rfl | ⟨name, rfl, absent⟩
  · cases k with
    | zero => rfl
    | succ k => simp at colon
  · rw [List.getElem?_cons_succ] at colon
    exact absurd (List.mem_of_getElem? colon) absent

theorem edges_of_sealed (stands : Stands ⟨kind, text⟩ rest) (isSealed : kind ∈ sealedKinds) :
    text.head? ≠ some ':' ∧ (rest ≠ [] → text.getLast? ≠ some ':') := by
  have quoted {quote : Char} (quotes : Quotes quote kind) (other : quote ≠ ':') :
      text.head? ≠ some ':' ∧ (rest ≠ [] → text.getLast? ≠ some ':') := by
    obtain ⟨tail, rfl, closing⟩ := quotes.closing stands
    refine ⟨by simpa using other, fun remains => ?_⟩
    cases closing with
    | closed inner alone => simpa [List.getLast?_cons] using other
    | unclosed inner => exact absurd rfl remains
  obtain ⟨form, fits⟩ := (stands_iff_form _ _).1 stands
  simp only [sealedKinds, List.mem_cons, List.not_mem_nil, or_false] at isSealed
  rcases isSealed with rfl | rfl | rfl | rfl
  · exact quoted .string (by decide)
  · exact quoted .name (by decide)
  · obtain ⟨tail, rfl, -⟩ := form
    refine ⟨by simp, fun remains => ?_⟩
    rw [fits.resolve_left remains]
    decide
  · obtain ⟨tail, rfl, whole⟩ := form
    refine ⟨by simp, fun remains => ?_⟩
    have all := closesAll_splitComment (fits.resolve_left remains)
    rw [List.drop_succ_cons, List.drop_succ_cons, List.drop_zero, whole] at all
    cases all with
    | last closes => simp [List.getLast?_cons, closes.getLast?]

end Edges

section Places

variable {sql before after : List Char} {count place : Nat} {token : Token}
  {earlier later : List Lexeme}

theorem getElem?_colons (text : sql = before ++ (List.replicate count ':' ++ after))
    (starts : before.length ≤ place) (stops : place < before.length + count) :
    sql[place]? = some ':' := by
  rw [text, List.getElem?_append_right starts,
    List.getElem?_append_left (by rw [List.length_replicate]; omega),
    List.getElem?_replicate_of_lt (by omega)]

theorem exists_leading_colons (text : List Char) :
    ∃ count after, text = List.replicate count ':' ++ after ∧ after.head? ≠ some ':' := by
  induction text with
  | nil => exact ⟨0, [], rfl, by simp⟩
  | cons c text ih =>
    by_cases same : c = ':'
    · obtain ⟨count, after, rfl, ends⟩ := ih
      exact ⟨count + 1, after, by rw [same, List.replicate_succ, List.cons_append], ends⟩
    · exact ⟨0, c :: text, rfl, by simpa using same⟩

theorem exists_colons (front back : List Char) :
    ∃ before count after, front ++ ':' :: back = before ++ (List.replicate count ':' ++ after) ∧
      before.getLast? ≠ some ':' ∧ after.head? ≠ some ':' ∧ before.length ≤ front.length ∧
      front.length < before.length + count := by
  obtain ⟨left, before, reversed, starts⟩ := exists_leading_colons front.reverse
  obtain ⟨right, after, rfl, ends⟩ := exists_leading_colons back
  have front_eq : front = before.reverse ++ List.replicate left ':' := by
    rw [← List.reverse_reverse front, reversed, List.reverse_append, List.reverse_replicate]
  refine ⟨before.reverse, left + (right + 1), after, ?_, ?_, ends, ?_, ?_⟩
  · rw [front_eq, ← List.replicate_append_replicate, List.replicate_succ]
    simp only [List.append_assoc, List.cons_append]
  · rwa [List.getLast?_reverse]
  · rw [front_eq, List.length_append]
    exact Nat.le_add_right _ _
  · rw [front_eq, List.length_append, List.length_replicate]
    omega

theorem edges_of_between (between : Between sql earlier token later)
    (isSealed : token.kind ∈ sealedKinds) :
    sql[token.position.toNat]? ≠ some ':' ∧
      (token.stop < sql.length → sql[token.stop.toNat - 1]? ≠ some ':') := by
  obtain ⟨first, last⟩ := edges_of_sealed between.stands isSealed
  have length := between.length_pos
  have position := between.position
  constructor
  · rw [← Nat.add_zero token.position.toNat, between.getElem? length, ← List.head?_eq_getElem?]
    exact first
  · intro inside
    rw [Token.stop] at inside
    have remains : (later.map (·.text)).flatten ≠ [] := by
      rw [← between.behind, Ne, List.drop_eq_nil_iff, Token.stop]
      omega
    have stop : token.stop.toNat - 1 = token.position.toNat + (token.text.length - 1) := by
      rw [Token.stop]
      omega
    rw [stop, between.getElem? (Nat.sub_lt length Nat.one_pos), ← List.getLast?_eq_getElem?]
    exact last remains

theorem ColonRun.exists_between (run : ColonRun sql before count after) :
    ∃ earlier token later, Between sql earlier token later ∧ token.position = before.length := by
  have filled := run.filled
  have inside : before.length < sql.length := by
    rw [run.text, List.length_append, List.length_append, List.length_replicate]
    omega
  obtain ⟨earlier, token, later, between, covers⟩ := Sql.exists_between inside
  have position := between.position
  have isOpen : token.kind ∉ sealedKinds := by
    intro isSealed
    obtain ⟨starts, stops⟩ := covers
    rcases run.outside token between.mem_tokens isSealed with earlier | later
    · omega
    · omega
  have colon := getElem?_colons run.text (Nat.le_refl _) (Nat.lt_add_of_pos_right filled)
  obtain ⟨k, reached, place⟩ := between.exists_index covers
  refine ⟨earlier, token, later, between, ?_⟩
  cases k with
  | zero => omega
  | succ k =>
    -- Then the colon before the run would be another one of the token.
    rw [place, between.getElem? reached] at colon
    have last := colon_of_colon between.form isOpen colon
    rw [← between.getElem? (Nat.lt_of_succ_lt reached), run.text,
      List.getElem?_append_left (by omega)] at last
    have end_eq : token.position.toNat + k = before.length - 1 := by omega
    rw [end_eq, ← List.getLast?_eq_getElem?] at last
    exact absurd last run.starts

theorem ColonRun.row (run : ColonRun sql before count after) :
    placed before.length (colonRow count after) <:+: tokens sql := by
  obtain ⟨earlier, token, later, between, starts⟩ := run.exists_between
  obtain ⟨others, read⟩ := lexemes_colons count run.ends
  have position : (earlier.map (·.text)).flatten.length = before.length :=
    Int.ofNat.inj (between.position.symm.trans starts)
  have left := between.lexemes_left
  rw [starts, Int.toNat_natCast, run.text, List.drop_left, read] at left
  have cut := (tokens_cut between.scanned).1
  rw [← left, place_append, position, ← List.append_assoc] at cut
  exact ⟨_, _, cut.symm⟩

theorem outside_of_open (text : sql = before ++ (List.replicate count ':' ++ after))
    (between : Between sql earlier token later) (isOpen : token.kind ∉ sealedKinds)
    (starts : (before.length : Int) ≤ token.position)
    (stops : token.position < (before.length + count : Nat)) :
    ∀ other ∈ tokens sql, other.kind ∈ sealedKinds →
      other.stop ≤ before.length ∨ (before.length + count : Nat) ≤ other.position := by
  intro other member isSealed
  rcases between_of_mem member with rfl | ⟨_, _, otherBetween⟩
  · simp [sealedKinds] at isSealed
  obtain ⟨first, last⟩ := edges_of_between otherBetween isSealed
  have different : other ≠ token := by
    rintro rfl
    exact isOpen isSealed
  have position := otherBetween.position
  have length := between.length_pos
  have whole := congrArg List.length text
  rw [List.length_append, List.length_append, List.length_replicate] at whole
  by_contra within
  rw [not_or] at within
  -- The last character of the one before, or the first of the one behind, would be a colon.
  rcases separate_of_mem member between.mem_tokens different with earlier | later
  · exact last (by omega) (getElem?_colons text (by omega) (by omega))
  · rw [Token.stop] at later
    exact first (getElem?_colons text (by omega) (by omega))

theorem exists_run (between : Between sql earlier token later) (isOpen : token.kind ∉ sealedKinds)
    (member : ':' ∈ token.text) :
    ∃ before count after, ColonRun sql before count after ∧
      token ∈ placed before.length (colonRow count after) := by
  obtain ⟨name, same⟩ : ∃ name, token.text = ':' :: name := by
    rcases text_of_colon between.form isOpen member with same | ⟨name, same, -⟩
    · exact ⟨[':'], same⟩
    · exact ⟨name, same⟩
  have whole := between.whole
  have position := between.position
  rw [same, List.cons_append] at whole
  obtain ⟨before, count, after, text, starts, ends, reached, passed⟩ :=
    exists_colons (earlier.map (·.text)).flatten (name ++ (later.map (·.text)).flatten)
  rw [← whole] at text
  have run : ColonRun sql before count after :=
    ⟨text, by omega, starts, ends, outside_of_open text between isOpen (by omega) (by omega)⟩
  have long := count_le_length_colonRow count after
  obtain ⟨first, present, covers⟩ := exists_covers reached
    (Nat.lt_of_lt_of_le passed (Nat.add_le_add_left long _))
  have own : token.Covers (earlier.map (·.text)).flatten.length := by
    refine ⟨Int.le_of_eq position, ?_⟩
    rw [Token.stop, same, List.length_cons]
    omega
  obtain rfl := eq_of_covers between.mem_tokens (run.row.subset present) own covers
  exact ⟨before, count, after, run, present⟩

end Places

section Variables

variable {sql before after : List Char} {count : Nat} {token : Token}

theorem isBind_iff :
    isBind token = true ↔ token.kind = .identifier ∧ token.text.head? = some ':' :=
  isVariable_iff

theorem mem_row_iff {position : Nat} (named : token.kind = .identifier) :
    token ∈ placed position (colonRow count after) ↔ count % 2 = 1 ∧
      token = ⟨.identifier, position + count - 1, ':' :: after.takeWhile continuesName⟩ := by
  have others : token ∉ placed position (List.replicate (count / 2) ⟨.operator, [':', ':']⟩) := by
    intro member
    have kind : token.kind ∈ (placed position _).map (·.kind) := List.mem_map_of_mem member
    rw [map_kind_placed, List.map_replicate, List.mem_replicate, named] at kind
    cases kind.2
  rw [colonRow, placed_append, List.mem_append, or_iff_right others]
  by_cases odd : count % 2 = 1
  · have last : ((position + count / 2 * 2 : Nat) : Int) = position + count - 1 := by omega
    simp [odd, placed, last]
  · simp [odd, placed]

theorem exists_odd_run (member : token ∈ tokens sql) (bind : isBind token = true) :
    ∃ before count after, ColonRun sql before count after ∧ count % 2 = 1 ∧
      token = ⟨.identifier, before.length + count - 1, ':' :: after.takeWhile continuesName⟩ := by
  obtain ⟨named, head⟩ := isBind_iff.1 bind
  rcases between_of_mem member with rfl | ⟨earlier, later, between⟩
  · cases named
  obtain ⟨before, count, after, run, present⟩ :=
    exists_run between (by rw [named]; decide) (List.mem_of_head? head)
  exact ⟨before, count, after, run, (mem_row_iff named).1 present⟩

/-- The places of the bind variables, which are those of their colons. -/
def bindPlaces (sql : List Char) : List Nat :=
  ((tokens sql).filter isBind).map (·.position.toNat)

theorem pairwise_bindPlaces (sql : List Char) : (bindPlaces sql).Pairwise (· < ·) := by
  refine List.pairwise_map.2 (((pairwise_place 0 (lexemes sql)).filter _).imp_of_mem ?_)
  intro first second member _ behind
  obtain ⟨listed, bind⟩ := List.mem_filter.1 member
  obtain ⟨before, count, after, run, odd, rfl⟩ := exists_odd_run listed bind
  rw [Token.stop, List.length_cons] at behind
  dsimp only at behind ⊢
  omega

theorem mem_bindPlaces_iff {place : Nat} :
    place ∈ bindPlaces sql ↔ ∃ before count after, ColonRun sql before count after ∧
      count % 2 = 1 ∧ place + 1 = before.length + count := by
  constructor
  · intro member
    obtain ⟨token, bind, rfl⟩ := List.mem_map.1 member
    obtain ⟨listed, bind⟩ := List.mem_filter.1 bind
    obtain ⟨before, count, after, run, odd, rfl⟩ := exists_odd_run listed bind
    exact ⟨before, count, after, run, odd, by dsimp only; omega⟩
  · rintro ⟨before, count, after, run, odd, last⟩
    have listed := run.row.subset ((mem_row_iff rfl).2 ⟨odd, rfl⟩)
    refine List.mem_map.2 ⟨_, List.mem_filter.2 ⟨listed, isBind_iff.2 ⟨rfl, rfl⟩⟩, ?_⟩
    dsimp only
    omega

theorem variableNames_eq_bindPlaces (sql : List Char) :
    variableNames (lexemes sql) = (bindPlaces sql).map fun place =>
      String.ofList ((sql.drop (place + 1)).takeWhile continuesName) := by
  rw [variableNames_lexemes, bindPlaces, List.map_map]
  apply List.map_congr_left
  intro token member
  obtain ⟨listed, bind⟩ := List.mem_filter.1 member
  obtain ⟨before, count, after, run, odd, rfl⟩ := exists_odd_run listed bind
  have behind : sql.drop (((before.length : Int) + count - 1).toNat + 1) = after := by
    have length : ((before.length : Int) + count - 1).toNat + 1 = before.length + count := by omega
    have start : before.length + count = (before ++ List.replicate count ':').length := by simp
    rw [length, start, run.text, ← List.append_assoc, List.drop_left]
  rw [Function.comp_apply, behind]
  rfl

end Variables

/-- The colons outside quotes and comments are read run by run: a cast for each pair from the left,
and one bind variable with the name behind the last colon if there is an odd number of them. No
other token has a colon, except in quotes or in a comment. So the parameters are the names behind
the runs of odd length, in order. -/
theorem tokens_colons (sql : List Char) :
    (∀ before count after, ColonRun sql before count after →
      placed before.length (colonRow count after) <:+: tokens sql) ∧
    (∀ token ∈ tokens sql, token.kind = .identifier → token.text.head? = some ':' →
      ∃ before count after, ColonRun sql before count after ∧ count % 2 = 1 ∧
        token = ⟨.identifier, before.length + count - 1, ':' :: after.takeWhile continuesName⟩) ∧
    (∀ token ∈ tokens sql, token.kind ∉ sealedKinds → ':' ∈ token.text →
      ∃ before count after, ColonRun sql before count after ∧
        token ∈ placed before.length (colonRow count after)) ∧
    ∃ places : List Nat, places.Pairwise (· < ·) ∧
      (∀ place, place ∈ places ↔ ∃ before count after, ColonRun sql before count after ∧
        count % 2 = 1 ∧ place + 1 = before.length + count) ∧
      ∀ p name, (ofSql (String.ofList sql) p name).parameters =
        places.map fun place =>
          String.ofList ((sql.drop (place + 1)).takeWhile continuesName) := by
  refine ⟨fun before count after run => run.row, ?_, ?_, bindPlaces sql, pairwise_bindPlaces sql,
    fun place => mem_bindPlaces_iff, ?_⟩
  · intro token member named head
    exact exists_odd_run member (isBind_iff.2 ⟨named, head⟩)
  · intro token member isOpen colon
    rcases between_of_mem member with rfl | ⟨earlier, later, between⟩
    · cases colon
    · exact exists_run between isOpen colon
  · intro p name
    rw [ofSql, splice_eq_substitute, String.toList_ofList]
    exact variableNames_eq_bindPlaces sql

theorem tokens_colons_quoted :
    ColonRun "':':::a::b".toList "':'".toList 3 "a::b".toList ∧
      [⟨.operator, 3, [':', ':']⟩, ⟨.identifier, 5, [':', 'a']⟩] <:+:
        tokens "':':::a::b".toList ∧
      ∃ before count after, ColonRun "':':::a::b".toList before count after ∧
        (⟨.operator, 7, [':', ':']⟩ : Token) ∈ placed before.length (colonRow count after) := by
  have scanned : tokens "':':::a::b".toList =
      [⟨.stringLiteral, 0, "':'".toList⟩, ⟨.operator, 3, [':', ':']⟩,
        ⟨.identifier, 5, [':', 'a']⟩, ⟨.operator, 7, [':', ':']⟩, ⟨.identifier, 9, ['b']⟩,
        ⟨.endOfInput, 10, []⟩] := by decide +kernel
  have run : ColonRun "':':::a::b".toList "':'".toList 3 "a::b".toList :=
    ⟨rfl, by decide, by decide, by decide, by rw [scanned]; decide⟩
  obtain ⟨rows, -, others, -⟩ := tokens_colons "':':::a::b".toList
  refine ⟨run, rows _ _ _ run, others _ ?_ (by decide) (by decide)⟩
  rw [scanned]
  decide

end SqlRoutes.Query
