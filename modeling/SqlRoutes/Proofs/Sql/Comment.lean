import SqlRoutes.Proofs.Sql.Place

/-!
Block comments against their grammar. Counting the open levels finds the end of a comment where the
grammar has it, behind a tail for each level. A text of which no front is a closed comment is taken
to its end.
-/
namespace SqlRoutes.Sql

/-- What follows the opening mark of a closed comment: closed comments, single characters at which
no mark stands, and the closing mark. -/
inductive Closes : List Char → Prop where
  | close : Closes ['*', '/']
  | comment {inner rest : List Char} (closed : Closes inner) (closes : Closes rest) :
      Closes ('/' :: '*' :: inner ++ rest)
  | char {c : Char} {rest : List Char} (noOpen : ¬['/', '*'] <+: c :: rest)
      (noClose : ¬['*', '/'] <+: c :: rest) (closes : Closes rest) : Closes (c :: rest)

def ClosedComment (text : List Char) : Prop :=
  ∃ tail, text = '/' :: '*' :: tail ∧ Closes tail

theorem no_mark {c d e : Char} {rest : List Char}
    (absent : ∀ more, c = d → rest = e :: more → False) : ¬(c = d ∧ rest.head? = some e) := by
  rintro ⟨same, head⟩
  obtain ⟨more, parts⟩ := List.head?_eq_some_iff.1 head
  exact absent more same parts

theorem two_prefix_iff {c d e : Char} {rest : List Char} :
    [d, e] <+: c :: rest ↔ c = d ∧ rest.head? = some e := by
  cases rest with
  | nil => simp
  | cons f rest => simp [List.cons_prefix_cons, eq_comm]

namespace Closes

variable {text : List Char}

theorem ne_nil (closes : Closes text) : text ≠ [] := by
  cases closes <;> exact List.cons_ne_nil _ _

theorem getLast? (closes : Closes text) : text.getLast? = some '/' := by
  induction closes with
  | close => rfl
  | comment closed closes inside behind => rw [List.getLast?_append, behind]; rfl
  | char noOpen noClose closes behind => rw [List.getLast?_cons, behind]; rfl

end Closes

/-- What is read behind the tail of a comment that is inside `depth` others. -/
def resumed : Nat → List Char → List Char × List Char
  | 0, rest => ([], rest)
  | depth + 1, rest => splitComment depth rest

theorem onto_onto (first second : List Char) (parts : List Char × List Char) :
    onto first (onto second parts) = onto (first ++ second) parts := by
  simp [onto]

theorem splitComment_append {text : List Char} (closes : Closes text) (depth : Nat)
    (rest : List Char) :
    splitComment depth (text ++ rest) = onto text (resumed depth rest) := by
  induction closes generalizing depth rest with
  | close => cases depth <;> rfl
  | @comment inner tail closed closes inside behind =>
    calc splitComment depth ('/' :: '*' :: inner ++ tail ++ rest)
        = onto ['/', '*'] (splitComment (depth + 1) (inner ++ (tail ++ rest))) := by
          rw [List.append_assoc]
          rfl
      _ = onto ['/', '*'] (onto inner (splitComment depth (tail ++ rest))) := by
          rw [inside]
          rfl
      _ = onto ('/' :: '*' :: inner ++ tail) (resumed depth rest) := by
          rw [behind, onto_onto, onto_onto]
          rfl
  | @char c tail noOpen noClose closes behind =>
    -- The tail has a first character, and no more than that decides whether a mark stands at `c`.
    obtain ⟨d, more, rfl⟩ := List.exists_cons_of_ne_nil closes.ne_nil
    have head : (d :: more ++ rest).head? = (d :: more).head? := rfl
    rw [two_prefix_iff, ← head] at noOpen noClose
    rw [List.cons_append, splitComment_other noClose noOpen, behind, onto_onto]
    rfl

/-- A tail for the innermost level and one for each level around it. -/
inductive ClosesAll : Nat → List Char → Prop where
  | last {text : List Char} (closes : Closes text) : ClosesAll 0 text
  | level {depth : Nat} {text rest : List Char} (closes : Closes text)
      (around : ClosesAll depth rest) : ClosesAll (depth + 1) (text ++ rest)

namespace ClosesAll

variable {depth : Nat} {text : List Char}

theorem extend (all : ClosesAll depth text) {front : List Char}
    (grow : ∀ tail, tail <+: text → Closes tail → Closes (front ++ tail)) :
    ClosesAll depth (front ++ text) := by
  cases all with
  | last closes => exact .last (grow _ List.prefix_rfl closes)
  | level closes around =>
    rw [← List.append_assoc]
    exact .level (grow _ (List.prefix_append _ _) closes) around

theorem comment (all : ClosesAll (depth + 1) text) : ClosesAll depth ('/' :: '*' :: text) := by
  cases all with
  | @level _ inner rest closed around =>
    exact around.extend fun tail _ closes => Closes.comment closed closes

theorem char (all : ClosesAll depth text) {c : Char} (noOpen : ¬['/', '*'] <+: c :: text)
    (noClose : ¬['*', '/'] <+: c :: text) : ClosesAll depth (c :: text) := by
  refine @extend depth text all [c] ?_
  intro tail isFront closes
  have longer : c :: tail <+: c :: text := (List.prefix_cons_inj c).2 isFront
  exact .char (fun opens => noOpen (opens.trans longer)) (fun ends => noClose (ends.trans longer))
    closes

end ClosesAll

/-- Counting comes to the end of the last level only behind tails of the grammar for all. -/
theorem closesAll_splitComment {depth : Nat} {text : List Char}
    (ended : levelsLeft depth text = 0) : ClosesAll depth (splitComment depth text).1 := by
  fun_induction levelsLeft depth text with
  | case1 depth => exact absurd ended (Nat.succ_ne_zero depth)
  | case2 tail => exact .last .close
  | case3 tail depth ih => exact .level .close (ih ended)
  | case4 depth tail ih => exact (ih ended).comment
  | case5 depth c tail closes opens ih =>
    have noClose := no_mark closes
    have noOpen := no_mark opens
    have longer : c :: (splitComment depth tail).1 <+: c :: tail :=
      (List.prefix_cons_inj c).2 ⟨_, splitComment_joined depth tail⟩
    rw [splitComment_other noClose noOpen]
    rw [← two_prefix_iff] at noClose noOpen
    exact (ih ended).char (fun isMark => noOpen (isMark.trans longer))
      (fun isMark => noClose (isMark.trans longer))

theorem splitComment_of_closes {body : List Char} (closes : Closes body) (rest : List Char) :
    splitComment 0 (body ++ rest) = (body, rest) := by
  rw [splitComment_append closes]
  simp [onto, resumed]

theorem splitComment_of_unclosed {tail : List Char}
    (unclosed : ∀ body, body <+: tail → ¬Closes body) : splitComment 0 tail = (tail, []) := by
  have joined := splitComment_joined 0 tail
  have ended : (splitComment 0 tail).2 = [] := by
    by_contra remains
    cases closesAll_splitComment (levelsLeft_eq_zero 0 tail remains) with
    | last closes => exact unclosed _ ⟨_, joined⟩ closes
  rw [ended, List.append_nil] at joined
  exact Prod.ext joined ended

theorem closed_front_iff {tail text : List Char} :
    text <+: '/' :: '*' :: tail ∧ ClosedComment text ↔
      ∃ body, text = '/' :: '*' :: body ∧ body <+: tail ∧ Closes body := by
  constructor
  · rintro ⟨isFront, body, rfl, closes⟩
    rw [List.prefix_cons_inj, List.prefix_cons_inj] at isFront
    exact ⟨body, rfl, isFront, closes⟩
  · rintro ⟨body, rfl, isFront, closes⟩
    rw [List.prefix_cons_inj, List.prefix_cons_inj]
    exact ⟨isFront, body, rfl, closes⟩

theorem Between.comment {sql tail : List Char} {before after : List Lexeme} {token : Token}
    (between : Between sql before token after)
    (here : sql.drop token.position.toNat = '/' :: '*' :: tail) :
    token.kind = .blockComment ∧ token.text = '/' :: '*' :: (splitComment 0 tail).1 ∧
      (after.map (·.text)).flatten = (splitComment 0 tail).2 := by
  obtain ⟨c, rest, same, rule⟩ := between.rule
  obtain ⟨rfl, rfl⟩ := List.cons.inj (here.symm.trans same)
  obtain ⟨kind, parts⟩ := rule.unique (.block tail)
  obtain ⟨text, behind⟩ := Prod.mk.inj parts
  exact ⟨kind, text, behind⟩

/-- A token at the opening mark of a comment is a comment. If a front of the text that is left is
a closed comment, there is one only and it is the token; else the token is all that is left. -/
theorem tokens_comment (sql : List Char) (i : Nat) (token : Token)
    (present : (tokens sql)[i]? = some token) :
    let left := sql.drop token.position.toNat
    ['/', '*'] <+: left →
      token.kind = .blockComment ∧
      ((∃ text, text <+: left ∧ ClosedComment text) →
        (∃! text, text <+: left ∧ ClosedComment text) ∧
          token.text <+: left ∧ ClosedComment token.text) ∧
      ((∀ text, text <+: left → ¬ClosedComment text) →
        token.text = left ∧ (tokens sql)[i + 1]? = some ⟨.endOfInput, sql.length, []⟩) := by
  rintro left ⟨tail, opened⟩
  have here : left = '/' :: '*' :: tail := opened.symm
  rcases between_of_getElem? present with rfl | ⟨before, after, between, rfl⟩
  · simp [left] at here
  obtain ⟨kind, text, behind⟩ := between.comment here
  rw [here]
  refine ⟨kind, ?_, ?_⟩
  · rintro ⟨closed, front⟩
    obtain ⟨body, rfl, ⟨rest, rfl⟩, closes⟩ := closed_front_iff.1 front
    have taken := splitComment_of_closes closes rest
    rw [text, taken]
    refine ⟨⟨_, front, ?_⟩, front⟩
    intro other otherFront
    obtain ⟨otherBody, rfl, ⟨otherRest, same⟩, otherCloses⟩ := closed_front_iff.1 otherFront
    rw [← same, splitComment_of_closes otherCloses] at taken
    rw [(Prod.mk.inj taken).1]
  · intro none
    have unclosed : ∀ body, body <+: tail → ¬Closes body := by
      intro body isFront closes
      obtain ⟨front, closed⟩ := closed_front_iff.2 ⟨body, rfl, isFront, closes⟩
      exact none _ front closed
    rw [splitComment_of_unclosed unclosed] at text behind
    obtain ⟨next, follows, -, ended⟩ := between.next
    exact ⟨text, by rw [follows, ended behind]⟩

theorem tokens_comment_levels :
    (tokens "a/*/*/**/*/*/-/*/".toList)[1]? = some ⟨.blockComment, 1, "/*/*/**/*/*/".toList⟩ ∧
      (∃! text, text <+: "/*/*/**/*/*/-/*/".toList ∧ ClosedComment text) ∧
      (tokens "a/*/*/**/*/*/-/*/".toList)[3]? = some ⟨.blockComment, 14, "/*/".toList⟩ ∧
      (tokens "a/*/*/**/*/*/-/*/".toList)[4]? = some ⟨.endOfInput, 17, []⟩ := by
  have first : (tokens "a/*/*/**/*/*/-/*/".toList)[1]? =
      some ⟨.blockComment, 1, "/*/*/**/*/*/".toList⟩ := by decide +kernel
  have closed : ClosedComment "/*/*/**/*/*/".toList :=
    ⟨_, rfl, .comment (.comment .close .close) .close⟩
  obtain ⟨-, found, -⟩ := tokens_comment "a/*/*/**/*/*/-/*/".toList 1 _ first ⟨_, rfl⟩
  have last : (tokens "a/*/*/**/*/*/-/*/".toList)[3]? =
      some ⟨.blockComment, 14, "/*/".toList⟩ := by decide +kernel
  have unclosed : ∀ text, text <+: "/*/".toList → ¬ClosedComment text := by
    intro text isFront isClosed
    obtain ⟨body, rfl, inside, closes⟩ := closed_front_iff.1 ⟨isFront, isClosed⟩
    have short := inside.length_le
    cases closes with
    | close => simp at short
    | comment => simp at short
    | char noOpen noClose closes => exact closes.ne_nil (by simpa using short)
  obtain ⟨-, -, ended⟩ := tokens_comment "a/*/*/**/*/*/-/*/".toList 3 _ last ⟨_, rfl⟩
  exact ⟨first, (found ⟨_, ⟨"-/*/".toList, rfl⟩, closed⟩).1, last, (ended unclosed).2⟩

end SqlRoutes.Sql
