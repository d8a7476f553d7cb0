import Mathlib.Data.List.Pairwise
import SqlRoutes.Proofs.Sql.Stretch

/-!
Tokens in their places. A token cuts the row of lexemes in two; its position is the length of what
stands before it, and the next token starts where it stops. No place of the text belongs to two
tokens, and each belongs to one.
-/
namespace SqlRoutes.Sql

/-- The token is the lexeme between two parts of the row and starts where the first one ends. -/
structure Between (sql : List Char) (before : List Lexeme) (token : Token) (after : List Lexeme) :
    Prop where
  scanned : lexemes sql = before ++ ⟨token.kind, token.text⟩ :: after
  position : token.position = (before.map (·.text)).flatten.length

namespace Between

variable {sql : List Char} {before after : List Lexeme} {token : Token}

theorem stands (between : Between sql before token after) :
    Stands ⟨token.kind, token.text⟩ (after.map (·.text)).flatten := by
  have standing : Standing [] (before ++ ⟨token.kind, token.text⟩ :: after) :=
    between.scanned ▸ standing_lexemes sql
  simpa using standing.of_append.1

theorem form (between : Between sql before token after) : Form ⟨token.kind, token.text⟩ :=
  ((stands_iff_form _ _).1 between.stands).1

theorem length_pos (between : Between sql before token after) : 0 < token.text.length :=
  List.length_pos_iff.2 between.stands.ne_nil

theorem whole (between : Between sql before token after) :
    sql = (before.map (·.text)).flatten ++ (token.text ++ (after.map (·.text)).flatten) := by
  rw [← lexemes_joined sql, between.scanned, List.map_append, List.flatten_append, List.map_cons,
    List.flatten_cons]

theorem left (between : Between sql before token after) :
    sql.drop token.position.toNat = token.text ++ (after.map (·.text)).flatten := by
  rw [between.position, Int.toNat_natCast, between.whole, List.drop_left]

theorem getElem? (between : Between sql before token after) {k : Nat}
    (inside : k < token.text.length) : sql[token.position.toNat + k]? = token.text[k]? := by
  rw [← List.getElem?_drop, between.left, List.getElem?_append_left inside]

theorem rule (between : Between sql before token after) :
    ∃ c tail, sql.drop token.position.toNat = c :: tail ∧
      Rule c tail token.kind (token.text, (after.map (·.text)).flatten) := by
  obtain ⟨c, tail, text, rule⟩ := between.stands
  have text : token.text = c :: tail := text
  exact ⟨c, _, by rw [between.left, text, List.cons_append], rule⟩

theorem behind (between : Between sql before token after) :
    sql.drop token.stop.toNat = (after.map (·.text)).flatten := by
  have stop : token.stop.toNat = token.position.toNat + token.text.length := by
    rw [Token.stop, between.position]
    omega
  rw [stop, ← List.drop_drop, between.left, List.drop_left]

theorem lexemes_left (between : Between sql before token after) :
    lexemes (sql.drop token.position.toNat) = ⟨token.kind, token.text⟩ :: after := by
  have alone := @lexemes_middle sql before (⟨token.kind, token.text⟩ :: after) []
    (by rw [List.append_nil, between.scanned])
  rwa [between.left]

theorem getElem?_tokens (between : Between sql before token after) (k : Nat) :
    (tokens sql)[before.length + k]? =
      (place (before.map (·.text)).flatten.length (⟨token.kind, token.text⟩ :: after))[k]? := by
  have beyond : (placed 0 before).length ≤ before.length + k := by
    rw [length_placed]
    exact Nat.le_add_right _ k
  rw [(tokens_cut between.scanned).1, List.getElem?_append_right beyond, length_placed,
    Nat.add_sub_cancel_left]

theorem mem_tokens (between : Between sql before token after) : token ∈ tokens sql := by
  have present := between.getElem?_tokens 0
  rw [place, ← between.position] at present
  exact List.mem_of_getElem? present

theorem after_eq_nil (between : Between sql before token after)
    (ended : (after.map (·.text)).flatten = []) : after = [] := by
  cases after with
  | nil => rfl
  | cons lexeme after =>
    have standing : Standing [] (before ++ ⟨token.kind, token.text⟩ :: lexeme :: after) :=
      between.scanned ▸ standing_lexemes sql
    have filled := standing.of_append.2.1.ne_nil
    exact absurd (List.append_eq_nil_iff.1 ended).1 filled

theorem next (between : Between sql before token after) :
    ∃ next, (tokens sql)[before.length + 1]? = some next ∧ next.position = token.stop ∧
      ((after.map (·.text)).flatten = [] → next = ⟨.endOfInput, sql.length, []⟩) := by
  have present := between.getElem?_tokens 1
  rw [place, List.getElem?_cons_succ] at present
  obtain ⟨next, others, row, position, -⟩ :=
    place_eq_cons ((before.map (·.text)).flatten.length + token.text.length) after
  rw [row] at present
  refine ⟨next, present, ?_, ?_⟩
  · rw [position, Token.stop, between.position, Int.natCast_add]
  · intro ended
    obtain rfl := between.after_eq_nil ended
    have length := congrArg List.length between.whole
    rw [ended, List.append_nil, List.length_append] at length
    obtain ⟨rfl, -⟩ := List.cons.inj row
    rw [length]

end Between

theorem between_of_getElem? {sql : List Char} {i : Nat} {token : Token}
    (present : (tokens sql)[i]? = some token) :
    token = ⟨.endOfInput, sql.length, []⟩ ∨
      ∃ before after, Between sql before token after ∧ before.length = i := by
  have inside : i < (tokens sql).length := (List.getElem?_eq_some_iff.1 present).1
  rw [tokens_eq, List.length_append, length_placed, List.length_singleton] at inside
  have scanned := (List.take_append_drop i (lexemes sql)).symm
  have length : ((lexemes sql).take i).length = i := by
    rw [List.length_take]
    omega
  generalize (lexemes sql).take i = before at scanned length
  have reached : (placed 0 before).length ≤ i :=
    Nat.le_of_eq ((length_placed 0 before).trans length)
  cases later : (lexemes sql).drop i with
  | nil =>
    left
    rw [later, List.append_nil] at scanned
    rw [tokens_eq, scanned, List.getElem?_append_right reached, length_placed, length,
      Nat.sub_self] at present
    exact (Option.some.inj present).symm
  | cons lexeme after =>
    right
    rw [later] at scanned
    rw [(tokens_cut scanned).1, List.getElem?_append_right reached, length_placed, length,
      Nat.sub_self] at present
    obtain rfl := Option.some.inj present
    exact ⟨before, after, ⟨scanned, rfl⟩, length⟩

theorem between_of_mem {sql : List Char} {token : Token} (member : token ∈ tokens sql) :
    token = ⟨.endOfInput, sql.length, []⟩ ∨
      ∃ before after, Between sql before token after := by
  obtain ⟨i, present⟩ := List.mem_iff_getElem?.1 member
  rcases between_of_getElem? present with ended | ⟨before, after, between, -⟩
  · exact .inl ended
  · exact .inr ⟨before, after, between⟩

namespace Token

def Covers (token : Token) (place : Nat) : Prop :=
  token.position ≤ place ∧ place < token.stop

def Separate (first second : Token) : Prop :=
  first.stop ≤ second.position ∨ second.stop ≤ first.position

instance : Std.Symm Separate := ⟨fun _ _ => Or.symm⟩

end Token

theorem Between.exists_index {sql : List Char} {before after : List Lexeme} {token : Token}
    (between : Between sql before token after) {place : Nat} (covers : token.Covers place) :
    ∃ k, k < token.text.length ∧ place = token.position.toNat + k := by
  obtain ⟨starts, stops⟩ := covers
  have position := between.position
  rw [Token.stop] at stops
  exact ⟨place - token.position.toNat, by omega, by omega⟩

theorem position_le_of_mem_place {position : Nat} {found : List Lexeme} {token : Token}
    (member : token ∈ place position found) : (position : Int) ≤ token.position := by
  induction found generalizing position with
  | nil =>
    obtain rfl := List.mem_singleton.1 member
    exact Int.le_refl _
  | cons lexeme found ih =>
    rcases List.mem_cons.1 member with rfl | later
    · exact Int.le_refl _
    · have behind := ih later
      omega

theorem pairwise_place (position : Nat) (found : List Lexeme) :
    (place position found).Pairwise fun first second => first.stop ≤ second.position := by
  induction found generalizing position with
  | nil => exact List.pairwise_singleton _ _
  | cons lexeme found ih =>
    refine List.pairwise_cons.2 ⟨?_, ih _⟩
    intro token member
    have behind := position_le_of_mem_place member
    rwa [Int.natCast_add] at behind

theorem separate_of_mem {sql : List Char} {first second : Token} (firstMember : first ∈ tokens sql)
    (secondMember : second ∈ tokens sql) (other : first ≠ second) : first.Separate second := by
  have separate : (tokens sql).Pairwise Token.Separate :=
    (pairwise_place 0 (lexemes sql)).imp Or.inl
  exact separate.forall firstMember secondMember other

theorem eq_of_covers {sql : List Char} {first second : Token} {place : Nat}
    (firstMember : first ∈ tokens sql) (secondMember : second ∈ tokens sql)
    (firstCovers : first.Covers place) (secondCovers : second.Covers place) : first = second := by
  by_contra other
  obtain ⟨firstStarts, firstStops⟩ := firstCovers
  obtain ⟨secondStarts, secondStops⟩ := secondCovers
  rcases separate_of_mem firstMember secondMember other with earlier | later
  · omega
  · omega

theorem placed_append (position : Nat) (first second : List Lexeme) :
    placed position (first ++ second) =
      placed position first ++ placed (position + (first.map (·.text)).flatten.length) second := by
  induction first generalizing position with
  | nil => rfl
  | cons lexeme first ih => simp [placed, ih, Nat.add_assoc]

theorem exists_covers {position place : Nat} {found : List Lexeme} (starts : position ≤ place)
    (stops : place < position + (found.map (·.text)).flatten.length) :
    ∃ token ∈ placed position found, token.Covers place := by
  induction found generalizing position with
  | nil => simp at stops; omega
  | cons lexeme found ih =>
    rw [List.map_cons, List.flatten_cons, List.length_append, ← Nat.add_assoc] at stops
    by_cases reached : place < position + lexeme.text.length
    · refine ⟨_, List.mem_cons_self, ?_, ?_⟩
      · exact Int.ofNat_le.2 starts
      · exact Int.ofNat_lt.2 reached
    · obtain ⟨token, member, covers⟩ := ih (by omega) stops
      exact ⟨token, List.mem_cons_of_mem _ member, covers⟩

theorem exists_between {sql : List Char} {place : Nat} (inside : place < sql.length) :
    ∃ before token after, Between sql before token after ∧ token.Covers place := by
  have stops : place < 0 + ((lexemes sql).map (·.text)).flatten.length := by
    rwa [lexemes_joined, Nat.zero_add]
  obtain ⟨token, member, covers⟩ := exists_covers (Nat.zero_le place) stops
  have listed : token ∈ tokens sql := by
    rw [tokens_eq]
    exact List.mem_append_left _ member
  rcases between_of_mem listed with rfl | ⟨before, after, between⟩
  · exact absurd rfl (kind_of_mem_placed member)
  · exact ⟨before, token, after, between, covers⟩

end SqlRoutes.Sql
