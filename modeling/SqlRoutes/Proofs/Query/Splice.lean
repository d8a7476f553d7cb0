import SqlRoutes.Proofs.Sql.Scanner
import SqlRoutes.Query.Splice

namespace SqlRoutes.Query

open Sql

theorem isVariable_iff {kind : Kind} {text : List Char} :
    isVariable kind text = true ↔ kind = .identifier ∧ text.head? = some ':' := by
  simp only [isVariable, Bool.and_eq_true, decide_eq_true_eq]
  rfl

section Lexemes

variable {p : Placeholder} {index : Nat} {lexeme : Lexeme} {found : List Lexeme}

theorem variableNames_bind (bind : isVariable lexeme.kind lexeme.text = true) :
    variableNames (lexeme :: found) =
      String.ofList (lexeme.text.drop 1) :: variableNames found := by
  simp only [variableNames, List.filterMap_cons, bind, ↓reduceIte]

theorem variableNames_other (other : isVariable lexeme.kind lexeme.text = false) :
    variableNames (lexeme :: found) = variableNames found := by
  simp only [variableNames, List.filterMap_cons, other, Bool.false_eq_true, ↓reduceIte]

theorem substitute_bind (bind : isVariable lexeme.kind lexeme.text = true) :
    substitute p index (lexeme :: found) =
      p.render lexeme.text index :: substitute p (index + 1) found := by
  simp only [substitute, bind, ↓reduceIte]

theorem substitute_other (other : isVariable lexeme.kind lexeme.text = false) :
    substitute p index (lexeme :: found) = lexeme.text :: substitute p index found := by
  simp only [substitute, other, Bool.false_eq_true, ↓reduceIte]

theorem substitute_append (first second : List Lexeme) :
    substitute p index (first ++ second) =
      substitute p index first ++ substitute p (index + (variableNames first).length) second := by
  induction first generalizing index with
  | nil => rfl
  | cons lexeme first ih =>
    rw [List.cons_append]
    cases bind : isVariable lexeme.kind lexeme.text with
    | true =>
      have count : index + 1 + (variableNames first).length =
          index + ((variableNames first).length + 1) := by omega
      rw [substitute_bind bind, substitute_bind bind, variableNames_bind bind, ih,
        List.length_cons, count, List.cons_append]
    | false =>
      rw [substitute_other bind, substitute_other bind, variableNames_other bind, ih,
        List.cons_append]

theorem substitute_of_no_names (none : variableNames found = []) :
    substitute p index found = found.map (·.text) := by
  induction found generalizing index with
  | nil => rfl
  | cons lexeme found ih =>
    cases bind : isVariable lexeme.kind lexeme.text with
    | true => simp [variableNames_bind bind] at none
    | false =>
      rw [variableNames_other bind] at none
      rw [substitute_other bind, ih none, List.map_cons]

theorem substitute_passthrough (passes : p.passthrough = true) :
    substitute p index found = found.map (·.text) := by
  induction found generalizing index with
  | nil => rfl
  | cons lexeme found ih =>
    have same : p.render lexeme.text index = lexeme.text := by simp [Placeholder.render, passes]
    cases bind : isVariable lexeme.kind lexeme.text with
    | true => rw [substitute_bind bind, same, ih, List.map_cons]
    | false => rw [substitute_other bind, ih, List.map_cons]

theorem substitute_end : substitute p index [⟨.endOfInput, []⟩] = [[]] := rfl

theorem variableNames_end : variableNames [⟨.endOfInput, []⟩] = [] := rfl

theorem variableNames_append (first second : List Lexeme) :
    variableNames (first ++ second) = variableNames first ++ variableNames second :=
  List.filterMap_append

end Lexemes

theorem slice_self (sql : List Char) (place : Nat) : slice sql place place = [] := by
  simp [slice]

theorem slice_append {sql taken rest : List Char} {offset position : Nat}
    (behind : offset ≤ position) (front : sql.drop position = taken ++ rest) :
    slice sql offset (position + taken.length) = slice sql offset position ++ taken := by
  obtain ⟨gap, rfl⟩ := Nat.exists_eq_add_of_le behind
  have length : offset + gap + taken.length - offset = gap + taken.length := by omega
  have gapLength : offset + gap - offset = gap := by omega
  simp only [slice, length, gapLength, List.take_add, List.drop_drop, front, List.take_left]

theorem slice_to_end {sql : List Char} {offset position : Nat} (behind : offset ≤ position)
    (ended : sql.drop position = []) : slice sql offset position = sql.drop offset := by
  have beyond := List.drop_eq_nil_iff.1 ended
  exact List.take_of_length_le (by rw [List.length_drop]; omega)

theorem pass_bind {sql : List Char} {p : Placeholder} {progress : Progress} {kind : Kind}
    {position : Nat} {text : List Char} (bind : isVariable kind text = true) :
    progress.pass sql p ⟨kind, position, text⟩ =
      ⟨progress.chunks ++ [slice sql progress.offset position,
          p.render text progress.names.length],
        progress.names ++ [String.ofList (text.drop 1)], position + text.length⟩ := by
  have stop : ((position : Int) + (text.length : Int)).toNat = position + text.length := by omega
  simp [Progress.pass, bind, Token.stop, stop]

theorem pass_other {sql : List Char} {p : Placeholder} {progress : Progress} {token : Token}
    (other : isVariable token.kind token.text = false) : progress.pass sql p token = progress := by
  simp [Progress.pass, other]

/-- What the loop does from `position` on, when all before it up to `offset` is in the chunks. -/
theorem foldl_pass (sql : List Char) (p : Placeholder) (found : List Lexeme) (position : Nat)
    (progress : Progress) (behind : progress.offset ≤ position)
    (left : sql.drop position = (found.map (·.text)).flatten) :
    let done := (place position found).foldl (Progress.pass sql p) progress
    done.chunks.flatten ++ sql.drop done.offset =
      progress.chunks.flatten ++ slice sql progress.offset position ++
        (substitute p progress.names.length found).flatten ∧
    done.names = progress.names ++ variableNames found := by
  induction found generalizing position progress with
  | nil =>
    have rest := slice_to_end behind (by simpa using left)
    simp only [place, List.foldl_cons, List.foldl_nil]
    rw [pass_other (by rfl), rest]
    simp [substitute, variableNames]
  | cons lexeme found ih =>
    have front : sql.drop position = lexeme.text ++ (found.map (·.text)).flatten := by
      simpa using left
    have later : sql.drop (position + lexeme.text.length) = (found.map (·.text)).flatten := by
      rw [← List.drop_drop, front, List.drop_left]
    simp only [place, List.foldl_cons]
    cases bind : isVariable lexeme.kind lexeme.text with
    | true =>
      rw [pass_bind bind]
      obtain ⟨texts, names⟩ := ih (position + lexeme.text.length)
        ⟨progress.chunks ++ [slice sql progress.offset position,
          p.render lexeme.text progress.names.length],
          progress.names ++ [String.ofList (lexeme.text.drop 1)],
          position + lexeme.text.length⟩ (Nat.le_refl _) later
      constructor
      · rw [texts, substitute_bind bind]
        simp [slice_self]
      · rw [names, variableNames_bind bind]
        simp
    | false =>
      -- The offset stays behind: the lexeme is copied with the slice up to the next variable.
      rw [pass_other bind]
      obtain ⟨texts, names⟩ := ih (position + lexeme.text.length) progress (by omega) later
      constructor
      · rw [texts, slice_append behind front, substitute_other bind]
        simp
      · rw [names, variableNames_other bind]

theorem splice_eq_substitute (sql : List Char) (p : Placeholder) :
    splice sql p =
      ((substitute p 0 (lexemes sql)).flatten, variableNames (lexemes sql)) := by
  obtain ⟨texts, names⟩ := foldl_pass sql p (lexemes sql) 0 ⟨[], [], 0⟩ (Nat.le_refl 0)
    (lexemes_joined sql).symm
  simp only [slice_self, List.flatten_nil, List.nil_append, List.length_nil] at texts names
  unfold splice tokens
  cases found : variableNames (lexemes sql) with
  | nil =>
    rw [substitute_of_no_names found, lexemes_joined]
    simp [names, found]
  | cons name others =>
    rw [← texts]
    simp [names, found]

def lexemeOf (token : Token) : Lexeme := ⟨token.kind, token.text⟩

theorem map_lexemeOf_tokens (sql : List Char) :
    (tokens sql).map lexemeOf = lexemes sql ++ [⟨.endOfInput, []⟩] := by
  unfold tokens
  generalize (0 : Nat) = position
  induction lexemes sql generalizing position with
  | nil => rfl
  | cons lexeme found ih => simp [place, lexemeOf, ih]

def isBind (token : Token) : Bool := isVariable (lexemeOf token).kind (lexemeOf token).text

def bindName (token : Token) : String := .ofList (token.text.drop 1)

/-- What every token becomes: a bind variable the placeholder of its occurrence, which the bind
variables before it count, and any other token its own text. -/
def replaced (p : Placeholder) (found : List Token) : List (List Char) :=
  found.mapIdx fun k token =>
    if isBind token then p.render token.text ((found.take k).countP isBind : Nat) else token.text

theorem substitute_eq_mapIdx (p : Placeholder) (index : Nat) (found : List Token) :
    substitute p index (found.map lexemeOf) = found.mapIdx fun k token =>
      if isBind token then p.render token.text (index + (found.take k).countP isBind : Nat)
      else token.text := by
  induction found generalizing index with
  | nil => rfl
  | cons token found ih =>
    rw [List.map_cons, List.mapIdx_cons]
    cases bind : isBind token with
    | true =>
      rw [substitute_bind bind, ih]
      simp [bind, lexemeOf, Nat.add_comm, Nat.add_left_comm]
    | false =>
      rw [substitute_other bind, ih]
      simp [bind, lexemeOf]

theorem replaced_eq_substitute (p : Placeholder) (found : List Token) :
    replaced p found = substitute p 0 (found.map lexemeOf) := by
  simp only [replaced, substitute_eq_mapIdx, Nat.zero_add]

theorem variableNames_map_lexemeOf (found : List Token) :
    variableNames (found.map lexemeOf) = (found.filter isBind).map bindName := by
  induction found with
  | nil => rfl
  | cons token found ih =>
    rw [List.map_cons, List.filter_cons]
    cases bind : isBind token with
    | true =>
      rw [variableNames_bind bind, ih]
      rfl
    | false =>
      rw [variableNames_other bind, ih]
      rfl

theorem variableNames_tokens (sql : List Char) :
    variableNames ((tokens sql).map lexemeOf) = variableNames (lexemes sql) := by
  rw [map_lexemeOf_tokens, variableNames_append, variableNames_end, List.append_nil]

theorem variableNames_lexemes (sql : List Char) :
    variableNames (lexemes sql) = ((tokens sql).filter isBind).map bindName := by
  rw [← variableNames_tokens, variableNames_map_lexemeOf]

theorem flatten_substitute_tokens (p : Placeholder) (index : Nat) (sql : List Char) :
    (substitute p index ((tokens sql).map lexemeOf)).flatten =
      (substitute p index (lexemes sql)).flatten := by
  rw [map_lexemeOf_tokens, substitute_append, substitute_end]
  simp

theorem zip_substitute_filter (p : Placeholder) (index : Nat) (found : List Token) :
    ((found.zip (substitute p index (found.map lexemeOf))).filter fun pair => isBind pair.1).map
        (·.2) =
      (found.filter isBind).mapIdx fun j token => p.render token.text (index + j : Nat) := by
  induction found generalizing index with
  | nil => rfl
  | cons token found ih =>
    rw [List.map_cons]
    cases bind : isBind token with
    | true =>
      rw [substitute_bind bind]
      simp [bind, ih, lexemeOf, Nat.add_comm, Nat.add_left_comm]
    | false =>
      rw [substitute_other bind]
      simp [bind, ih]

theorem render_numbered {p : Placeholder} (numbered : p.style = .numbered)
    (written : p.passthrough = false) (text : List Char) (index : Nat) :
    p.render text index = p.marker :: (Nat.repr (index + 1)).toList := by
  simp only [Placeholder.render, written, numbered]
  rfl

/-- Splicing is replacing token by token. The names are those of the bind variables in order and
the same for every placeholder; the occurrences are numbered in order and without a gap; a
placeholder that passes variables through gives the text back. -/
theorem splice_tokenwise (sql : List Char) (p : Placeholder) :
    splice sql p =
      ((replaced p (tokens sql)).flatten, ((tokens sql).filter isBind).map bindName) ∧
    (((tokens sql).zip (replaced p (tokens sql))).filter fun pair => isBind pair.1).map (·.2) =
      ((tokens sql).filter isBind).mapIdx (fun j token => p.render token.text (j : Nat)) ∧
    (p.style = .numbered → p.passthrough = false →
      (((tokens sql).zip (replaced p (tokens sql))).filter fun pair => isBind pair.1).map (·.2) =
        (List.range (splice sql p).2.length).map fun j =>
          p.marker :: (Nat.repr (j + 1)).toList) ∧
    (∀ q, (splice sql q).2 = (splice sql p).2) ∧
    (p.passthrough = true → (splice sql p).1 = sql) := by
  have texts : (replaced p (tokens sql)).flatten = (substitute p 0 (lexemes sql)).flatten := by
    rw [replaced_eq_substitute, map_lexemeOf_tokens, substitute_append, substitute_end]
    simp
  have names : ((tokens sql).filter isBind).map bindName = variableNames (lexemes sql) := by
    rw [← variableNames_map_lexemeOf, map_lexemeOf_tokens, variableNames_append, variableNames_end,
      List.append_nil]
  have inserted := zip_substitute_filter p 0 (tokens sql)
  simp only [← replaced_eq_substitute, Nat.zero_add] at inserted
  have count : (splice sql p).2.length = ((tokens sql).filter isBind).length := by
    rw [splice_eq_substitute, ← names, List.length_map]
  refine ⟨?_, inserted, ?_, ?_, ?_⟩
  · rw [splice_eq_substitute, texts, names]
  · intro numbered written
    rw [inserted, count]
    apply List.ext_getElem
    · simp
    · intro j _ _
      simp [render_numbered numbered written]
  · intro q
    rw [splice_eq_substitute, splice_eq_substitute]
  · intro passes
    rw [splice_eq_substitute, substitute_passthrough passes, lexemes_joined]

end SqlRoutes.Query
