import SqlRoutes.Proofs.Json.Scalar

namespace SqlRoutes.Json

open Encoding.Utf8 (Piece)

section Steps

variable (fuel : Nat) {c : Char} {v : Value} {input rest : List Piece}

theorem value_quote (rest : List Piece) : value (fuel + 1) (.char '"' :: rest) =
    (string rest).map fun parts => (.text parts.1, parts.2) := by
  rw [value, skipSpace_cons _ rfl]
  change (string rest).bind _ = _
  cases string rest <;> rfl

theorem value_bracket (rest : List Piece) (start : opens c = true) :
    value (fuel + 1) (.char '[' :: .char c :: rest) =
      (items fuel (.char c :: rest)).map fun parts => (.list parts.1, parts.2) := by
  have solid := skipSpace_cons rest (isSpace_of_opens start)
  rw [value, skipSpace_cons _ rfl]
  split
  · next same => cases same
  · next left same =>
    obtain rfl := (List.cons.inj same).2
    rw [solid]
    split
    · next same =>
      obtain rfl := Piece.char.inj (List.cons.inj same).1
      cases start
    · cases items fuel (.char c :: rest) <;> rfl
  · next same => cases same
  · next other _ => exact absurd rfl (other _)

theorem value_brace (rest : List Piece) (start : opens c = true) :
    value (fuel + 1) (.char '\x7b' :: .char c :: rest) =
      (entries fuel [] (.char c :: rest)).map fun parts => (.map parts.1, parts.2) := by
  have solid := skipSpace_cons rest (isSpace_of_opens start)
  rw [value, skipSpace_cons _ rfl]
  split
  · next same => cases same
  · next same => cases same
  · next left same =>
    obtain rfl := (List.cons.inj same).2
    rw [solid]
    split
    · next same =>
      obtain rfl := Piece.char.inj (List.cons.inj same).1
      cases start
    · cases entries fuel [] (.char c :: rest) <;> rfl
  · next other => exact absurd rfl (other _)

theorem value_of_plain? (start : opens c = true) (other : c ≠ '"' ∧ c ≠ '[' ∧ c ≠ '\x7b')
    {found : Value × List Piece} (known : plain? (.char c :: input) = some found) :
    value (fuel + 1) (.char c :: input) = .ok found := by
  rw [value, skipSpace_cons _ (isSpace_of_opens start)]
  split
  · next same => exact absurd (Piece.char.inj (List.cons.inj same).1) other.1
  · next same => exact absurd (Piece.char.inj (List.cons.inj same).1) other.2.1
  · next same => exact absurd (Piece.char.inj (List.cons.inj same).1) other.2.2
  · rw [known]

theorem items_of_value (found : value fuel input = .ok (v, .char c :: rest))
    (solid : isSpace (.char c) = false) : items (fuel + 1) input =
      if c = ',' then (items fuel rest).map fun parts => (v :: parts.1, parts.2)
      else if c = ']' then .ok ([v], rest)
      else .error .malformed := by
  rw [items, found]
  dsimp only [Bind.bind, Except.bind]
  rw [skipSpace_cons _ solid]
  split
  · next left same =>
    obtain ⟨rfl, rfl⟩ : c = ',' ∧ rest = left := by simpa using same
    rw [if_pos rfl]
    cases items fuel rest <;> rfl
  · next left same =>
    obtain ⟨rfl, rfl⟩ : c = ']' ∧ rest = left := by simpa using same
    rfl
  · next comma bracket =>
    have notComma : c ≠ ',' := fun same => comma rest (by rw [same])
    have notBracket : c ≠ ']' := fun same => bracket rest (by rw [same])
    rw [if_neg notComma, if_neg notBracket]

theorem entries_of_value (done : List (Value × Value)) {name : String} {shown : List Piece}
    (named : string input = .ok (name, .char ':' :: shown))
    (found : value fuel shown = .ok (v, .char c :: rest)) (solid : isSpace (.char c) = false) :
    entries (fuel + 1) done (.char '"' :: input) =
      if c = ',' then entries fuel (Value.insertEntry done (.text name) v) rest
      else if c = '\x7d' then .ok (Value.insertEntry done (.text name) v, rest)
      else .error .malformed := by
  rw [entries, skipSpace_cons _ rfl]
  change (string input).bind _ = _
  rw [named]
  change (value fuel shown).bind _ = _
  rw [found]
  dsimp only [Except.bind]
  rw [skipSpace_cons _ solid]
  split
  · next left same =>
    obtain ⟨rfl, rfl⟩ : c = ',' ∧ rest = left := by simpa using same
    rfl
  · next left same =>
    obtain ⟨rfl, rfl⟩ : c = '\x7d' ∧ rest = left := by simpa using same
    rfl
  · next comma brace =>
    have notComma : c ≠ ',' := fun same => comma rest (by rw [same])
    have notBrace : c ≠ '\x7d' := fun same => brace rest (by rw [same])
    rw [if_neg notComma, if_neg notBrace]

end Steps

/-- A text from which a value is read, with what follows left over. Every character of it is worth
two units of fuel, for a list takes one and its first item another one. -/
structure Reads (text : List Char) (v : Value) : Prop where
  head : ∃ c tail, text = c :: tail ∧ opens c = true
  value : ∀ fuel rest, 2 * text.length ≤ fuel → Ends rest →
    Json.value fuel (text.map .char ++ rest) = .ok (v, rest)

section Leaves

variable {c : Char} {tail : List Char} {v : Value}

theorem Reads.of_plain? (start : opens c = true) (other : c ≠ '"' ∧ c ≠ '[' ∧ c ≠ '\x7b')
    (known : ∀ rest, Ends rest → plain? ((c :: tail).map .char ++ rest) = some (v, rest)) :
    Reads (c :: tail) v := by
  refine ⟨⟨c, tail, rfl, start⟩, ?_⟩
  intro fuel rest enough ends
  obtain ⟨fuel, rfl⟩ : ∃ less, fuel = less + 1 := ⟨fuel - 1, by simp at enough; omega⟩
  exact value_of_plain? fuel start other (known rest ends)

theorem reads_null : Reads (atomText .null) .null :=
  .of_plain? rfl (by decide) fun rest _ => plain?_null rest

theorem reads_bool (b : Bool) : Reads (atomText (.bool b)) (.bool b) := by
  cases b with
  | true => exact .of_plain? rfl (by decide) fun rest _ => plain?_true rest
  | false => exact .of_plain? rfl (by decide) fun rest _ => plain?_false rest

theorem start_of_numberChar? (numeric : numberChar? (.char c) = some c) : opens c = true ∧
    (c ≠ '"' ∧ c ≠ '[' ∧ c ≠ '\x7b') ∧ c ≠ 'n' ∧ c ≠ 't' ∧ c ≠ 'f' := by
  have differ : ∀ d, numberChar? (.char d) = none → c ≠ d := by
    rintro d other rfl
    rw [numeric] at other
    cases other
  refine ⟨?_, ⟨differ _ rfl, differ _ rfl, differ _ rfl⟩, differ _ rfl, differ _ rfl, differ _ rfl⟩
  simp [opens, differ ' ' rfl, differ '\t' rfl, differ '\n' rfl, differ '\r' rfl, differ ']' rfl,
    differ '\x7d' rfl]

theorem reads_int {i : Int} (short : (toString i).length ≤ longestWhole) :
    Reads (atomText (.int i)) (.int i) := by
  obtain ⟨c, tail, shape⟩ := List.exists_cons_of_ne_nil (toString_ne_nil i)
  have text : atomText (.int i) = c :: tail := shape
  obtain ⟨start, other, word⟩ :=
    start_of_numberChar? (numberChar?_toString i c (shape ▸ .head _))
  rw [text]
  refine .of_plain? start other fun rest ends => ?_
  have taken := takeNumber_append (numberChar?_toString i) ends
  rw [shape, List.map_cons, List.cons_append] at taken
  rw [List.map_cons, List.cons_append, plain?_of_number _ word, taken, ← shape,
    numberValue?_toString short]
  rfl

theorem map_quoted (text : List Char) (rest : List Piece) : (quoted text).map .char ++ rest =
    .char '"' :: ((text.flatMap escaped).map .char ++ .char '"' :: rest) := by
  simp [quoted]

theorem reads_text (s : String) : Reads (quoted s.toList) (.text s) := by
  refine ⟨⟨_, _, rfl, rfl⟩, ?_⟩
  intro fuel rest enough _
  obtain ⟨fuel, rfl⟩ : ∃ less, fuel = less + 1 := ⟨fuel - 1, by simp [quoted] at enough; omega⟩
  rw [map_quoted, value_quote, string_escaped, String.ofList_toList]
  rfl

end Leaves

theorem ends_cons {c : Char} (rest : List Piece) (other : numberChar? (.char c) = none) :
    Ends (.char c :: rest) := by
  intro piece same
  obtain rfl := Option.some.inj same
  exact other

section Parts

variable {text : List Char} {parts : List (List Char)} {c : Char} (rest : List Piece)

theorem map_joined_cons (filled : parts ≠ []) :
    ([','].intercalate (text :: parts)).map Piece.char ++ rest =
      text.map .char ++ .char ',' :: (([','].intercalate parts).map .char ++ rest) := by
  rw [List.intercalate_cons_of_ne_nil filled]
  simp

theorem length_joined_cons (filled : parts ≠ []) : ([','].intercalate (text :: parts)).length =
    text.length + 1 + ([','].intercalate parts).length := by
  rw [List.intercalate_cons_of_ne_nil filled, List.length_append, List.length_append,
    List.length_singleton]

theorem head_joined (head : ∃ c tail, text = c :: tail ∧ opens c = true)
    (parts : List (List Char)) :
    ∃ c tail, [','].intercalate (text :: parts) = c :: tail ∧ opens c = true := by
  obtain ⟨c, tail, rfl, start⟩ := head
  by_cases single : parts = []
  · exact ⟨c, tail, by rw [single, List.intercalate_singleton], start⟩
  · exact ⟨c, _, List.intercalate_cons_of_ne_nil single, start⟩

theorem map_enclosed (left right : Char) : (enclosed left right parts).map Piece.char ++ rest =
    .char left :: (([','].intercalate parts).map .char ++ .char right :: rest) := by
  simp [enclosed]

theorem length_enclosed (left right : Char) :
    (enclosed left right parts).length = ([','].intercalate parts).length + 2 := by
  simp [enclosed]

end Parts

section Lists

variable {texts : List (List Char)} {values : List Value}

theorem items_joined (each : List.Forall₂ Reads texts values) (filled : values ≠ []) (fuel : Nat)
    (rest : List Piece) (enough : 2 * ([','].intercalate texts).length + 1 ≤ fuel) :
    items fuel (([','].intercalate texts).map .char ++ .char ']' :: rest) = .ok (values, rest) := by
  induction each generalizing fuel with
  | nil => exact absurd rfl filled
  | @cons text v texts values first others ih =>
    obtain ⟨fuel, rfl⟩ : ∃ less, fuel = less + 1 := ⟨fuel - 1, by omega⟩
    -- The last item stands before the bracket, any other one before a comma.
    cases others with
    | nil =>
      rw [List.intercalate_singleton] at enough ⊢
      have found := first.value fuel (.char ']' :: rest) (by omega) (ends_cons rest rfl)
      exact items_of_value fuel found rfl
    | @cons next w texts values second others =>
      rw [length_joined_cons (List.cons_ne_nil _ _)] at enough
      rw [map_joined_cons _ (List.cons_ne_nil _ _)]
      have found := fun left =>
        first.value fuel (.char ',' :: left) (by omega) (ends_cons left rfl)
      rw [items_of_value fuel (found _) rfl, if_pos rfl, ih (List.cons_ne_nil _ _) fuel (by omega)]
      rfl

theorem Reads.list (each : List.Forall₂ Reads texts values) :
    Reads (enclosed '[' ']' texts) (.list values) := by
  refine ⟨⟨_, _, rfl, rfl⟩, ?_⟩
  intro fuel rest enough _
  rw [length_enclosed] at enough
  obtain ⟨fuel, rfl⟩ : ∃ less, fuel = less + 1 := ⟨fuel - 1, by omega⟩
  rw [map_enclosed]
  cases each with
  | nil => rfl
  | @cons text v texts values first others =>
    have whole := items_joined (.cons first others) (List.cons_ne_nil _ _) fuel rest (by omega)
    obtain ⟨c, tail, joined, start⟩ := head_joined first.head texts
    rw [joined, List.map_cons, List.cons_append] at whole ⊢
    rw [value_bracket fuel _ start, whole]
    rfl

end Lists

section Maps

def keyed (entries : List (String × Value)) : List (Value × Value) :=
  entries.map fun entry => (.text entry.1, entry.2)

def ReadsEntry (text : List Char) (entry : String × Value) : Prop :=
  ∃ shown, text = quoted entry.1.toList ++ ':' :: shown ∧ Reads shown entry.2

variable {texts : List (List Char)} {added : List (String × Value)}

theorem insertEntry_keyed {done : List (String × Value)} {name : String}
    (fresh : name ∉ done.map (·.1)) (v : Value) :
    Value.insertEntry (keyed done) (.text name) v = keyed (done ++ [(name, v)]) := by
  induction done with
  | nil => rfl
  | cons entry done ih =>
    obtain ⟨differ, others⟩ : name ≠ entry.1 ∧ name ∉ done.map (·.1) := by simpa using fresh
    have other : Value.same (.text entry.1) (.text name) = false := decide_eq_false differ.symm
    rw [keyed, List.map_cons, Value.insertEntry, other, if_neg Bool.false_ne_true]
    exact congrArg _ (ih others)

theorem entries_joined (done : List (String × Value))
    (each : List.Forall₂ ReadsEntry texts added) (filled : added ≠ [])
    (distinct : ((done ++ added).map (·.1)).Nodup) (fuel : Nat)
    (rest : List Piece) (enough : 2 * ([','].intercalate texts).length + 1 ≤ fuel) :
    entries fuel (keyed done) (([','].intercalate texts).map .char ++ .char '\x7d' :: rest) =
      .ok (keyed (done ++ added), rest) := by
  induction each generalizing fuel done with
  | nil => exact absurd rfl filled
  | @cons text entry texts added first others ih =>
    obtain ⟨fuel, rfl⟩ : ∃ less, fuel = less + 1 := ⟨fuel - 1, by omega⟩
    obtain ⟨shown, rfl, reads⟩ := first
    -- A key that is there would keep its place, so the entry is appended only because it is new.
    have fresh : entry.1 ∉ done.map (·.1) := by
      rw [List.map_append, List.nodup_append] at distinct
      exact fun member => distinct.2.2 _ member _ (.head _) rfl
    have named : ∀ left, string ((entry.1.toList.flatMap escaped).map .char ++
        .char '"' :: .char ':' :: left) = .ok (entry.1, .char ':' :: left) := by
      intro left
      rw [string_escaped, String.ofList_toList]
    cases others with
    | nil =>
      rw [List.intercalate_singleton] at enough ⊢
      have found := reads.value fuel (.char '\x7d' :: rest) (by simp at enough; omega)
        (ends_cons rest rfl)
      rw [List.map_append, List.map_cons, List.append_assoc, List.cons_append, map_quoted,
        entries_of_value fuel (keyed done) (named _) found rfl, insertEntry_keyed fresh]
      rfl
    | @cons next other texts added second others =>
      rw [length_joined_cons (List.cons_ne_nil _ _)] at enough
      rw [map_joined_cons _ (List.cons_ne_nil _ _)]
      have found := fun left =>
        reads.value fuel (.char ',' :: left) (by simp at enough; omega) (ends_cons left rfl)
      rw [List.map_append, List.map_cons, List.append_assoc, List.cons_append, map_quoted,
        entries_of_value fuel (keyed done) (named _) (found _) rfl, insertEntry_keyed fresh,
        if_pos rfl,
        ih _ (List.cons_ne_nil _ _) (by simpa using distinct) fuel (by omega), List.append_assoc]
      rfl

theorem Reads.map (each : List.Forall₂ ReadsEntry texts added)
    (distinct : (added.map (·.1)).Nodup) :
    Reads (enclosed '\x7b' '\x7d' texts) (.map (keyed added)) := by
  refine ⟨⟨_, _, rfl, rfl⟩, ?_⟩
  intro fuel rest enough _
  rw [length_enclosed] at enough
  obtain ⟨fuel, rfl⟩ : ∃ less, fuel = less + 1 := ⟨fuel - 1, by omega⟩
  rw [map_enclosed]
  cases each with
  | nil => rfl
  | @cons text entry texts added first others =>
    have whole := entries_joined [] (.cons first others) (List.cons_ne_nil _ _) distinct fuel rest
      (by omega)
    obtain ⟨shown, same, -⟩ := first
    obtain ⟨c, tail, joined, start⟩ := head_joined ⟨'"', _, same, rfl⟩ texts
    rw [joined, List.map_cons, List.cons_append] at whole ⊢
    rw [value_brace fuel _ start]
    exact congrArg (Except.map _) whole

end Maps

section Writing

def Faithful (v : Value) : Prop := ∃ text, text? v = some text ∧ Reads text v

theorem Faithful.list {values : List Value} (each : ∀ v ∈ values, Faithful v) :
    Faithful (.list values) := by
  obtain ⟨texts, written, reads⟩ : ∃ texts, texts? values = some texts ∧
      List.Forall₂ Reads texts values := by
    induction values with
    | nil => exact ⟨[], rfl, .nil⟩
    | cons v values ih =>
      obtain ⟨⟨text, written, reads⟩, others⟩ := List.forall_mem_cons.1 each
      obtain ⟨texts, allWritten, allRead⟩ := ih others
      exact ⟨text :: texts, by simp [texts?, written, allWritten], .cons reads allRead⟩
  exact ⟨_, by rw [text?, written, Option.map_some], .list reads⟩

theorem Faithful.map {entries : List (String × Value)} (distinct : (entries.map (·.1)).Nodup)
    (each : ∀ entry ∈ entries, Faithful entry.2) : Faithful (.map (keyed entries)) := by
  obtain ⟨texts, written, reads⟩ : ∃ texts, entryTexts? (keyed entries) = some texts ∧
      List.Forall₂ ReadsEntry texts entries := by
    clear distinct
    induction entries with
    | nil => exact ⟨[], rfl, .nil⟩
    | cons entry entries ih =>
      obtain ⟨⟨text, written, reads⟩, others⟩ := List.forall_mem_cons.1 each
      obtain ⟨texts, allWritten, allRead⟩ := ih others
      have name : name? (.text entry.1) = some entry.1.toList := rfl
      rw [keyed] at allWritten
      exact ⟨_ :: texts, by simp [keyed, entryTexts?, name, written, allWritten],
        .cons ⟨text, rfl, reads⟩ allRead⟩
  exact ⟨_, by rw [text?, written, Option.map_some], .map reads distinct⟩

end Writing

inductive Plain : Value → Prop
  | null : Plain .null
  | bool (b : Bool) : Plain (.bool b)
  | int {i : Int} (short : (toString i).length ≤ longestWhole) : Plain (.int i)
  | text (s : String) : Plain (.text s)
  | list {values : List Value} (each : ∀ v ∈ values, Plain v) : Plain (.list values)
  | map {entries : List (String × Value)} (distinct : (entries.map (·.1)).Nodup)
    (each : ∀ entry ∈ entries, Plain entry.2) : Plain (.map (keyed entries))

theorem Plain.faithful {v : Value} (plain : Plain v) : Faithful v := by
  induction plain with
  | null => exact ⟨_, rfl, reads_null⟩
  | bool b => exact ⟨_, rfl, reads_bool b⟩
  | int short => exact ⟨_, rfl, reads_int short⟩
  | text s => exact ⟨_, rfl, reads_text s⟩
  | list _ ih => exact .list ih
  | map distinct _ ih => exact .map distinct ih

theorem readText_write {v : Value} (plain : Plain v) : ∃ text, write v = .ok text ∧
    ∀ blanks : List Char, (∀ c ∈ blanks, isSpace (.char c) = true) →
      readText (text ++ blanks) = .ok v := by
  obtain ⟨text, written, reads⟩ := plain.faithful
  refine ⟨text, by rw [write, written], ?_⟩
  intro blanks space
  have ends : Ends (blanks.map .char) := by
    intro piece first
    obtain ⟨c, member, rfl⟩ := List.mem_map.1 (List.mem_of_mem_head? first)
    have known := space c member
    simp only [isSpace, Bool.or_eq_true, decide_eq_true_eq] at known
    rcases known with ((same | same) | same) | same <;> rw [same] <;> rfl
  have left : skipSpace (blanks.map .char) = [] :=
    List.dropWhile_eq_nil_iff.2 (by simpa using space)
  have found := reads.value (2 * ((text ++ blanks).map Piece.char).length + 2) _ (by simp; omega)
    ends
  rw [readText, read, List.map_append]
  rw [List.map_append] at found
  rw [found]
  change (if (skipSpace _).isEmpty then _ else _) = _
  rw [left]
  rfl

end SqlRoutes.Json
