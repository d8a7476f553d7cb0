import Mathlib
import SqlRoutes.Driver.Table
import SqlRoutes.Proofs.Query.Exchange
import SqlRoutes.Proofs.Query.Supply

/-!
What a driver runs. It scans the prepared text, takes the identifiers that start with its marker
for parameters, and puts a value in the place of each. What comes out is the configured statement
with the value of its name for every bind variable.
-/
namespace SqlRoutes.Query

open Sql

/-- Where a driver looks for a value: at a place in a row, or under a name. -/
inductive Slot where
  | place (index : Nat)
  | name (name : String)
  deriving DecidableEq, Repr

inductive Part where
  | token (lexeme : Lexeme)
  | slot (slot : Slot)
  deriving DecidableEq, Repr

inductive Entry (α : Type) where
  | token (lexeme : Lexeme)
  | value (value : α)
  deriving DecidableEq, Repr

def number? (text : List Char) : Option Nat :=
  if text ≠ [] ∧ text.all Char.isDigit then some (Nat.ofDigitChars 10 text 0) else none

/-- The slot that a parameter refers to, when `seen` others are before it. Numbers count from
one. -/
def slot? (p : Placeholder) (seen : Nat) (text : List Char) : Option Slot :=
  match p.style with
  | .simple => some (.place seen)
  | .numbered =>
    match number? (text.drop 1) with
    | some (index + 1) => some (.place index)
    | _ => none
  | .named => some (.name (.ofList (text.drop 1)))

def isParameter (p : Placeholder) (lexeme : Lexeme) : Bool :=
  lexeme.kind = .identifier && lexeme.text.head? = some p.marker

/-- The text with its parameters found, unless one of them makes no sense. -/
def parts? (p : Placeholder) (seen : Nat) : List Lexeme → Option (List Part)
  | [] => some []
  | lexeme :: found =>
    if isParameter p lexeme then do
      let slot ← slot? p seen lexeme.text
      let parts ← parts? p (seen + 1) found
      return .slot slot :: parts
    else do
      let parts ← parts? p seen found
      return .token lexeme :: parts

def Part.slot? : Part → Option Slot
  | .token _ => none
  | .slot place => some place

def lookup? {α : Type} : Bound α → Slot → Option α
  | .positional values, .place index => values[index]?
  | .named values, .name name => values.lookup name
  | _, _ => none

def fill? {α : Type} (bound : Bound α) : Part → Option (Entry α)
  | .token lexeme => some (.token lexeme)
  | .slot slot => (lookup? bound slot).map .value

/-- What is run for a text and the values that go with it. -/
def execute? {α : Type} (p : Placeholder) (bound : Bound α) (found : List Lexeme) :
    Option (List (Entry α)) :=
  (parts? p 0 found).bind fun parts => parts.mapM (fill? bound)

def meant? {α : Type} (value? : String → Option α) (lexeme : Lexeme) : Option (Entry α) :=
  if isVariable lexeme.kind lexeme.text then (value? (.ofList (lexeme.text.drop 1))).map .value
  else some (.token lexeme)

/-- What is meant: the configured text with the values of the bind variables. -/
def intended? {α : Type} (value? : String → Option α) (found : List Lexeme) :
    Option (List (Entry α)) :=
  found.mapM (meant? value?)

def slotFor (p : Placeholder) (index : Nat) (name : String) : Slot :=
  if p.style = .named then .name name else .place index

/-- The parts of a text as configured, the first bind variable in it as occurrence `index`. -/
def layout (p : Placeholder) (index : Nat) : List Lexeme → List Part
  | [] => []
  | lexeme :: found =>
    if isVariable lexeme.kind lexeme.text then
      .slot (slotFor p index (.ofList (lexeme.text.drop 1))) :: layout p (index + 1) found
    else .token lexeme :: layout p index found

theorem number?_repr (number : Nat) : number? (Nat.repr number).toList = some number := by
  have digits : (Nat.toDigits 10 number).all Char.isDigit = true := by
    rw [List.all_eq_true]
    intro c member
    exact Nat.isDigit_of_mem_toDigits (by decide) (by decide) member
  rw [Nat.toList_repr, number?, if_pos ⟨Nat.toDigits_ne_nil, digits⟩, Nat.ofDigitChars_ten_toDigits]

section Parts

variable {p : Placeholder} {index : Nat} {lexeme : Lexeme} {found : List Lexeme}

theorem layout_bind (bind : isVariable lexeme.kind lexeme.text = true) :
    layout p index (lexeme :: found) =
      .slot (slotFor p index (.ofList (lexeme.text.drop 1))) ::
        layout p (index + 1) found := by
  simp only [layout, bind, ↓reduceIte]

theorem layout_other (other : isVariable lexeme.kind lexeme.text = false) :
    layout p index (lexeme :: found) = .token lexeme :: layout p index found := by
  simp only [layout, other, Bool.false_eq_true, ↓reduceIte]

theorem head_render (text : List Char) (marked : text.head? = some bindMarker) (index : Int) :
    (p.render text index).head? = some p.marker := by
  unfold Placeholder.render
  split
  · next passes =>
    obtain ⟨-, same⟩ := by simpa [Placeholder.passthrough] using passes
    rw [marked, same]
  · cases p.style <;> rfl

theorem slot?_render (readable : p.style = .numbered → p.passthrough = false) (text : List Char)
    (index : Nat) :
    slot? p index (p.render text index) =
      some (slotFor p index (.ofList (text.drop 1))) := by
  cases style : p.style with
  | simple => simp [slot?, slotFor, style]
  | numbered =>
    rw [render_numbered style (readable style)]
    simp only [slot?, slotFor, style, List.drop_one, List.tail_cons, number?_repr, reduceCtorEq,
      ↓reduceIte]
  | named =>
    have dropped : (p.render text index).drop 1 = text.drop 1 := by
      unfold Placeholder.render
      split
      · rfl
      · simp [style]
    simp [slot?, slotFor, style, dropped]

theorem parts?_exchange (readable : p.style = .numbered → p.passthrough = false)
    (unused : ∀ lexeme ∈ found, isParameter p lexeme = true →
      isVariable lexeme.kind lexeme.text = true) :
    parts? p index (exchange p index found) = some (layout p index found) := by
  induction found generalizing index with
  | nil => rfl
  | cons lexeme found ih =>
    obtain ⟨first, others⟩ := List.forall_mem_cons.1 unused
    cases bind : isVariable lexeme.kind lexeme.text with
    | true =>
      have parameter : isParameter p ⟨.identifier, p.render lexeme.text index⟩ = true := by
        simp [isParameter, head_render lexeme.text (isVariable_iff.1 bind).2]
      rw [exchange_bind bind, layout_bind bind, parts?, if_pos parameter, slot?_render readable,
        ih others]
      rfl
    | false =>
      have token : ¬isParameter p lexeme = true := by
        intro parameter
        rw [first parameter] at bind
        cases bind
      rw [exchange_other bind, layout_other bind, parts?, if_neg token, ih others]
      rfl

end Parts

section Meaning

variable {α : Type} {p : Placeholder} {bound : Bound α} {value? : String → Option α}
variable {index : Nat} {lexeme : Lexeme} {found : List Lexeme}

theorem meant?_bind (bind : isVariable lexeme.kind lexeme.text = true) :
    meant? value? lexeme = (value? (.ofList (lexeme.text.drop 1))).map .value := by
  simp only [meant?, bind, ↓reduceIte]

theorem meant?_other (other : isVariable lexeme.kind lexeme.text = false) :
    meant? value? lexeme = some (.token lexeme) := by
  simp only [meant?, other, Bool.false_eq_true, ↓reduceIte]

theorem mapM_fill_layout
    (holds : ∀ place name, (variableNames found)[place]? = some name →
      lookup? bound (slotFor p (index + place) name) = value? name) :
    (layout p index found).mapM (fill? bound) = intended? value? found := by
  induction found generalizing index with
  | nil => rfl
  | cons lexeme found ih =>
    rw [intended?, List.mapM_cons]
    cases bind : isVariable lexeme.kind lexeme.text with
    | true =>
      rw [variableNames_bind bind] at holds
      have first : fill? bound (.slot (slotFor p index (.ofList (lexeme.text.drop 1)))) =
          meant? value? lexeme := by
        rw [meant?_bind bind, ← holds 0 _ rfl, fill?, Nat.add_zero]
      -- The occurrences after this one are counted from the next index.
      have later : (layout p (index + 1) found).mapM (fill? bound) = intended? value? found := by
        apply ih
        intro place name named
        rw [Nat.add_assoc, Nat.add_comm 1 place]
        exact holds (place + 1) name named
      rw [layout_bind bind, List.mapM_cons, first, later, intended?]
    | false =>
      rw [variableNames_other bind] at holds
      rw [layout_other bind, List.mapM_cons, ih holds, meant?_other bind, fill?, intended?]

theorem exists_intended (present : ∀ name ∈ variableNames found, (value? name).isSome) :
    ∃ entries, intended? value? found = some entries := by
  induction found with
  | nil => exact ⟨[], rfl⟩
  | cons lexeme found ih =>
    rw [intended?, List.mapM_cons]
    cases bind : isVariable lexeme.kind lexeme.text with
    | true =>
      rw [variableNames_bind bind, List.forall_mem_cons] at present
      obtain ⟨value, known⟩ := Option.isSome_iff_exists.1 present.1
      obtain ⟨entries, later⟩ := ih present.2
      rw [intended?] at later
      exact ⟨.value value :: entries, by rw [meant?_bind bind, known, later]; rfl⟩
    | false =>
      rw [variableNames_other bind] at present
      obtain ⟨entries, later⟩ := ih present
      rw [intended?] at later
      exact ⟨.token lexeme :: entries, by rw [meant?_other bind, later]; rfl⟩

end Meaning

theorem slots_layout {p : Placeholder} (placed : p.style ≠ .named) (index : Nat)
    (found : List Lexeme) :
    (layout p index found).filterMap Part.slot? =
      (List.range' index (variableNames found).length).map .place := by
  induction found generalizing index with
  | nil => rfl
  | cons lexeme found ih =>
    cases bind : isVariable lexeme.kind lexeme.text with
    | true =>
      rw [layout_bind bind, variableNames_bind bind, List.length_cons, List.range'_succ,
        List.filterMap_cons, ih]
      simp [Part.slot?, slotFor, placed]
    | false =>
      rw [layout_other bind, variableNames_other bind, List.filterMap_cons, ih]
      rfl

theorem bind_holds {α : Type} {query : Query} {value? : String → Option α}
    (kept : query.placeholder.keepsNames = true ↔ query.placeholder.style = .named)
    (present : ∀ name ∈ query.parameterNames, (value? name).isSome) :
    ∃ bound, query.bind value? = .ok bound ∧
      (∀ place name, query.parameters[place]? = some name →
        lookup? bound (slotFor query.placeholder place name) = value? name) ∧
      (query.placeholder.style ≠ .named → ∃ values, bound = .positional values ∧
        values.length = query.parameters.length) := by
  have every : ∀ name ∈ query.parameters, (value? name).isSome :=
    fun name member => present name (mem_distinct.2 member)
  rw [bind_of_present every]
  cases names : query.placeholder.keepsNames with
  | true =>
    have named := kept.1 names
    rw [if_pos rfl]
    refine ⟨_, rfl, ?_, fun other => absurd named other⟩
    intro place name found
    have member := List.mem_of_getElem? found
    obtain ⟨value, known⟩ := Option.isSome_iff_exists.1 (every name member)
    rw [slotFor, if_pos named, known]
    exact lookup_filterMap_of_mem (mem_distinct.2 member) known
  | false =>
    have placed : query.placeholder.style ≠ .named := fun named => by simp [kept.2 named] at names
    rw [if_neg Bool.false_ne_true]
    refine ⟨_, rfl, ?_, fun _ => ⟨_, rfl, length_filterMap_of_present every⟩⟩
    intro place name found
    rw [slotFor, if_neg placed, lookup?, getElem?_filterMap_of_present every, found,
      Option.bind_some]

/-- The conventions of the table are of three sorts: the variables are passed through, or the
marker is in no operator, or it is a question mark that stands alone. -/
theorem opens_of_known {driver : String} {p : Placeholder} (known : (driver, p) ∈ Driver.table)
    (sql : List Char)
    (unused : p.marker = bindMarker ∨ ∀ token ∈ tokens sql, token.kind = .identifier →
      token.text.head? ≠ some p.marker)
    (separate : p.marker = '?' → ∀ pair ∈ (tokens sql).zip (tokens sql).tail,
      ¬(isBind pair.1 = true ∧ isBind pair.2 = true)) :
    p.passthrough = true ∨ Opens p (lexemes sql) := by
  have sorts : ∀ entry ∈ Driver.table, entry.2.passthrough = true ∨
      entry.2.marker ∈ freeMarkers ∨ entry.2.style = .simple ∧ entry.2.marker = '?' := by decide
  rcases sorts _ known with passes | free | ⟨simple, marker⟩
  · exact .inl passes
  · exact .inr (.free free)
  · dsimp only at simple marker
    refine .inr (opens_of_tokens simple marker ?_ (separate marker))
    rcases unused with bind | unused
    · rw [marker] at bind
      exact absurd bind (by decide)
    · rwa [marker] at unused

theorem tokens_prepared {p : Placeholder} {sql : String}
    (opens : p.passthrough = true ∨ Opens p (lexemes sql.toList)) (name : String) :
    (tokens (ofSql sql p name).prepared.toList).map lexemeOf =
      exchange p 0 ((tokens sql.toList).map lexemeOf) := by
  rw [← tokens_splice sql.toList p opens]
  simp [ofSql]

theorem parameters_ofSql (sql : String) (p : Placeholder) (name : String) :
    (ofSql sql p name).parameters = variableNames ((tokens sql.toList).map lexemeOf) := by
  rw [variableNames_tokens]
  simp [ofSql, splice_eq_substitute]

theorem isVariable_of_isParameter {p : Placeholder} {found : List Token}
    (unused : p.marker = bindMarker ∨ ∀ token ∈ found, token.kind = .identifier →
      token.text.head? ≠ some p.marker)
    {lexeme : Lexeme} (member : lexeme ∈ found.map lexemeOf)
    (parameter : isParameter p lexeme = true) : isVariable lexeme.kind lexeme.text = true := by
  rcases unused with bind | unused
  · rwa [isParameter, bind] at parameter
  · obtain ⟨token, tokenMember, rfl⟩ := List.mem_map.1 member
    obtain ⟨kind, head⟩ := by simpa [isParameter] using parameter
    exact absurd head (unused token tokenMember kind)

/-- A compiled statement, run with values for all its parameters, is the configured one with the
value of its name in the place of every bind variable. Values in a row are used once each, in
order. -/
theorem execute_compiled {α ε : Type} {driver : String} {p : Placeholder}
    (known : (driver, p) ∈ Driver.table) (sql name : String) (value? : String → Option α)
    (unused : p.marker = bindMarker ∨ ∀ token ∈ tokens sql.toList, token.kind = .identifier →
      token.text.head? ≠ some p.marker)
    (separate : p.marker = '?' → ∀ pair ∈ (tokens sql.toList).zip (tokens sql.toList).tail,
      ¬(isBind pair.1 = true ∧ isBind pair.2 = true))
    (present : ∀ parameter ∈ (ofSql sql p name).parameterNames, (value? parameter).isSome) :
    ∃ query bound entries,
      (compile sql p name : Log.Traced ε Query).outcome = .ok query ∧
      query.bind value? = .ok bound ∧
      execute? p bound ((tokens query.prepared.toList).map lexemeOf) = some entries ∧
      intended? value? ((tokens sql.toList).map lexemeOf) = some entries ∧
      (p.style ≠ .named → ∃ values, bound = .positional values ∧
        (parts? p 0 ((tokens query.prepared.toList).map lexemeOf)).map
          (fun parts => parts.filterMap Part.slot?) =
            some ((List.range values.length).map .place)) := by
  have readable : ∀ entry ∈ Driver.table, entry.2.style = .numbered →
      entry.2.passthrough = false := by decide
  have kept : ∀ entry ∈ Driver.table,
      (entry.2.keepsNames = true ↔ entry.2.style = .named) := by decide
  have names := parameters_ofSql sql p name
  have found : parts? p 0 ((tokens (ofSql sql p name).prepared.toList).map lexemeOf) =
      some (layout p 0 ((tokens sql.toList).map lexemeOf)) := by
    rw [tokens_prepared (opens_of_known known sql.toList unused separate)]
    exact parts?_exchange (readable _ known) fun _ => isVariable_of_isParameter unused
  obtain ⟨bound, arranged, holds, row⟩ := bind_holds (kept _ known) present
  obtain ⟨entries, meant⟩ : ∃ entries,
      intended? value? ((tokens sql.toList).map lexemeOf) = some entries := by
    apply exists_intended
    rw [← names]
    exact fun parameter member => present parameter (mem_distinct.2 member)
  refine ⟨_, bound, entries, rfl, arranged, ?_, meant, ?_⟩
  · rw [execute?, found, Option.bind_some, mapM_fill_layout, meant]
    intro place parameter named
    rw [Nat.zero_add]
    rw [names] at holds
    exact holds place parameter named
  · intro placed
    obtain ⟨values, positional, length⟩ := row placed
    refine ⟨values, positional, ?_⟩
    rw [found, Option.map_some, slots_layout placed, length, names, List.range_eq_range']

theorem execute_compiled_twice :
    ∃ query bound entries,
      (compile "a=:x,:x" ⟨.numbered, '$'⟩ "pair" : Log.Traced Empty Query).outcome = .ok query ∧
      query.bind (List.lookup · [("x", 7)]) = .ok bound ∧
      execute? ⟨.numbered, '$'⟩ bound ((tokens query.prepared.toList).map lexemeOf) = some entries ∧
      intended? (List.lookup · [("x", 7)]) ((tokens "a=:x,:x".toList).map lexemeOf) =
        some entries ∧
      (Style.numbered ≠ .named → ∃ values, bound = .positional values ∧
        (parts? ⟨.numbered, '$'⟩ 0 ((tokens query.prepared.toList).map lexemeOf)).map
          (fun parts => parts.filterMap Part.slot?) =
            some ((List.range values.length).map .place)) := by
  have known : ("postgres", (⟨.numbered, '$'⟩ : Placeholder)) ∈ Driver.table := by decide
  have unused : ∀ token ∈ tokens "a=:x,:x".toList, token.kind = .identifier →
      token.text.head? ≠ some '$' := by
    have scanned : tokens "a=:x,:x".toList =
        [⟨.identifier, 0, ['a']⟩, ⟨.operator, 1, ['=']⟩, ⟨.identifier, 2, [':', 'x']⟩,
          ⟨.operator, 4, [',']⟩, ⟨.identifier, 5, [':', 'x']⟩, ⟨.endOfInput, 7, []⟩] := by cbv
    rw [scanned]
    decide
  have present : ∀ parameter ∈ (ofSql "a=:x,:x" ⟨.numbered, '$'⟩ "pair").parameterNames,
      (List.lookup parameter [("x", 7)]).isSome := by
    have names : (ofSql "a=:x,:x" ⟨.numbered, '$'⟩ "pair").parameterNames = ["x"] := by cbv
    rw [names]
    decide
  exact execute_compiled known _ _ _ (.inr unused) (by decide) present

end SqlRoutes.Query
