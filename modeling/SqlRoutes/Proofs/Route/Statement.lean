import SqlRoutes.Proofs.Log.Traced
import SqlRoutes.Route.Conf

/-!
The statements of a configuration in the line format. Each stands on a query line and the
continuation lines right after it; whatever the parser is given, the queries it makes are those
statements, in order, each joined and compiled once.
-/
namespace SqlRoutes.Route.Conf

open Log

/-- A statement as it stands in the lines: its name and its parts, one from each line. -/
structure Statement where
  name : String
  parts : List (List Char)
  deriving DecidableEq, Repr

def continued : List (List Char) → List (List Char)
  | [] => []
  | line :: lines =>
    match Line.ofText line with
    | .continuation text => text :: continued lines
    | _ => []

def statements : List (List Char) → List Statement
  | [] => []
  | line :: lines =>
    match Line.ofText line with
    | .query (some (name, sql)) =>
      ⟨.ofList (Text.strip name), Text.strip sql :: continued lines⟩ :: statements lines
    | _ => statements lines

def compiled (p : Placeholder) (queries : List (String × String)) : List Query :=
  queries.map fun query => .ofSql query.2 p query.1

def Statement.query (p : Placeholder) (statement : Statement) : Query :=
  .ofSql (joinParts statement.parts) p statement.name

/-- The queries of a draft, the last one with the continuation lines that follow. -/
def Draft.written (p : Placeholder) (draft : Draft) (lines : List (List Char)) : List Query :=
  compiled p { draft with parts := draft.parts ++ continued lines }.flush.queries

def State.written (p : Placeholder) (state : State) (lines : List (List Char)) : List Query :=
  state.routes.flatMap (·.queries) ++
    match state.draft with
    | none => []
    | some draft => draft.written p lines

theorem outcome_compileAll {ε : Type} (p : Placeholder) (queries : List (String × String)) :
    (compileAll p queries : Traced ε (List Query)).outcome = .ok (compiled p queries) := by
  induction queries with
  | nil => rfl
  | cons query queries ih =>
    refine Traced.outcome_bind_eq_ok.2 ⟨_, rfl, ?_⟩
    exact Traced.outcome_bind_eq_ok.2 ⟨_, ih, rfl⟩

theorem Draft.flush_header (draft : Draft) :
    draft.flush.method = draft.method ∧ draft.flush.pattern = draft.pattern := by
  unfold flush
  split
  · exact ⟨rfl, rfl⟩
  · split <;> exact ⟨rfl, rfl⟩

theorem Draft.flush_pending {draft : Draft} {queries : List (String × String)} {name sql : String}
    (last : draft.queries = queries ++ [(name, sql)]) (pending : draft.parts ≠ []) :
    draft.flush.queries = queries ++ [(name, joinParts draft.parts)] := by
  simp [flush, last, pending]

/-- Whether a route can be added: it has one of the methods, and none has its method and pattern. -/
def Joins (routes : List Route) (route : Route) : Prop :=
  route.method ∈ methods ∧
    ∀ other ∈ routes, (other.method, other.pattern) ≠ (route.method, route.pattern)

theorem register_eq_ok_iff {p : Placeholder} {routes after : List Route} {method pattern : String}
    {queries : List (String × String)} {line : Option Nat} :
    (register p routes method pattern queries line).outcome = .ok after ↔
      Joins routes ⟨pattern, method, compiled p queries⟩ ∧
        after = routes ++ [⟨pattern, method, compiled p queries⟩] := by
  unfold register
  split
  · next unknown =>
    have refused : ¬method ∈ methods := by simpa using unknown
    simp [Joins, refused]
  next known =>
  split
  · next present =>
    have refused : ¬∀ other ∈ routes, (other.method, other.pattern) ≠ (method, pattern) := by
      simpa using present
    simp only [Traced.outcome_fail, reduceCtorEq, false_iff]
    exact fun ⟨joins, _⟩ => refused joins.2
  · next absent =>
    have joins : Joins routes ⟨pattern, method, compiled p queries⟩ := by
      refine ⟨by simpa using known, ?_⟩
      simpa using absent
    simp only [Traced.outcome_bind_eq_ok, outcome_compileAll, joins, true_and]
    constructor
    · rintro ⟨found, ran, -, -, same⟩
      obtain rfl := Except.ok.inj ran
      exact (Except.ok.inj same).symm
    · rintro rfl
      exact ⟨_, rfl, (), rfl, rfl⟩

inductive Fed (p : Placeholder) (state : State) (line : List Char) : State → Prop where
  | blank (shape : Line.ofText line = .blank) (idle : state.draft = none) : Fed p state line state
  | ended {draft : Draft} (shape : Line.ofText line = .blank) (opened : state.draft = some draft) :
      Fed p state line ⟨state.routes ++
        [⟨draft.pattern, draft.method, compiled p draft.flush.queries⟩], none⟩
  | path {method pattern : List Char} (number : Nat)
      (shape : Line.ofText line = .path [method, pattern]) (idle : state.draft = none) :
      Fed p state line
        { state with draft := some ⟨.ofList method, .ofList pattern, number, [], []⟩ }
  | query {name sql : List Char} {draft : Draft}
      (shape : Line.ofText line = .query (some (name, sql))) (opened : state.draft = some draft) :
      Fed p state line { state with draft := some (draft.flush.begin name sql) }
  | continuation {text : List Char} {draft : Draft} (shape : Line.ofText line = .continuation text)
      (opened : state.draft = some draft) (pending : draft.parts ≠ []) :
      Fed p state line { state with draft := some { draft with parts := draft.parts ++ [text] } }

theorem finish_eq_ok {p : Placeholder} {state after : State}
    (finished : (state.finish p).outcome = .ok after) :
    (state.draft = none ∧ after = state) ∨ ∃ draft, state.draft = some draft ∧
      after = ⟨state.routes ++
        [⟨draft.pattern, draft.method, compiled p draft.flush.queries⟩], none⟩ := by
  unfold State.finish at finished
  split at finished
  · next idle => exact .inl ⟨idle, (Except.ok.inj finished).symm⟩
  · next draft opened =>
    obtain ⟨routes, registered, same⟩ := Traced.outcome_bind_eq_ok.1 finished
    rw [(register_eq_ok_iff.1 registered).2, draft.flush_header.1, draft.flush_header.2] at same
    exact .inr ⟨draft, opened, (Except.ok.inj same).symm⟩

theorem fed_of_ok {p : Placeholder} {state after : State} {number : Nat} {line : List Char}
    (fed : (state.feed p number line).outcome = .ok after) : Fed p state line after := by
  unfold State.feed at fed
  split at fed
  · next _ shape =>
    rcases finish_eq_ok fed with ⟨idle, rfl⟩ | ⟨draft, opened, rfl⟩
    · exact .blank shape idle
    · exact .ended shape opened
  · simp at fed
  · next shape idle =>
    obtain rfl := Except.ok.inj fed
    exact .path number shape idle
  · simp at fed
  · simp at fed
  · simp at fed
  · next shape opened =>
    obtain rfl := Except.ok.inj fed
    exact .query shape opened
  · simp at fed
  · next shape opened =>
    split at fed
    · simp at fed
    · next pending =>
      obtain rfl := Except.ok.inj fed
      exact .continuation shape opened (by simpa using pending)

theorem written_query (p : Placeholder) (draft : Draft) (name sql : List Char)
    (lines : List (List Char)) :
    (draft.flush.begin name sql).written p lines = compiled p draft.flush.queries ++
      [Statement.query p ⟨.ofList (Text.strip name), Text.strip sql :: continued lines⟩] := by
  unfold Draft.written
  rw [Draft.flush_pending rfl (by simp [Draft.begin]), compiled, List.map_append]
  rfl

theorem written_continuation {p : Placeholder} {line text : List Char} (draft : Draft)
    (shape : Line.ofText line = .continuation text) (lines : List (List Char)) :
    { draft with parts := draft.parts ++ [text] }.written p lines =
      draft.written p (line :: lines) := by
  simp [Draft.written, continued, shape]

theorem written_other {p : Placeholder} {line : List Char} {lines : List (List Char)}
    (draft : Draft) (other : continued (line :: lines) = []) :
    draft.written p (line :: lines) = compiled p draft.flush.queries := by
  rw [Draft.written, other, List.append_nil]

theorem written_start (p : Placeholder) (method pattern : String) (number : Nat)
    (lines : List (List Char)) :
    (⟨method, pattern, number, [], []⟩ : Draft).written p lines = [] := by
  unfold Draft.written Draft.flush
  split <;> rfl

theorem Fed.written {p : Placeholder} {state after : State} {line : List Char}
    (fed : Fed p state line after) (lines : List (List Char)) :
    after.written p lines ++ (statements lines).map (Statement.query p) =
      state.written p (line :: lines) ++ (statements (line :: lines)).map (Statement.query p) := by
  -- Only a continuation line looks at the draft's parts; before any other line they are complete.
  cases fed with
  | blank shape idle => simp [State.written, statements, shape, idle]
  | @ended draft shape opened =>
    have ends : continued (line :: lines) = [] := by simp [continued, shape]
    have kept := written_other (p := p) draft ends
    simp [State.written, statements, shape, opened, kept]
  | path number shape idle => simp [State.written, statements, shape, idle, written_start]
  | @query name sql draft shape opened =>
    have ends : continued (line :: lines) = [] := by simp [continued, shape]
    have kept := written_other (p := p) draft ends
    simp [State.written, statements, shape, opened, kept, written_query]
  | @continuation text draft shape opened pending =>
    simp [State.written, statements, shape, opened, written_continuation draft shape]

theorem feedAll_written {p : Placeholder} {state after : State} {number : Nat}
    {lines : List (List Char)} (fed : (state.feedAll p number lines).outcome = .ok after) :
    after.written p [] =
      state.written p lines ++ (statements lines).map (Statement.query p) := by
  induction lines generalizing state number with
  | nil =>
    obtain rfl := Except.ok.inj fed
    exact (List.append_nil _).symm
  | cons line lines ih =>
    obtain ⟨middle, first, later⟩ := Traced.outcome_bind_eq_ok.1 fed
    rw [ih later, (fed_of_ok first).written lines]

theorem routes_queries {p : Placeholder} {lines : List (List Char)} {found : List Route}
    (parsed : (routes p lines).outcome = .ok found) :
    found.flatMap (·.queries) = (statements lines).map (Statement.query p) := by
  obtain ⟨state, fed, rest⟩ := Traced.outcome_bind_eq_ok.1 parsed
  obtain ⟨after, finished, same⟩ := Traced.outcome_bind_eq_ok.1 rest
  obtain rfl := Except.ok.inj same
  calc after.routes.flatMap (·.queries)
      = state.written p [] := by
        unfold State.written
        rcases finish_eq_ok finished with ⟨idle, rfl⟩ | ⟨draft, opened, rfl⟩
        · simp [idle]
        · simp [opened, Draft.written, continued]
    _ = State.start.written p lines ++ (statements lines).map (Statement.query p) :=
        feedAll_written fed
    _ = (statements lines).map (Statement.query p) := rfl

end SqlRoutes.Route.Conf
