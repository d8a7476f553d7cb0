import SqlRoutes.Proofs.Route.Parser

/-!
What becomes of the lines that are fed. Every line that starts a route is a route that is registered
or open, and every query line is one query, in order. The query that is pending is the one of the
last query line, with what stands behind it. Each route has the queries of its own lines, so none is
lost, repeated or taken into another route.
-/
namespace SqlRoutes.Route.Conf

open Log

def startsRoute (line : List Char) : Bool := !isIndented line && startsWithMethod line

def queryName (line : List Char) : String := .ofList (Text.strip (line.takeWhile (· ≠ ':')))

/-- The query of the last query line: its name, and the texts behind the colon and on the lines that
follow, which are all indented. -/
def Pending (lines : List (List Char)) (name : String) (parts : List (List Char)) : Prop :=
  ∃ before line more, lines = before ++ line :: more ∧ isQueryLine line = true ∧
    (∀ other ∈ more, isBlankLine other = false ∧ isIndented other = true) ∧
    name = queryName line ∧
    parts = ((line.dropWhile (· ≠ ':')).drop 1 :: more).map Text.strip

def State.names (state : State) : List String :=
  (state.routes.flatMap (·.queries)).map (·.name) ++
    state.draft.toList.flatMap fun draft => draft.queries.map (·.1)

/-- Each line is found in the state: as a route, as a query, or as a part of the pending one. -/
structure Conserved (lines : List (List Char)) (state : State) : Prop where
  count : state.routes.length + state.draft.toList.length = lines.countP startsRoute
  names : state.names = (lines.filter isQueryLine).map queryName
  pending : ∀ draft, state.draft = some draft → draft.parts ≠ [] →
    ∃ earlier name, draft.queries = earlier ++ [(name, "")] ∧ Pending lines name draft.parts

section Kinds

variable {line : List Char}

theorem kind_of_blank (blank : isBlankLine line = true) :
    startsRoute line = false ∧ isQueryLine line = false := by
  have nothing : Text.strip line = [] := List.isEmpty_iff.1 blank
  have wordless : Text.words line = [] := by
    rw [← Text.words_strip, nothing]
    rfl
  constructor
  · have other : startsWithMethod line = false := by
      rw [startsWithMethod, wordless]
      decide
    simp [startsRoute, other]
  · have colonless : ':' ∉ line := by
      intro colon
      exact Text.strip_ne_nil colon (by decide) nothing
    simp [isQueryLine, colonless]

theorem kind_of_indented (indented : isIndented line = true) :
    startsRoute line = false ∧ isQueryLine line = false := by
  simp [startsRoute, isQueryLine, indented]

theorem kind_of_path {words : List (List Char)} (shape : Line.ofText line = .path words) :
    startsRoute line = true ∧ isQueryLine line = false := by
  cases shape_of_ofText shape with
  | path filled unindented starts => simp [startsRoute, isQueryLine, unindented, starts]

theorem kind_of_query {name sql : List Char}
    (shape : Line.ofText line = .query (some (name, sql))) :
    startsRoute line = false ∧ isQueryLine line = true ∧
      queryName line = .ofList (Text.strip name) ∧
      Text.strip ((line.dropWhile (· ≠ ':')).drop 1) = Text.strip sql := by
  cases shape_of_ofText shape with
  | query filled unindented other same =>
    rw [cut?_strip unindented] at same
    by_cases colon : ':' ∈ line
    · rw [if_pos colon, Option.some.injEq, Prod.mk.injEq] at same
      have query : isQueryLine line = true := isQueryLine_iff.2 ⟨unindented, other, colon⟩
      refine ⟨by simp [startsRoute, other], query, ?_, ?_⟩
      · rw [queryName, same.1]
      · rw [← same.2, Text.strip_stripRight]
    · rw [if_neg colon] at same
      cases same

end Kinds

section Steps

variable {p : Placeholder} {state after : State} {lines : List (List Char)} {line : List Char}

theorem Pending.append {name : String} {parts : List (List Char)}
    (pending : Pending lines name parts) (filled : isBlankLine line = false)
    (indented : isIndented line = true) :
    Pending (lines ++ [line]) name (parts ++ [Text.strip line]) := by
  obtain ⟨before, first, more, whole, query, each, named, same⟩ := pending
  refine ⟨before, first, more ++ [line], ?_, query, ?_, named, ?_⟩
  · rw [whole, List.append_assoc, List.cons_append]
  · intro other member
    rcases List.mem_append.1 member with earlier | last
    · exact each other earlier
    · rw [List.mem_singleton.1 last]
      exact ⟨filled, indented⟩
  · rw [same]
    simp

theorem Draft.map_fst_flush (draft : Draft) :
    draft.flush.queries.map (·.1) = draft.queries.map (·.1) := by
  unfold Draft.flush
  split
  · rfl
  split
  · rfl
  · next name sql last =>
    obtain ⟨earlier, queries⟩ := List.getLast?_eq_some_iff.1 last
    rw [queries]
    simp

theorem map_name_compiled (p : Placeholder) (queries : List (String × String)) :
    (compiled p queries).map (·.name) = queries.map (·.1) := by
  rw [compiled, List.map_map]
  rfl

theorem conserved_start : Conserved [] .start := by
  constructor <;> simp [State.start, State.names]

theorem Conserved.ended (conserved : Conserved lines state) {draft : Draft}
    (opened : state.draft = some draft) (p : Placeholder) :
    Conserved lines ⟨state.routes ++
      [⟨draft.pattern, draft.method, compiled p draft.flush.queries⟩], none⟩ := by
  have count := conserved.count
  have names := conserved.names
  constructor
  · simpa [opened] using count
  · simpa [State.names, opened, map_name_compiled, draft.map_fst_flush] using names
  · intro other still
    cases still

theorem Conserved.blank (conserved : Conserved lines state) (blank : isBlankLine line = true)
    (idle : state.draft = none) : Conserved (lines ++ [line]) state := by
  obtain ⟨noRoute, noQuery⟩ := kind_of_blank blank
  constructor
  · simpa [noRoute] using conserved.count
  · simpa [noQuery] using conserved.names
  · intro draft opened
    rw [idle] at opened
    cases opened

theorem Conserved.finish (conserved : Conserved lines state)
    (finished : (state.finish p).outcome = .ok after) : Conserved lines after := by
  rcases finish_eq_ok finished with ⟨idle, rfl⟩ | ⟨draft, opened, rfl⟩
  · exact conserved
  · exact conserved.ended opened p

theorem Conserved.fed (conserved : Conserved lines state) (fed : Fed p state line after) :
    Conserved (lines ++ [line]) after := by
  have count := conserved.count
  have names := conserved.names
  -- A query line leaves itself pending, an indented one goes on with what is pending, and the other
  -- lines leave nothing pending.
  cases fed with
  | blank shape idle => exact conserved.blank (blank_iff.1 shape) idle
  | ended shape opened => exact (conserved.ended opened p).blank (blank_iff.1 shape) rfl
  | path number shape idle =>
    obtain ⟨starts, noQuery⟩ := kind_of_path shape
    constructor
    · simpa [starts, idle] using count
    · simpa [noQuery, State.names, idle] using names
    · intro draft opened pending
      cases opened
      exact absurd rfl pending
  | @query name sql draft shape opened =>
    obtain ⟨noRoute, query, named, same⟩ := kind_of_query shape
    constructor
    · simpa [noRoute, opened] using count
    · rw [List.filter_append, List.map_append, ← names]
      simp [query, State.names, opened, Draft.begin, draft.map_fst_flush, named]
    · intro other opened _
      cases opened
      have alone : ∀ other ∈ [], isBlankLine other = false ∧ isIndented other = true := by simp
      have parts := congrArg (fun part => [part]) same.symm
      exact ⟨_, _, rfl, lines, line, [], rfl, query, alone, named.symm, parts⟩
  | @continuation text draft shape opened pending =>
    cases shape_of_ofText shape with
    | continuation filled indented same =>
      obtain ⟨noRoute, noQuery⟩ := kind_of_indented indented
      obtain ⟨earlier, name, queries, last⟩ := conserved.pending draft opened pending
      constructor
      · simpa [noRoute, opened] using count
      · simpa [noQuery, State.names, opened] using names
      · intro other opened _
        cases opened
        rw [← same]
        exact ⟨earlier, name, queries, last.append filled indented⟩

end Steps

/-- The lines are taken one after the other, from a state to another. -/
inductive Takes (p : Placeholder) : State → List (List Char) → State → Prop
  | done (state : State) : Takes p state [] state
  | line {state middle after : State} {line : List Char} {lines : List (List Char)} (number : Nat)
      (fed : (state.feed p number line).outcome = .ok middle) (later : Takes p middle lines after) :
      Takes p state (line :: lines) after

/-- The routes so far with the one that is open, as it would be if it ended here. -/
def State.whole (p : Placeholder) (state : State) : List Route :=
  state.routes ++ state.draft.toList.map (·.route p [])

section Runs

variable {p : Placeholder} {state after : State} {before lines : List (List Char)}
variable {routes : List Route} {draft : Draft} {line : List Char}

theorem Conserved.takes (conserved : Conserved before state) (takes : Takes p state lines after) :
    Conserved (before ++ lines) after := by
  induction takes generalizing before with
  | done state => simpa using conserved
  | line number fed later ih =>
    have next := ih (conserved.fed (fed_of_ok fed))
    rwa [List.append_assoc] at next

theorem Takes.blank_idle (takes : Takes p ⟨routes, none⟩ (line :: lines) after)
    (blank : isBlankLine line = true) : Takes p ⟨routes, none⟩ lines after := by
  cases takes with
  | line number fed later =>
    rw [feed_blank blank, finish_idle] at fed
    cases fed
    exact later

theorem Takes.blank_open (takes : Takes p ⟨routes, some draft⟩ (line :: lines) after)
    (blank : isBlankLine line = true) :
    Takes p ⟨routes ++ [draft.route p []], none⟩ lines after := by
  cases takes with
  | line number fed later =>
    rw [feed_blank blank, finish_open_iff] at fed
    exact fed.2 ▸ later

theorem Takes.filled_idle (takes : Takes p ⟨routes, none⟩ (line :: lines) after)
    (filled : isBlankLine line = false) : ∃ number,
      Takes p ⟨routes, some ⟨(header [line]).1, (header [line]).2, number, [], []⟩⟩ lines after := by
  cases takes with
  | line number fed later =>
    by_cases starts : isIndented line = false ∧ startsWithMethod line = true ∧
        (Text.words line).length = 2
    · rw [feed_start filled starts.1 starts.2.1 starts.2.2] at fed
      cases fed
      exact ⟨number, later⟩
    · obtain ⟨e, failed⟩ := feed_of_not_starts p routes number filled starts
      rw [failed] at fed
      cases fed

theorem Takes.filled_open (takes : Takes p ⟨routes, some draft⟩ (line :: lines) after)
    (filled : isBlankLine line = false) : ∃ longer, Takes p ⟨routes, some longer⟩ lines after ∧
      ∀ body, longer.route p body = draft.route p (line :: body) := by
  cases takes with
  | line number fed later =>
    by_cases goes : isQueryLine line = true ∨ isIndented line = true ∧ draft.parts ≠ []
    · obtain ⟨longer, taken, _, same⟩ : ∃ longer : Draft,
          (State.feed p ⟨routes, some draft⟩ number line).outcome = .ok ⟨routes, some longer⟩ ∧
          longer.parts ≠ [] ∧ ∀ body, longer.route p body = draft.route p (line :: body) :=
        feed_of_continues filled goes
      rw [taken] at fed
      cases fed
      exact ⟨longer, later, same⟩
    · obtain ⟨e, failed⟩ :
          ∃ e, (State.feed p ⟨routes, some draft⟩ number line).outcome = .error e :=
        feed_of_not_continues filled goes
      rw [failed] at fed
      cases fed

/-- The lines are taken into the routes of their runs, and a route that is open goes on with the
first one. The induction is on the lines, as they are split at the blank ones. -/
theorem whole_of_takes (p : Placeholder) (lines : List (List Char)) :
    ∀ body others, lines.splitOnP isBlankLine = body :: others →
      (∀ routes after, Takes p ⟨routes, none⟩ lines after → after.whole p = routes ++
        ((body :: others).filter fun run => !run.isEmpty).map (routeOf p)) ∧
      ∀ routes draft after, Takes p ⟨routes, some draft⟩ lines after → after.whole p = routes ++
        draft.route p body :: (others.filter fun run => !run.isEmpty).map (routeOf p) := by
  induction lines with
  | nil =>
    intro body others split
    obtain ⟨rfl, rfl⟩ : [] = body ∧ [] = others := by simpa using split
    constructor
    · intro routes after takes
      cases takes
      simp [State.whole]
    · intro routes draft after takes
      cases takes
      simp [State.whole]
  | cons line lines ih =>
    intro body others split
    obtain ⟨next, later, rest⟩ :=
      List.exists_cons_of_ne_nil (List.splitOnP_ne_nil isBlankLine lines)
    obtain ⟨idle, opened⟩ := ih next later rest
    cases blank : isBlankLine line with
    | true =>
      rw [splitOnP_blank blank, rest] at split
      obtain ⟨rfl, rfl⟩ := List.cons.inj split
      constructor
      · intro routes after takes
        simpa using idle routes after (takes.blank_idle blank)
      · intro routes draft after takes
        simpa using idle _ after (takes.blank_open blank)
    | false =>
      rw [splitOnP_filled blank rest] at split
      obtain ⟨rfl, rfl⟩ := List.cons.inj split
      have filled := isBlankLine_of_mem_run (rest ▸ List.mem_cons_self : next ∈ _)
      constructor
      · intro routes after takes
        obtain ⟨number, more⟩ := takes.filled_idle blank
        rw [opened routes _ after more, route_start p number line filled]
        rfl
      · intro routes draft after takes
        obtain ⟨longer, more, same⟩ := takes.filled_open blank
        rw [opened routes longer after more, same]

theorem whole_eq (takes : Takes p .start lines after) :
    after.whole p = (runs lines).map (routeOf p) := by
  obtain ⟨body, others, split⟩ :=
    List.exists_cons_of_ne_nil (List.splitOnP_ne_nil isBlankLine lines)
  rw [(whole_of_takes p lines body others split).1 [] after takes, runs, split]
  rfl

theorem Draft.route_ended (p : Placeholder) (draft : Draft) : draft.route p [] =
    ⟨draft.pattern, draft.method, compiled p draft.flush.queries⟩ := by
  rw [draft.route_nil, draft.flush_header.1, draft.flush_header.2]

theorem whole_finish (finished : (state.finish p).outcome = .ok after) :
    after.draft = none ∧ after.whole p = state.whole p := by
  rcases finish_eq_ok finished with ⟨idle, rfl⟩ | ⟨draft, opened, rfl⟩
  · exact ⟨idle, rfl⟩
  · refine ⟨rfl, ?_⟩
    simp [State.whole, opened, draft.route_ended p]

end Runs

namespace Parser

/-- What holds of the variables after some lines. -/
structure Invariant (p : Placeholder) (lines : List (List Char)) (parser : Parser) : Prop where
  header : parser.path = "" ↔ parser.method = ""
  idle : parser.path = "" → parser.queries = [] ∧ parser.parts = []
  pending : parser.parts ≠ [] →
    ∃ earlier name, parser.queries = earlier ++ [(name, "")] ∧ Pending lines name parser.parts
  count : parser.routes.length + (if parser.path = "" then 0 else 1) = lines.countP startsRoute
  names : (parser.routes.flatMap (·.queries)).map (·.name) ++ parser.queries.map (·.1) =
    (lines.filter isQueryLine).map queryName
  /-- The pending query can be completed, and then the routes are those of the runs of lines. -/
  whole : ∃ queries, parser.flush = pure { parser with queries := queries, parts := [] } ∧
    parser.routes ++ (if parser.path = "" then [] else
      [⟨parser.path, parser.method, compiled p queries⟩]) = (runs lines).map (routeOf p)

section Invariants

variable {p : Placeholder} {parser after : Parser}

theorem Coherent.invariant {lines : List (List Char)} (coherent : Coherent parser)
    (conserved : Conserved lines parser.state)
    (whole : parser.state.whole p = (runs lines).map (routeOf p)) : Invariant p lines parser := by
  have count := conserved.count
  have names := conserved.names
  refine ⟨coherent.header, coherent.idle, ?_, ?_, ?_, _, coherent.flush_eq, ?_⟩
  · intro pending
    have opened : parser.path ≠ "" := fun idle => pending (coherent.idle idle).2
    exact conserved.pending parser.draft (by simp [state, opened]) pending
  · by_cases idle : parser.path = ""
    · simpa [state, idle] using count
    · simpa [state, idle] using count
  · by_cases idle : parser.path = ""
    · simpa [state, idle, State.names, (coherent.idle idle).1] using names
    · simpa [state, idle, State.names, draft] using names
  · rw [← whole]
    by_cases idle : parser.path = ""
    · simp [state_idle idle, idle, State.whole]
    · rw [state_open idle, if_neg idle, State.whole, Option.toList_some, List.map_singleton,
        parser.draft.route_ended p]
      rfl

theorem path_of_idle (idle : parser.state.draft = none) : parser.path = "" := by
  by_cases opened : parser.path = ""
  · exact opened
  · rw [state_open opened] at idle
    cases idle

theorem Coherent.takes (coherent : Coherent parser) {lines : List (List Char × Nat)}
    (fed : (parser.feedAll p lines).outcome = .ok after) :
    Coherent after ∧ Takes p parser.state (lines.map (·.1)) after.state := by
  induction lines generalizing parser with
  | nil =>
    cases fed
    exact ⟨coherent, .done _⟩
  | cons line lines ih =>
    obtain ⟨middle, first, later⟩ := Traced.outcome_bind_eq_ok.1 fed
    obtain ⟨fits, same⟩ := (coherent.feed_follows p line.1 line.2).of_ok first
    obtain ⟨last, takes⟩ := ih fits later
    exact ⟨last, .line line.2 same takes⟩

end Invariants

/-- Whatever lines are fed, and with whatever numbers, the variables keep the invariant, also when
the parser is closed after them, and the last query is there whenever it is looked up. The parser
is the one that reads configurations: it goes through the same states and finds the same routes. -/
theorem feedAll_conserves (p : Placeholder) (lines : List (List Char × Nat)) :
    (∀ parser, (start.feedAll p lines).outcome = .ok parser →
      Invariant p (lines.map (·.1)) parser ∧
      ∀ number closed, (parser.close p number).outcome = .ok closed →
        Invariant p (lines.map (·.1)) closed ∧ closed.path = "") ∧
    (∀ number, Throws (start.feedAll p lines >>= (·.close p number)).outcome (· ≠ .noQuery)) ∧
    (∀ texts number, state <$> start.feedAll p (texts.zipIdx number) =
      (State.start.feedAll p number texts).mapError .defect) ∧
    ∀ texts, read p texts = (Conf.routes p texts).mapError .defect := by
  refine ⟨?_, ?_, ?_, read_eq p⟩
  · intro parser fed
    obtain ⟨coherent, takes⟩ := coherent_start.takes fed
    have conserved : Conserved (lines.map (·.1)) parser.state := conserved_start.takes takes
    refine ⟨coherent.invariant conserved (whole_eq takes), ?_⟩
    intro number closed ended
    obtain ⟨last, finished⟩ := (coherent.close_follows p number).of_ok ended
    obtain ⟨shut, same⟩ := whole_finish finished
    have whole := same.trans (whole_eq takes)
    exact ⟨last.invariant (conserved.finish finished) whole, path_of_idle shut⟩
  · intro number
    rw [Traced.outcome_bind]
    apply (coherent_start.throws_feedAll p lines).bind
    intro parser fed
    exact ((coherent_start.takes fed).1.close_follows p number).throws
  · intro texts number
    exact (coherent_start.feedAll_follows p number texts).eq

theorem feedAll_conserves_open_route : ∃ lines parser closed,
    lines = ["GET /", "q: A", "  :b", "", "POST /", "r: B", "\t:c"].map String.toList ∧
    (start.feedAll ⟨.numbered, '$'⟩ (lines.zipIdx 2)).outcome = .ok parser ∧
    (parser.close ⟨.numbered, '$'⟩ 8).outcome = .ok closed ∧
    parser.queries = [("r", "")] ∧ parser.parts = ["B".toList, ":c".toList] ∧
    closed.routes = [⟨"/", "GET", [.ofSql "A :b" ⟨.numbered, '$'⟩ "q"]⟩,
      ⟨"/", "POST", [.ofSql "B :c" ⟨.numbered, '$'⟩ "r"]⟩] ∧
    Invariant ⟨.numbered, '$'⟩ lines parser ∧ Invariant ⟨.numbered, '$'⟩ lines closed := by
  let lines := ["GET /", "q: A", "  :b", "", "POST /", "r: B", "\t:c"].map String.toList
  let parser : Parser := ⟨[⟨"/", "GET", [.ofSql "A :b" ⟨.numbered, '$'⟩ "q"]⟩], [("GET", "/")], 8,
    "/", 6, "POST", [("r", "")], ["B".toList, ":c".toList]⟩
  let closed : Parser := ⟨[⟨"/", "GET", [.ofSql "A :b" ⟨.numbered, '$'⟩ "q"]⟩,
    ⟨"/", "POST", [.ofSql "B :c" ⟨.numbered, '$'⟩ "r"]⟩], [("GET", "/"), ("POST", "/")], 8,
    "", 6, "", [], []⟩
  have fed : (start.feedAll ⟨.numbered, '$'⟩ (lines.zipIdx 2)).outcome = .ok parser := by
    decide +kernel
  have ended : (parser.close ⟨.numbered, '$'⟩ 8).outcome = .ok closed := by decide +kernel
  obtain ⟨kept, shut⟩ := (feedAll_conserves ⟨.numbered, '$'⟩ (lines.zipIdx 2)).1 parser fed
  have after := (shut 8 closed ended).1
  rw [List.zipIdx_map_fst] at kept after
  exact ⟨lines, parser, closed, rfl, fed, ended, rfl, rfl, rfl, kept, after⟩

end Parser

end SqlRoutes.Route.Conf
