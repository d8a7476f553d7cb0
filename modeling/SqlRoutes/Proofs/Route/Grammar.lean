import Mathlib
import SqlRoutes.Proofs.Route.Statement
import SqlRoutes.Proofs.Text.Blank

/-!
The grammar of the line format, said of the lines as they stand. After the first line, which names
the driver, each maximal run of lines that are not blank is one route: a line with its method and
pattern, then lines with queries, each continued by the indented lines behind it. The parser accepts
just the texts of this form in which no two routes have method and pattern in common.
-/
namespace SqlRoutes.Route.Conf

open Log

def isBlankLine (line : List Char) : Bool := (Text.strip line).isEmpty

def isIndented (line : List Char) : Bool := line.head?.any Text.isBlank

def startsWithMethod (line : List Char) : Bool :=
  ["GET", "POST"].contains (String.ofList ((Text.words line).headD []))

def isQueryLine (line : List Char) : Bool :=
  !isIndented line && !startsWithMethod line && line.contains ':'

/-- The maximal runs of lines that are not blank. -/
def runs (lines : List (List Char)) : List (List (List Char)) :=
  (lines.splitOnP isBlankLine).filter fun run => !run.isEmpty

def header (run : List (List Char)) : String × String :=
  let words := Text.words (run.headD [])
  (.ofList (words.headD []), .ofList (words.getD 1 []))

/-- A run that is a route: its first line is a method and a pattern, and any other line is a query
line, or indented and somewhere behind one. -/
def Formed : List (List Char) → Prop
  | [] => False
  | head :: body =>
    isIndented head = false ∧ startsWithMethod head = true ∧ (Text.words head).length = 2 ∧
      ∀ before line after, body = before ++ line :: after →
        isQueryLine line = true ∨
          isIndented line = true ∧ ∃ earlier ∈ before, isQueryLine earlier = true

/-- The statement of a query line with the lines behind it: what stands after the colon and on the
indented lines that follow. -/
def statementText (line : List Char) (after : List (List Char)) : String :=
  let parts := (line.dropWhile (· ≠ ':')).drop 1 :: after.takeWhile isIndented
  .ofList ([' '].intercalate ((parts.map Text.strip).filter fun part => !part.isEmpty))

def queryAt (p : Placeholder) : List (List Char) → Option Query
  | [] => none
  | line :: after =>
    if isQueryLine line then
      some (.ofSql (statementText line after) p (.ofList (Text.strip (line.takeWhile (· ≠ ':')))))
    else none

/-- The route that a run is: a query for every query line, in order. -/
def routeOf (p : Placeholder) (run : List (List Char)) : Route :=
  ⟨(header run).2, (header run).1, run.tail.tails.filterMap (queryAt p)⟩

section Lines

variable {line : List Char}

theorem ofText_of_blank (blank : isBlankLine line = true) : Line.ofText line = .blank := by
  unfold isBlankLine at blank
  simp [Line.ofText, blank]

theorem ofText_of_indented (filled : isBlankLine line = false) (indented : isIndented line = true) :
    Line.ofText line = .continuation (Text.strip line) := by
  unfold isBlankLine at filled
  unfold isIndented at indented
  simp [Line.ofText, filled, indented]

theorem ofText_of_method (filled : isBlankLine line = false) (unindented : isIndented line = false)
    (starts : startsWithMethod line = true) : Line.ofText line = .path (Text.words line) := by
  unfold isBlankLine at filled
  unfold isIndented at unindented
  have first : methods.contains (String.ofList ((Text.words line).headD [])) = true := starts
  simp only [Line.ofText, filled, unindented, Text.words_strip, first, Bool.false_eq_true,
    ↓reduceIte]

theorem ofText_of_other (filled : isBlankLine line = false) (unindented : isIndented line = false)
    (other : startsWithMethod line = false) :
    Line.ofText line = .query (Text.cut? ':' (Text.strip line)) := by
  unfold isBlankLine at filled
  unfold isIndented at unindented
  have first : methods.contains (String.ofList ((Text.words line).headD [])) = false := other
  simp only [Line.ofText, filled, unindented, Text.words_strip, first, Bool.false_eq_true,
    ↓reduceIte]

theorem isQueryLine_iff : isQueryLine line = true ↔
    isIndented line = false ∧ startsWithMethod line = false ∧ ':' ∈ line := by
  simp [isQueryLine, and_assoc]

theorem cut?_strip (unindented : isIndented line = false) :
    Text.cut? ':' (Text.strip line) =
      if ':' ∈ line then
        some (line.takeWhile (· ≠ ':'), Text.stripRight ((line.dropWhile (· ≠ ':')).drop 1))
      else none := by
  rw [Text.strip_eq_stripRight unindented]
  by_cases colon : ':' ∈ line
  · rw [if_pos colon]
    have cut := Text.cut?_eq ':' line
    rw [if_pos colon] at cut
    obtain ⟨whole, absent⟩ := Text.eq_append_of_cut? cut
    have right : Text.stripRight line = line.takeWhile (· ≠ ':') ++
        ':' :: Text.stripRight ((line.dropWhile (· ≠ ':')).drop 1) := by
      conv_lhs => rw [whole]
      exact Text.stripRight_append_cons (by decide) _ _
    rw [right, Text.cut?_append absent]
  · rw [if_neg colon, Text.cut?_eq, if_neg]
    intro inside
    obtain ⟨blanks, -, whole⟩ := Text.exists_stripRight_append line
    exact colon (whole ▸ List.mem_append_left blanks inside)

end Lines

section Runs

variable {line : List Char} {lines body : List (List Char)} {others : List (List (List Char))}

theorem isBlankLine_of_mem_run {run : List (List Char)}
    (member : run ∈ lines.splitOnP isBlankLine) : ∀ line ∈ run, isBlankLine line = false := by
  induction lines generalizing run with
  | nil =>
    obtain rfl : run = [] := by simpa using member
    simp
  | cons line lines ih =>
    rw [List.splitOnP_cons_eq_if_modifyHead] at member
    split at member
    · rcases List.mem_cons.1 member with rfl | later
      · simp
      · exact ih later
    · next filled =>
      obtain ⟨body, others, split⟩ :=
        List.exists_cons_of_ne_nil (List.splitOnP_ne_nil isBlankLine lines)
      rw [split] at ih member
      rcases List.mem_cons.1 member with rfl | later
      · exact List.forall_mem_cons.2 ⟨by simpa using filled, ih (.head _)⟩
      · exact ih (.tail _ later)

theorem splitOnP_blank (blank : isBlankLine line = true) :
    (line :: lines).splitOnP isBlankLine = [] :: lines.splitOnP isBlankLine := by
  rw [List.splitOnP_cons_eq_if_modifyHead, if_pos blank]

theorem splitOnP_filled (filled : isBlankLine line = false)
    (split : lines.splitOnP isBlankLine = body :: others) :
    (line :: lines).splitOnP isBlankLine = (line :: body) :: others := by
  rw [List.splitOnP_cons_eq_if_modifyHead, if_neg (by simp [filled]), split]
  rfl

end Runs

/-- The lines go on with a route in which a query has `started` or not. -/
def Continues (started : Prop) : List (List Char) → Prop
  | [] => True
  | line :: lines =>
    (isQueryLine line = true ∨ isIndented line = true ∧ started) ∧ Continues True lines

theorem continues_iff {started : Prop} {body : List (List Char)} :
    Continues started body ↔ ∀ before line after, body = before ++ line :: after →
      isQueryLine line = true ∨
        isIndented line = true ∧ (started ∨ ∃ earlier ∈ before, isQueryLine earlier = true) := by
  induction body generalizing started with
  | nil => simp [Continues]
  | cons head body ih =>
    rw [Continues, ih]
    constructor
    · rintro ⟨first, later⟩ before line after parts
      cases before with
      | nil =>
        obtain ⟨rfl, -⟩ := List.cons.inj parts
        exact first.imp_right fun ⟨indented, starts⟩ => ⟨indented, .inl starts⟩
      | cons other before =>
        obtain ⟨rfl, rest⟩ := List.cons.inj parts
        refine (later before line after rest).imp_right fun ⟨indented, _⟩ => ⟨indented, ?_⟩
        exact (first.imp (fun query => ⟨head, .head _, query⟩) (·.2)).symm
    · intro every
      constructor
      · simpa using every [] head body rfl
      · intro before line after rest
        refine (every (head :: before) line after (by rw [rest]; rfl)).imp_right ?_
        exact fun ⟨indented, _⟩ => ⟨indented, .inl trivial⟩

theorem formed_cons_iff {head : List Char} {body : List (List Char)} :
    Formed (head :: body) ↔ isIndented head = false ∧ startsWithMethod head = true ∧
      (Text.words head).length = 2 ∧ Continues False body := by
  simp only [Formed, continues_iff, false_or]

section Statements

variable {p : Placeholder} {body : List (List Char)}

theorem continued_eq (filled : ∀ line ∈ body, isBlankLine line = false) :
    continued body = (body.takeWhile isIndented).map Text.strip := by
  induction body with
  | nil => rfl
  | cons line body ih =>
    obtain ⟨first, later⟩ := List.forall_mem_cons.1 filled
    cases indented : isIndented line with
    | true => simp [continued, ofText_of_indented first indented, indented, ih later]
    | false =>
      cases starts : startsWithMethod line with
      | true => simp [continued, ofText_of_method first indented starts, indented]
      | false => simp [continued, ofText_of_other first indented starts, indented]

theorem map_query_statements (filled : ∀ line ∈ body, isBlankLine line = false) :
    (statements body).map (Statement.query p) = body.tails.filterMap (queryAt p) := by
  induction body with
  | nil => rfl
  | cons line body ih =>
    obtain ⟨first, later⟩ := List.forall_mem_cons.1 filled
    rw [List.tails_cons, List.filterMap_cons, ← ih later]
    cases indented : isIndented line with
    | true => simp [statements, ofText_of_indented first indented, queryAt, isQueryLine, indented]
    | false =>
      cases starts : startsWithMethod line with
      | true =>
        simp [statements, ofText_of_method first indented starts, queryAt, isQueryLine, starts]
      | false =>
        have shape := ofText_of_other first indented starts
        rw [cut?_strip indented] at shape
        by_cases colon : ':' ∈ line
        · rw [if_pos colon] at shape
          have query : isQueryLine line = true := isQueryLine_iff.2 ⟨indented, starts, colon⟩
          simp only [statements, shape, queryAt, query, ↓reduceIte, List.map_cons, Statement.query,
            Text.strip_stripRight, continued_eq later, statementText, List.map_cons]
          rfl
        · rw [if_neg colon] at shape
          simp [statements, shape, queryAt, isQueryLine, colon]

end Statements

def Reads (p : Placeholder) (state : State) (number : Nat) (lines : List (List Char))
    (found : List Route) : Prop :=
  ∃ after, (state.feedAll p number lines).outcome = .ok after ∧
    ∃ last, (after.finish p).outcome = .ok last ∧ last.routes = found

/-- The route of a draft when the rest of its run is read. -/
def Draft.route (p : Placeholder) (draft : Draft) (body : List (List Char)) : Route :=
  ⟨draft.pattern, draft.method,
    draft.written p body ++ (statements body).map (Statement.query p)⟩

def Fresh (routes : List Route) : List Route → Prop
  | [] => True
  | route :: later => Joins routes route ∧ Fresh (routes ++ [route]) later

/-- The routes so far and those of some runs, all of which are formed and can be added. -/
def Adds (p : Placeholder) (routes : List Route) (found : List (List (List Char)))
    (result : List Route) : Prop :=
  (∀ run ∈ found, Formed run) ∧ Fresh routes (found.map (routeOf p)) ∧
    result = routes ++ found.map (routeOf p)

section Reading

variable {p : Placeholder} {state : State} {routes found : List Route} {draft : Draft}
variable {number : Nat} {line : List Char} {lines body : List (List Char)}

theorem routes_eq_ok_iff :
    (Conf.routes p lines).outcome = .ok found ↔ Reads p .start 2 lines found := by
  simp only [Conf.routes, Reads, Traced.outcome_bind_eq_ok, Traced.outcome_pure, Except.ok.injEq]

theorem finish_idle : ((⟨routes, none⟩ : State).finish p).outcome = .ok ⟨routes, none⟩ := rfl

theorem Draft.route_nil (p : Placeholder) (draft : Draft) : draft.route p [] =
    ⟨draft.flush.pattern, draft.flush.method, compiled p draft.flush.queries⟩ := by
  rw [draft.flush_header.1, draft.flush_header.2]
  simp [Draft.route, Draft.written, continued, statements]

theorem finish_open_iff {last : State} :
    ((⟨routes, some draft⟩ : State).finish p).outcome = .ok last ↔
      Joins routes (draft.route p []) ∧ last = ⟨routes ++ [draft.route p []], none⟩ := by
  simp only [State.finish, Traced.outcome_bind_eq_ok, register_eq_ok_iff, draft.route_nil p,
    Traced.outcome_pure, Except.ok.injEq]
  constructor
  · rintro ⟨after, ⟨joins, rfl⟩, rfl⟩
    exact ⟨joins, rfl⟩
  · rintro ⟨joins, rfl⟩
    exact ⟨_, ⟨joins, rfl⟩, rfl⟩

theorem reads_nil : Reads p state number [] found ↔
    ∃ last, (state.finish p).outcome = .ok last ∧ last.routes = found := by
  simp [Reads, State.feedAll]

theorem reads_nil_idle : Reads p ⟨routes, none⟩ number [] found ↔ found = routes := by
  simp [reads_nil, finish_idle, eq_comm]

theorem reads_nil_open : Reads p ⟨routes, some draft⟩ number [] found ↔
    Joins routes (draft.route p []) ∧ found = routes ++ [draft.route p []] := by
  simp only [reads_nil, finish_open_iff]
  constructor
  · rintro ⟨last, ⟨joins, rfl⟩, rfl⟩
    exact ⟨joins, rfl⟩
  · rintro ⟨joins, rfl⟩
    exact ⟨_, ⟨joins, rfl⟩, rfl⟩

theorem reads_cons : Reads p state number (line :: lines) found ↔
    ∃ middle, (state.feed p number line).outcome = .ok middle ∧
      Reads p middle (number + 1) lines found := by
  simp only [Reads, State.feedAll, Traced.outcome_bind_eq_ok]
  constructor
  · rintro ⟨after, ⟨middle, first, later⟩, rest⟩
    exact ⟨middle, first, after, later, rest⟩
  · rintro ⟨middle, first, after, later, rest⟩
    exact ⟨after, ⟨middle, first, later⟩, rest⟩

theorem reads_cons_of_ok {middle : State} (fed : (state.feed p number line).outcome = .ok middle) :
    Reads p state number (line :: lines) found ↔ Reads p middle (number + 1) lines found := by
  rw [reads_cons, fed]
  simp

theorem not_reads_of_error {e : Defect} (fed : (state.feed p number line).outcome = .error e) :
    ¬Reads p state number (line :: lines) found := by
  rw [reads_cons, fed]
  simp

theorem reads_blank_idle (blank : isBlankLine line = true) :
    Reads p ⟨routes, none⟩ number (line :: lines) found ↔
      Reads p ⟨routes, none⟩ (number + 1) lines found := by
  apply reads_cons_of_ok
  simp [State.feed, ofText_of_blank blank, State.finish]

theorem reads_blank_open (blank : isBlankLine line = true) :
    Reads p ⟨routes, some draft⟩ number (line :: lines) found ↔
      Joins routes (draft.route p []) ∧
        Reads p ⟨routes ++ [draft.route p []], none⟩ (number + 1) lines found := by
  rw [reads_cons]
  simp only [State.feed, ofText_of_blank blank, finish_open_iff]
  constructor
  · rintro ⟨middle, ⟨joins, rfl⟩, later⟩
    exact ⟨joins, later⟩
  · rintro ⟨joins, later⟩
    exact ⟨_, ⟨joins, rfl⟩, later⟩

theorem feed_start (filled : isBlankLine line = false) (unindented : isIndented line = false)
    (starts : startsWithMethod line = true) (two : (Text.words line).length = 2) :
    (State.feed p ⟨routes, none⟩ number line).outcome =
      .ok ⟨routes, some ⟨(header [line]).1, (header [line]).2, number, [], []⟩⟩ := by
  have shape := ofText_of_method filled unindented starts
  obtain ⟨method, pattern, words⟩ := List.length_eq_two.1 two
  rw [words] at shape
  simp [State.feed, shape, header, words]

theorem reads_filled_idle (filled : isBlankLine line = false) :
    Reads p ⟨routes, none⟩ number (line :: lines) found ↔
      (isIndented line = false ∧ startsWithMethod line = true ∧ (Text.words line).length = 2) ∧
        Reads p ⟨routes, some ⟨(header [line]).1, (header [line]).2, number, [], []⟩⟩
          (number + 1) lines found := by
  cases indented : isIndented line with
  | true =>
    refine iff_of_false (not_reads_of_error (e := ⟨.strayContinuation, number⟩) ?_) (by simp)
    simp [State.feed, ofText_of_indented filled indented]
  | false =>
    cases starts : startsWithMethod line with
    | false =>
      refine iff_of_false (not_reads_of_error (e := ⟨.strayQuery, number⟩) ?_) (by simp)
      simp [State.feed, ofText_of_other filled indented starts]
    | true =>
      by_cases two : (Text.words line).length = 2
      · simp only [two, true_and]
        exact reads_cons_of_ok (feed_start filled indented starts two)
      · have shape := ofText_of_method filled indented starts
        refine iff_of_false (not_reads_of_error (e := ⟨.invalidPathLine, number⟩) ?_)
          (by simp [two])
        generalize Text.words line = words at shape two
        rcases words with _ | ⟨method, _ | ⟨pattern, _ | ⟨other, words⟩⟩⟩
        · simp [State.feed, shape]
        · simp [State.feed, shape]
        · exact absurd rfl two
        · simp [State.feed, shape]

theorem feed_of_continues (filled : isBlankLine line = false)
    (goes : isQueryLine line = true ∨ isIndented line = true ∧ draft.parts ≠ []) :
    ∃ next : Draft,
      (State.feed p ⟨routes, some draft⟩ number line).outcome = .ok ⟨routes, some next⟩ ∧
      next.parts ≠ [] ∧ ∀ body, next.route p body = draft.route p (line :: body) := by
  rcases goes with query | ⟨indented, pending⟩
  · obtain ⟨unindented, other, colon⟩ := isQueryLine_iff.1 query
    have shape := ofText_of_other filled unindented other
    rw [cut?_strip unindented, if_pos colon] at shape
    refine ⟨_, by simp only [State.feed, shape]; rfl, by simp [Draft.begin], fun body => ?_⟩
    have kept : draft.written p (line :: body) = compiled p draft.flush.queries :=
      written_other draft (by simp [continued, shape])
    simp only [Draft.route, written_query, kept, statements, shape, List.map_cons,
      List.append_assoc, List.singleton_append]
    simp only [Draft.begin, draft.flush_header]
  · have shape := ofText_of_indented filled indented
    refine ⟨{ draft with parts := draft.parts ++ [Text.strip line] }, ?_, by simp, fun body => ?_⟩
    · simp [State.feed, shape, pending]
    · simp only [Draft.route, written_continuation draft shape, statements, shape]

theorem feed_of_not_continues (filled : isBlankLine line = false)
    (stops : ¬(isQueryLine line = true ∨ isIndented line = true ∧ draft.parts ≠ [])) :
    ∃ e, (State.feed p ⟨routes, some draft⟩ number line).outcome = .error e := by
  rw [not_or] at stops
  obtain ⟨noQuery, noContinuation⟩ := stops
  cases indented : isIndented line with
  | true =>
    have empty : draft.parts = [] := by simpa [indented] using noContinuation
    exact ⟨_, by simp only [State.feed, ofText_of_indented filled indented, empty]; rfl⟩
  | false =>
    cases starts : startsWithMethod line with
    | true => exact ⟨_, by simp only [State.feed, ofText_of_method filled indented starts]; rfl⟩
    | false =>
      have noColon : ':' ∉ line := fun colon =>
        noQuery (isQueryLine_iff.2 ⟨indented, starts, colon⟩)
      have shape := ofText_of_other filled indented starts
      rw [cut?_strip indented, if_neg noColon] at shape
      exact ⟨_, by simp only [State.feed, shape]; rfl⟩

end Reading

theorem adds_nil {p : Placeholder} {routes result : List Route} :
    Adds p routes [] result ↔ result = routes := by
  simp [Adds, Fresh]

theorem adds_cons {p : Placeholder} {routes result : List Route} {run : List (List Char)}
    {later : List (List (List Char))} :
    Adds p routes (run :: later) result ↔ Formed run ∧ Joins routes (routeOf p run) ∧
      Adds p (routes ++ [routeOf p run]) later result := by
  simp only [Adds, List.forall_mem_cons, List.map_cons, Fresh, List.append_assoc,
    List.singleton_append]
  tauto

theorem route_start (p : Placeholder) (number : Nat) (head : List Char) {body : List (List Char)}
    (filled : ∀ line ∈ body, isBlankLine line = false) :
    Draft.route p ⟨(header [head]).1, (header [head]).2, number, [], []⟩ body =
      routeOf p (head :: body) := by
  simp only [Draft.route, written_start, map_query_statements filled, List.nil_append, routeOf]
  rfl

/-- What is read from a state on: the run that is open goes on with its route, and each later run
is a route of its own. -/
theorem reads_iff {p : Placeholder} {found : List Route} (lines : List (List Char)) :
    ∀ number routes body others, lines.splitOnP isBlankLine = body :: others →
      (Reads p ⟨routes, none⟩ number lines found ↔
        Adds p routes ((body :: others).filter fun run => !run.isEmpty) found) ∧
      ∀ draft : Draft, Reads p ⟨routes, some draft⟩ number lines found ↔
        Continues (draft.parts ≠ []) body ∧ Joins routes (draft.route p body) ∧
          Adds p (routes ++ [draft.route p body]) (others.filter fun run => !run.isEmpty)
            found := by
  induction lines with
  | nil =>
    rintro number routes body others split
    obtain ⟨rfl, rfl⟩ : [] = body ∧ [] = others := by simpa using split
    refine ⟨by simp [reads_nil_idle, adds_nil], fun draft => ?_⟩
    simp [reads_nil_open, adds_nil, Continues]
  | cons line lines ih =>
    rintro number routes body others split
    obtain ⟨next, later, rest⟩ :=
      List.exists_cons_of_ne_nil (List.splitOnP_ne_nil isBlankLine lines)
    cases blank : isBlankLine line with
    | true =>
      rw [splitOnP_blank blank, rest] at split
      obtain ⟨rfl, rfl⟩ := List.cons.inj split
      refine ⟨?_, fun draft => ?_⟩
      · rw [reads_blank_idle blank, (ih _ routes next later rest).1]
        simp
      · rw [reads_blank_open blank, (ih _ _ next later rest).1]
        simp [Continues]
    | false =>
      rw [splitOnP_filled blank rest] at split
      obtain ⟨rfl, rfl⟩ := List.cons.inj split
      have filled := isBlankLine_of_mem_run (rest ▸ List.mem_cons_self : next ∈ _)
      refine ⟨?_, fun draft => ?_⟩
      · have kept : ((line :: next) :: later).filter (fun run => !run.isEmpty) =
            (line :: next) :: later.filter fun run => !run.isEmpty := rfl
        rw [reads_filled_idle blank, (ih _ routes next later rest).2, kept, adds_cons,
          formed_cons_iff, route_start p number line filled]
        simp [and_assoc]
      · rw [Continues]
        by_cases goes : isQueryLine line = true ∨ isIndented line = true ∧ draft.parts ≠ []
        · obtain ⟨after, fed, pending, same⟩ := feed_of_continues (p := p) blank goes
          rw [reads_cons_of_ok fed, (ih _ routes next later rest).2, same]
          simp [goes, pending]
        · obtain ⟨e, fed⟩ := feed_of_not_continues (p := p) blank goes
          exact iff_of_false (not_reads_of_error fed) fun all => goes all.1.1

theorem fresh_iff {routes later : List Route} (known : ∀ route ∈ later, route.method ∈ methods) :
    Fresh routes later ↔ (later.map fun route => (route.method, route.pattern)).Nodup ∧
      ∀ route ∈ later, ∀ other ∈ routes,
        (other.method, other.pattern) ≠ (route.method, route.pattern) := by
  induction later generalizing routes with
  | nil => simp [Fresh]
  | cons route later ih =>
    obtain ⟨first, others⟩ := List.forall_mem_cons.1 known
    rw [Fresh, ih others, List.map_cons, List.nodup_cons, List.forall_mem_cons]
    simp only [Joins, first, true_and, List.forall_mem_append, List.forall_mem_singleton,
      List.mem_map, not_exists, not_and]
    constructor
    · rintro ⟨before, distinct, apart⟩
      exact ⟨⟨fun other member same => (apart other member).2 same.symm, distinct⟩, before,
        fun other member => (apart other member).1⟩
    · rintro ⟨⟨apart, distinct⟩, before, later⟩
      exact ⟨before, distinct, fun other member =>
        ⟨later other member, fun same => apart other member same.symm⟩⟩

theorem method_of_formed {p : Placeholder} {run : List (List Char)} (formed : Formed run) :
    (routeOf p run).method ∈ methods := by
  cases run with
  | nil => exact formed.elim
  | cons head body => exact List.contains_iff_mem.1 formed.2.1

theorem adds_start {p : Placeholder} {found : List (List (List Char))} {result : List Route} :
    Adds p [] found result ↔ (∀ run ∈ found, Formed run) ∧ (found.map header).Nodup ∧
      result = found.map (routeOf p) := by
  rw [Adds, List.nil_append]
  refine and_congr_right fun formed => and_congr_left fun _ => ?_
  have known : ∀ route ∈ found.map (routeOf p), route.method ∈ methods := by
    intro route member
    obtain ⟨run, inside, rfl⟩ := List.mem_map.1 member
    exact method_of_formed (formed run inside)
  have headers : (found.map (routeOf p)).map (fun route => (route.method, route.pattern)) =
      found.map header := List.map_map
  simp [fresh_iff known, headers]

theorem routes_eq_ok_iff_runs {p : Placeholder} {lines : List (List Char)} {found : List Route} :
    (Conf.routes p lines).outcome = .ok found ↔ (∀ run ∈ runs lines, Formed run) ∧
      ((runs lines).map header).Nodup ∧ found = (runs lines).map (routeOf p) := by
  obtain ⟨body, others, split⟩ :=
    List.exists_cons_of_ne_nil (List.splitOnP_ne_nil isBlankLine lines)
  rw [routes_eq_ok_iff, State.start, (reads_iff lines 2 [] body others split).1, adds_start, runs,
    split]

/-- The text before the first blank of a line that is stripped. -/
def driverOf (line : List Char) : String :=
  .ofList (Text.strip ((Text.strip line).takeWhile (· ≠ ' ')))

def optionsOf (line : List Char) : String :=
  .ofList (Text.strip (((Text.strip line).dropWhile (· ≠ ' ')).drop 1))

theorem driverLine_eq (line : List Char) : driverLine line = (driverOf line, optionsOf line) := by
  simp only [driverLine, Text.cut?_eq, driverOf, optionsOf]
  by_cases blank : ' ' ∈ Text.strip line
  · simp only [if_pos blank]
  · have every : ∀ c ∈ Text.strip line, (decide (c ≠ ' ')) = true := by
      intro c member
      have other : c ≠ ' ' := by
        rintro rfl
        exact blank member
      simpa using other
    simp only [if_neg blank, List.takeWhile_eq_self_iff.2 every, List.dropWhile_eq_nil_iff.2 every,
      Text.strip_strip]
    rfl

theorem parse_eq_ok_iff {source : String} {strict : Bool} {text : List Char}
    {config : RouteConfig} :
    (parse source strict text).outcome = .ok config ↔
      ∃ first rest, Text.splitLines text = first :: rest ∧ isBlankLine first = false ∧
        config.driver = driverOf first ∧ config.options = optionsOf first ∧
        (Binding.forDriver [] strict config.driver).outcome = .ok config.binding ∧
        (Conf.routes config.binding.placeholder rest).outcome = .ok config.routes := by
  unfold parse parseLines
  cases Text.splitLines text with
  | nil => simp
  | cons first rest =>
    by_cases blank : isBlankLine first = true
    · have empty : (Text.strip first).isEmpty = true := blank
      simp only [if_pos empty, Traced.outcome_fail, reduceCtorEq, false_iff]
      rintro ⟨first, rest, lines, filled, -⟩
      obtain ⟨rfl, -⟩ := List.cons.inj lines
      exact Bool.false_ne_true (filled.symm.trans blank)
    · have filled : ¬(Text.strip first).isEmpty = true := blank
      simp only [if_neg filled, driverLine_eq, Traced.outcome_bind_eq_ok,
        Traced.outcome_mapError_eq_ok, Traced.outcome_pure, Except.ok.injEq, List.cons.injEq]
      constructor
      · rintro ⟨binding, bound, found, read, rfl⟩
        exact ⟨first, rest, ⟨rfl, rfl⟩, by simpa using blank, rfl, rfl, bound, read⟩
      · rintro ⟨first, rest, ⟨rfl, rfl⟩, -, driver, options, bound, read⟩
        refine ⟨_, driver ▸ bound, _, read, ?_⟩
        rw [← driver, ← options]

theorem exists_binding {strict : Bool} {driver : String}
    (known : strict = true → (Driver.known? [] driver).isSome = true) :
    ∃ binding, (Binding.forDriver [] strict driver).outcome = .ok binding := by
  simp only [Binding.forDriver, Traced.outcome_bind_eq_ok, Driver.resolve]
  cases found : Driver.known? [] driver with
  | some convention => exact ⟨_, convention, rfl, rfl⟩
  | none =>
    cases strict with
    | true => simp [found] at known
    | false => exact ⟨_, .fallback, rfl, rfl⟩

/-- The parser accepts the texts whose first line is filled and whose runs are formed routes, each
with a method and pattern of its own; it reads the driver and its options from the first line, and
from each run its route. -/
theorem parse_grammar (source : String) (strict : Bool) (text : List Char)
    (known : ∀ first rest, Text.splitLines text = first :: rest → strict = true →
      (Driver.known? [] (driverOf first)).isSome = true) :
    ((∃ config, (parse source strict text).outcome = .ok config) ↔
      ∃ first rest, Text.splitLines text = first :: rest ∧ isBlankLine first = false ∧
        (∀ run ∈ runs rest, Formed run) ∧ ((runs rest).map header).Nodup) ∧
    ∀ config, (parse source strict text).outcome = .ok config →
      ∃ first rest, Text.splitLines text = first :: rest ∧ config.driver = driverOf first ∧
        config.options = optionsOf first ∧
        (Binding.forDriver [] strict config.driver).outcome = .ok config.binding ∧
        config.routes = (runs rest).map (routeOf config.binding.placeholder) := by
  simp only [parse_eq_ok_iff, routes_eq_ok_iff_runs]
  constructor
  · constructor
    · rintro ⟨config, first, rest, lines, filled, -, -, -, formed, distinct, -⟩
      exact ⟨first, rest, lines, filled, formed, distinct⟩
    · rintro ⟨first, rest, lines, filled, formed, distinct⟩
      obtain ⟨binding, bound⟩ := exists_binding (known first rest lines)
      let found := (runs rest).map (routeOf binding.placeholder)
      exact ⟨⟨driverOf first, optionsOf first, binding, found⟩, first, rest, lines, filled, rfl,
        rfl, bound, formed, distinct, rfl⟩
  · rintro config ⟨first, rest, lines, -, driver, options, bound, -, -, found⟩
    exact ⟨first, rest, lines, driver, options, bound, found⟩

theorem parse_grammar_two_runs : ∃ config,
    (parse "a.conf" true "ql o\nGET /\nq: A\n  :b\n\nPOST /\n".toList).outcome = .ok config ∧
      config.driver = "ql" ∧ config.options = "o" ∧
      config.routes = [⟨"/", "GET", [.ofSql "A :b" ⟨.numbered, '$'⟩ "q"]⟩, ⟨"/", "POST", []⟩] := by
  have lines : Text.splitLines "ql o\nGET /\nq: A\n  :b\n\nPOST /\n".toList =
      "ql o".toList :: ["GET /", "q: A", "  :b", "", "POST /"].map String.toList := by decide
  have apart : runs (["GET /", "q: A", "  :b", "", "POST /"].map String.toList) =
      [["GET /", "q: A", "  :b"].map String.toList, ["POST /".toList]] := by cbv
  have first : Formed (["GET /", "q: A", "  :b"].map String.toList) :=
    formed_cons_iff.2 ⟨by cbv, by cbv, by cbv,
      .inl (by cbv), .inr ⟨by cbv, trivial⟩, trivial⟩
  have second : Formed ["POST /".toList] :=
    formed_cons_iff.2 ⟨by cbv, by cbv, by cbv, trivial⟩
  have formed := List.forall_mem_cons.2 ⟨first, List.forall_mem_singleton.2 second⟩
  obtain ⟨accepts, reads⟩ := parse_grammar "a.conf" true
    "ql o\nGET /\nq: A\n  :b\n\nPOST /\n".toList (by
      intro line rest split _
      obtain ⟨rfl, -⟩ := List.cons.inj (lines.symm.trans split)
      cbv)
  rw [← apart] at formed
  obtain ⟨config, parsed⟩ := accepts.2 ⟨_, _, lines, by cbv, formed, by rw [apart]; decide⟩
  obtain ⟨line, rest, split, driver, options, bound, found⟩ := reads config parsed
  obtain ⟨rfl, rfl⟩ := List.cons.inj (lines.symm.trans split)
  have named : config.driver = "ql" := driver.trans (by cbv)
  have chosen : config.binding = ⟨"ql", .given ⟨.numbered, '$'⟩, true⟩ := by
    rw [named] at bound
    exact Except.ok.inj (bound.symm.trans (by cbv))
  rw [apart, chosen] at found
  exact ⟨config, parsed, named, options.trans (by cbv), found.trans (by cbv)⟩

end SqlRoutes.Route.Conf
