import SqlRoutes.Proofs.Route.Journal
import SqlRoutes.Proofs.Route.Location

/-!
The parser of the line format with each of its variables by itself: the route that is open is a
path, a method, its queries and the parts of the last of them, and there is none while the path is
empty. The variables are changed one at a time, and a query is completed in a place that is looked
up. They always fit together, the place is always there, and the parser reads what `routes` reads.
-/
namespace SqlRoutes.Route.Conf

open Log

/-- How the parser stops: at a defect, or where it looks up a last query and there is none. -/
inductive Fault where
  | defect (found : Defect)
  | noQuery
  deriving DecidableEq, Repr

structure Parser where
  routes : List Route
  /-- Methods and patterns of the routes. -/
  seen : List (String × String)
  /-- The number of the line that was read last. -/
  line : Nat
  path : String
  pathLine : Nat
  method : String
  queries : List (String × String)
  /-- What is read of the last query and not yet written into it. -/
  parts : List (List Char)
  deriving DecidableEq, Repr

namespace Parser

def start : Parser := ⟨[], [], 0, "", 0, "", [], []⟩

def refuse (parser : Parser) (problem : Problem) : Traced Fault Parser :=
  .fail (.defect ⟨problem, some parser.line⟩)

def flush (parser : Parser) : Traced Fault Parser :=
  if parser.parts.isEmpty then return parser
  else
    match parser.queries.getLast? with
    | none => .fail .noQuery
    | some (name, _) =>
      return { parser with
        queries := parser.queries.dropLast ++ [(name, joinParts parser.parts)]
        parts := [] }

def collect (p : Placeholder) (parser : Parser) : Traced Fault Parser := do
  if !methods.contains parser.method then
    .fail (.defect ⟨.invalidMethod parser.path parser.method, some parser.pathLine⟩)
  else if parser.seen.contains (parser.method, parser.path) then
    .fail (.defect ⟨.duplicateRoute parser.method parser.path, some parser.pathLine⟩)
  else
    let compiled ← compileAll p parser.queries
    let route : Route := ⟨parser.path, parser.method, compiled⟩
    .log route.record
    return { parser with
      routes := parser.routes ++ [route]
      seen := parser.seen ++ [(parser.method, parser.path)] }

def register (p : Placeholder) (parser : Parser) : Traced Fault Parser := do
  let parser ← parser.flush
  let parser ← parser.collect p
  return { parser with path := "", method := "", queries := [] }

def startRoute (parser : Parser) (words : List (List Char)) : Traced Fault Parser :=
  if parser.path ≠ "" then parser.refuse .routesNotSeparated
  else
    match words with
    | [method, path] => return { parser with
        method := .ofList method
        path := .ofList path
        pathLine := parser.line }
    | _ => parser.refuse .invalidPathLine

def startQuery (parser : Parser) (cut : Option (List Char × List Char)) : Traced Fault Parser :=
  if parser.path = "" then parser.refuse .strayQuery
  else do
    let parser ← parser.flush
    match cut with
    | none => parser.refuse .colonMissing
    | some (name, sql) => return { parser with
        queries := parser.queries ++ [(.ofList (Text.strip name), "")]
        parts := [Text.strip sql] }

def continueQuery (parser : Parser) (text : List Char) : Traced Fault Parser :=
  if parser.parts.isEmpty then parser.refuse .strayContinuation
  else return { parser with parts := parser.parts ++ [text] }

/-- At a blank line, or at the end, the route that is open has ended. -/
def finish (p : Placeholder) (parser : Parser) : Traced Fault Parser :=
  if parser.path ≠ "" then parser.register p else return parser

def feed (p : Placeholder) (parser : Parser) (line : List Char) (number : Nat) :
    Traced Fault Parser :=
  let parser := { parser with line := number }
  match Line.ofText line with
  | .blank => parser.finish p
  | .path words => parser.startRoute words
  | .query cut => parser.startQuery cut
  | .continuation text => parser.continueQuery text

def close (p : Placeholder) (parser : Parser) (number : Nat) : Traced Fault Parser :=
  finish p { parser with line := number }

def feedAll (p : Placeholder) (parser : Parser) : List (List Char × Nat) → Traced Fault Parser
  | [] => return parser
  | (line, number) :: lines => do
    let parser ← parser.feed p line number
    parser.feedAll p lines

def read (p : Placeholder) (lines : List (List Char)) : Traced Fault (List Route) := do
  let parser ← start.feedAll p (lines.zipIdx 2)
  let parser ← parser.close p (lines.length + 1)
  return parser.routes

structure Coherent (parser : Parser) : Prop where
  header : parser.path = "" ↔ parser.method = ""
  idle : parser.path = "" → parser.queries = [] ∧ parser.parts = []
  /-- The last query is the one whose parts are pending. -/
  pending : parser.parts ≠ [] → ∃ earlier name, parser.queries = earlier ++ [(name, "")]
  seen : parser.seen = parser.routes.map fun route => (route.method, route.pattern)

def draft (parser : Parser) : Draft :=
  ⟨parser.method, parser.path, parser.pathLine, parser.queries, parser.parts⟩

def state (parser : Parser) : State :=
  ⟨parser.routes, if parser.path = "" then none else some parser.draft⟩

/-- A run of the parser logs what a run over states logs, and ends alike: in coherent variables for
the state, or at the same defect. -/
inductive Follows : Traced Fault Parser → Traced Defect State → Prop
  | ok {records : List Record} {after : Parser} (coherent : Coherent after) :
    Follows ⟨records, .ok after⟩ ⟨records, .ok after.state⟩
  | stop {records : List Record} {found : Defect} :
    Follows ⟨records, .error (.defect found)⟩ ⟨records, .error found⟩

section Following

variable {x : Traced Fault Parser} {y : Traced Defect State}

theorem Follows.eq (follows : Follows x y) : state <$> x = y.mapError .defect := by
  cases follows with
  | ok coherent => exact congrArg (Traced.mk · _) (List.append_nil _)
  | stop => rfl

theorem Follows.routes_eq (follows : Follows x y) :
    (x >>= fun parser => pure parser.routes) =
      (y >>= fun state => pure state.routes).mapError .defect := by
  cases follows with
  | ok coherent => rfl
  | stop => rfl

theorem Follows.throws (follows : Follows x y) : Throws x.outcome (· ≠ .noQuery) := by
  cases follows with
  | ok coherent => exact throws_ok _
  | stop => exact throws_error.2 (by simp)

theorem Follows.of_ok {after : Parser} (follows : Follows x y) (ran : x.outcome = .ok after) :
    Coherent after ∧ y.outcome = .ok after.state := by
  cases follows with
  | ok coherent =>
    cases ran
    exact ⟨coherent, rfl⟩
  | stop => cases ran

theorem Follows.bind (first : Follows x y) {f : Parser → Traced Fault Parser}
    {g : State → Traced Defect State}
    (second : ∀ after, Coherent after → Follows (f after) (g after.state)) :
    Follows (x >>= f) (y >>= g) := by
  cases first with
  | @ok records after coherent =>
    have later := second after coherent
    rw [Traced.bind_of_ok f rfl, Traced.bind_of_ok g rfl]
    generalize f after = x at later
    generalize g after.state = y at later
    cases later with
    | ok coherent => exact .ok coherent
    | stop => exact .stop
  | stop => exact .stop

end Following

section Steps

variable {parser : Parser} (p : Placeholder)

theorem coherent_start : Coherent start := by
  constructor <;> simp [start]

theorem state_idle (idle : parser.path = "") : parser.state = ⟨parser.routes, none⟩ := by
  simp [state, idle]

theorem state_open (opened : parser.path ≠ "") :
    parser.state = ⟨parser.routes, some parser.draft⟩ := by
  simp [state, opened]

theorem follows_idle (coherent : Coherent parser) (idle : parser.path = "")
    (records : List Record) :
    Follows ⟨records, .ok parser⟩ ⟨records, .ok ⟨parser.routes, none⟩⟩ := by
  rw [← state_idle idle]
  exact .ok coherent

theorem follows_open (coherent : Coherent parser) (opened : parser.path ≠ "") :
    Follows (pure parser) (pure ⟨parser.routes, some parser.draft⟩) := by
  rw [← state_open opened]
  exact .ok coherent

theorem Coherent.at_line (coherent : Coherent parser) (number : Nat) :
    Coherent { parser with line := number } :=
  ⟨coherent.header, coherent.idle, coherent.pending, coherent.seen⟩

theorem Coherent.flush_eq (coherent : Coherent parser) :
    parser.flush = pure { parser with queries := parser.draft.flush.queries, parts := [] } := by
  unfold flush
  split
  · next empty =>
    have nothing : parser.parts = [] := List.isEmpty_iff.1 empty
    have same : parser.draft.flush.queries = parser.queries := by
      simp [Draft.flush, draft, nothing]
    rw [same, ← nothing]
  · next filled =>
    have pending : parser.parts ≠ [] := by simpa using filled
    obtain ⟨earlier, name, queries⟩ := coherent.pending pending
    have flushed : parser.draft.flush.queries = earlier ++ [(name, joinParts parser.parts)] :=
      Draft.flush_pending queries pending
    rw [flushed, queries]
    simp

theorem Coherent.collect_eq (coherent : Coherent parser) :
    parser.collect p =
      (Route.register p parser.routes parser.method parser.path parser.queries
        (some parser.pathLine)).mapError .defect >>= fun routes =>
          pure { parser with
            routes := routes
            seen := routes.map fun route => (route.method, route.pattern) } := by
  have present : parser.seen.contains (parser.method, parser.path) =
      parser.routes.any fun route =>
        route.method = parser.method && route.pattern = parser.path := by
    rw [Bool.eq_iff_iff, coherent.seen]
    simp
  unfold collect Route.register
  rw [present]
  split
  · rfl
  split
  · rfl
  · let added : Route := ⟨parser.path, parser.method, compiled p parser.queries⟩
    have keys : (parser.routes ++ [added]).map (fun route => (route.method, route.pattern)) =
        parser.seen ++ [(parser.method, parser.path)] := by
      rw [List.map_append, coherent.seen]
      rfl
    rw [Traced.bind_pure_eq, compileAll_eq, compileAll_eq, ← keys]
    rfl

theorem Coherent.register_follows (coherent : Coherent parser) (opened : parser.path ≠ "") :
    Follows (parser.register p) (parser.state.finish p) := by
  let flushed : Parser := { parser with queries := parser.draft.flush.queries, parts := [] }
  have ready : Coherent flushed := ⟨coherent.header, fun idle => absurd idle opened,
    fun pending => absurd rfl pending, coherent.seen⟩
  have method : parser.draft.flush.method = parser.method := parser.draft.flush_header.1
  have path : parser.draft.flush.pattern = parser.path := parser.draft.flush_header.2
  have line : parser.draft.flush.line = parser.pathLine := parser.draft.flush_line
  have first : parser.flush = ⟨[], .ok flushed⟩ := coherent.flush_eq
  rw [state_open opened, finish_open, method, path, line, register, Traced.bind_of_silent _ first,
    ready.collect_eq, Traced.bind_pure_eq, Traced.bind_pure_eq, Traced.bind_pure_eq]
  dsimp only [flushed, Traced.mapError]
  generalize Route.register p parser.routes parser.method parser.path parser.draft.flush.queries
    (some parser.pathLine) = x
  cases x.outcome with
  | error e => exact .stop
  | ok routes =>
    let closed : Parser := { flushed with
      routes := routes
      seen := routes.map fun route => (route.method, route.pattern)
      path := ""
      method := ""
      queries := [] }
    have forgotten : Coherent closed := ⟨by simp [closed], by simp [closed, flushed],
      fun pending => absurd rfl pending, rfl⟩
    exact follows_idle forgotten rfl x.records

theorem Coherent.finish_follows (coherent : Coherent parser) :
    Follows (parser.finish p) (parser.state.finish p) := by
  unfold finish
  split
  · next opened => exact coherent.register_follows p opened
  · next closed =>
    have idle : parser.path = "" := by simpa using closed
    rw [state_idle idle]
    exact follows_idle coherent idle []

theorem Coherent.startRoute_follows (coherent : Coherent parser) {line : List Char}
    {words : List (List Char)} (shape : Line.ofText line = .path words) :
    Follows (parser.startRoute words) (parser.state.feed p parser.line line) := by
  have filled : ∀ word ∈ words, word ≠ [] := by
    cases shape_of_ofText shape with
    | path _ _ _ same =>
      intro word member
      exact Text.ne_nil_of_mem_words (same ▸ member)
  unfold startRoute State.feed
  rw [shape]
  split
  · next opened =>
    rw [state_open opened]
    exact .stop
  next closed =>
  have idle : parser.path = "" := by simpa using closed
  obtain ⟨queries, parts⟩ := coherent.idle idle
  rw [state_idle idle]
  rcases words with _ | ⟨method, _ | ⟨path, _ | ⟨other, words⟩⟩⟩
  · exact .stop
  · exact .stop
  · let started : Parser := { parser with
      method := .ofList method
      path := .ofList path
      pathLine := parser.line }
    have named : started.method ≠ "" := by simpa [started] using filled method (by simp)
    have opened : started.path ≠ "" := by simpa [started] using filled path (by simp)
    have whole : Coherent started := ⟨by simp [named, opened], fun idle => absurd idle opened,
      fun pending => absurd parts pending, coherent.seen⟩
    have ended := follows_open whole opened
    rw [draft, queries, parts] at ended
    exact ended
  · exact .stop

theorem Coherent.startQuery_follows (coherent : Coherent parser) {line : List Char}
    {cut : Option (List Char × List Char)} (shape : Line.ofText line = .query cut) :
    Follows (parser.startQuery cut) (parser.state.feed p parser.line line) := by
  unfold startQuery State.feed
  rw [shape]
  split
  · next idle =>
    rw [state_idle idle]
    exact .stop
  next opened =>
  rw [state_open opened, coherent.flush_eq]
  cases cut with
  | none => exact .stop
  | some cut =>
    let started : Parser := { parser with
      queries := parser.draft.flush.queries ++ [(.ofList (Text.strip cut.1), "")]
      parts := [Text.strip cut.2] }
    have whole : Coherent started := ⟨coherent.header, fun idle => absurd idle opened,
      fun _ => ⟨_, _, rfl⟩, coherent.seen⟩
    have same : started.draft = parser.draft.flush.begin cut.1 cut.2 := by
      simp only [Draft.begin, parser.draft.flush_header, parser.draft.flush_line]
      rfl
    have ended := follows_open whole opened
    rw [same] at ended
    exact ended

theorem Coherent.continueQuery_follows (coherent : Coherent parser) {line text : List Char}
    (shape : Line.ofText line = .continuation text) :
    Follows (parser.continueQuery text) (parser.state.feed p parser.line line) := by
  unfold continueQuery State.feed
  rw [shape]
  by_cases idle : parser.path = ""
  · rw [state_idle idle, (coherent.idle idle).2]
    exact .stop
  rw [state_open idle]
  change Follows _ (if parser.parts.isEmpty then _ else _)
  split
  · exact .stop
  · next filled =>
    have pending : parser.parts ≠ [] := by simpa using filled
    let longer : Parser := { parser with parts := parser.parts ++ [text] }
    have whole : Coherent longer := ⟨coherent.header, fun empty => absurd empty idle,
      fun _ => coherent.pending pending, coherent.seen⟩
    exact follows_open whole idle

theorem Coherent.feed_follows (coherent : Coherent parser) (line : List Char) (number : Nat) :
    Follows (parser.feed p line number) (parser.state.feed p number line) := by
  -- What the state refuses for want of a draft is refused for the path, which is empty then, or for
  -- the parts, which are empty with it.
  have numbered := coherent.at_line number
  unfold feed
  cases shape : Line.ofText line with
  | blank =>
    have ends : parser.state.feed p number line = parser.state.finish p := by
      simp [State.feed, shape]
    rw [ends]
    exact numbered.finish_follows p
  | path words => exact numbered.startRoute_follows p shape
  | query cut => exact numbered.startQuery_follows p shape
  | continuation text => exact numbered.continueQuery_follows p shape

end Steps

section Runs

variable {parser : Parser} (p : Placeholder)

/-- Whatever the lines and their numbers, the last query is there when it is looked up. -/
theorem Coherent.throws_feedAll (coherent : Coherent parser) (lines : List (List Char × Nat)) :
    Throws (parser.feedAll p lines).outcome (· ≠ .noQuery) := by
  induction lines generalizing parser with
  | nil => exact throws_ok _
  | cons line lines ih =>
    have first := coherent.feed_follows p line.1 line.2
    rw [feedAll, Traced.outcome_bind]
    apply first.throws.bind
    intro after fed
    exact ih (first.of_ok fed).1

theorem Coherent.feedAll_follows (coherent : Coherent parser) (number : Nat)
    (lines : List (List Char)) :
    Follows (parser.feedAll p (lines.zipIdx number)) (parser.state.feedAll p number lines) := by
  induction lines generalizing parser number with
  | nil => exact .ok coherent
  | cons line lines ih =>
    apply (coherent.feed_follows p line number).bind
    intro after fits
    exact ih fits (number + 1)

theorem Coherent.close_follows (coherent : Coherent parser) (number : Nat) :
    Follows (parser.close p number) (parser.state.finish p) :=
  (coherent.at_line number).finish_follows p

/-- The variables read what the states read. -/
theorem read_eq (lines : List (List Char)) :
    read p lines = (Conf.routes p lines).mapError .defect := by
  have followed := (coherent_start.feedAll_follows p 2 lines).bind fun after fits =>
    fits.close_follows p (lines.length + 1)
  calc read p lines
      = (start.feedAll p (lines.zipIdx 2) >>= fun parser => parser.close p (lines.length + 1)) >>=
          fun parser => pure parser.routes := (Traced.bind_assoc _ _ _).symm
    _ = ((State.start.feedAll p 2 lines >>= State.finish p) >>= fun state =>
          pure state.routes).mapError .defect := followed.routes_eq
    _ = (Conf.routes p lines).mapError .defect := by
      rw [Traced.bind_assoc]
      rfl

end Runs

end Parser

end SqlRoutes.Route.Conf
