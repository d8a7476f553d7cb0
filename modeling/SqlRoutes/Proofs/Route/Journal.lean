import SqlRoutes.Proofs.Driver.Resolution
import SqlRoutes.Proofs.Route.Reading

/-!
What loading leaves in the log. Whatever the format, a configuration opens with a driver, and then
there are items, each of which is to be a route. The log says of every route that was added what
it compiled and then the route, in order, and nothing of an item that was refused or of what comes
after it.
-/
namespace SqlRoutes.Route

open Log
open Conf (compiled Joins Fresh)

def logged (route : Route) : List Record := route.queries.map Query.record ++ [route.record]

section Registering

variable {p : Placeholder} {routes : List Route} {method pattern : String}
variable {queries : List (String × String)}

theorem compileAll_eq {ε : Type} (p : Placeholder) (queries : List (String × String)) :
    (compileAll p queries : Traced ε (List Query)) =
      ⟨(compiled p queries).map Query.record, .ok (compiled p queries)⟩ := by
  induction queries with
  | nil => rfl
  | cons query queries ih =>
    have first : (Query.compile query.2 p query.1 : Traced ε Query) =
        ⟨[(Query.ofSql query.2 p query.1).record], .ok (.ofSql query.2 p query.1)⟩ := rfl
    rw [compileAll, Traced.bind_of_ok _ first, Traced.bind_of_ok _ ih]
    simp [compiled, Pure.pure, Traced.pure]

theorem register_of_joins (joins : Joins routes ⟨pattern, method, compiled p queries⟩)
    (line : Option Nat) : register p routes method pattern queries line =
      ⟨logged ⟨pattern, method, compiled p queries⟩,
        .ok (routes ++ [⟨pattern, method, compiled p queries⟩])⟩ := by
  have known : methods.contains method = true := List.contains_iff_mem.2 joins.1
  have absent : (routes.any fun route => route.method = method && route.pattern = pattern) =
      false := by
    simpa using joins.2
  unfold register
  rw [known, absent, compileAll_eq]
  rfl

theorem register_of_not_joins (refused : ¬Joins routes ⟨pattern, method, compiled p queries⟩)
    (line : Option Nat) :
    ∃ e, register p routes method pattern queries line = ⟨[], .error e⟩ := by
  unfold register
  split
  · exact ⟨_, rfl⟩
  next known =>
  split
  · exact ⟨_, rfl⟩
  next absent =>
  have joins : Joins routes ⟨pattern, method, compiled p queries⟩ :=
    ⟨by simpa using known, by simpa using absent⟩
  exact absurd joins refused

end Registering

section Items

variable {α ε : Type}

/-- Items are taken one after the other. One that is a route which can be added is logged; any other
one ends it with an error, before anything is logged of it. -/
inductive Enrolls (isRoute : α → Route → Prop) :
    List Route → List α → Traced ε (List Route) → Prop
  | done (routes : List Route) : Enrolls isRoute routes [] ⟨[], .ok routes⟩
  | stop {routes : List Route} {item : α} {items : List α} (e : ε)
      (refused : ∀ route, isRoute item route → ¬Joins routes route) :
      Enrolls isRoute routes (item :: items) ⟨[], .error e⟩
  | next {routes : List Route} {item : α} {items : List α} {route : Route}
      {x : Traced ε (List Route)} (described : isRoute item route) (joins : Joins routes route)
      (later : Enrolls isRoute (routes ++ [route]) items x) :
      Enrolls isRoute routes (item :: items) ⟨logged route ++ x.records, x.outcome⟩

/-- The items in front are the routes that are added, and the first one `left` is refused. -/
structure Taken (isRoute : α → Route → Prop) (routes : List Route) (items : List α)
    (added : List Route) (left : List α) : Prop where
  front : ∃ done, items = done ++ left ∧ List.Forall₂ isRoute done added
  fresh : Fresh routes added
  stop : ∀ item ∈ left.head?, ∀ route, isRoute item route → ¬Joins (routes ++ added) route

variable {isRoute : α → Route → Prop} {routes added : List Route} {item : α} {items left : List α}

theorem taken_nil (routes : List Route) : Taken isRoute routes [] [] [] where
  front := ⟨[], rfl, .nil⟩
  fresh := trivial
  stop := by simp

theorem taken_refused (refused : ∀ route, isRoute item route → ¬Joins routes route) :
    Taken isRoute routes (item :: items) [] (item :: items) where
  front := ⟨[], rfl, .nil⟩
  fresh := trivial
  stop := by simpa using refused

theorem Taken.cons {route : Route} (described : isRoute item route) (joins : Joins routes route)
    (later : Taken isRoute (routes ++ [route]) items added left) :
    Taken isRoute routes (item :: items) (route :: added) left where
  front := by
    obtain ⟨done, whole, each⟩ := later.front
    exact ⟨item :: done, congrArg (item :: ·) whole, .cons described each⟩
  fresh := ⟨joins, later.fresh⟩
  stop := by simpa using later.stop

theorem Enrolls.taken {x : Traced ε (List Route)} (enrolls : Enrolls isRoute routes items x) :
    ∃ added left, Taken isRoute routes items added left ∧ x.records = added.flatMap logged ∧
      (left = [] → x.outcome = .ok (routes ++ added)) ∧
      (left ≠ [] → ∃ e, x.outcome = .error e) := by
  induction enrolls with
  | done routes =>
    refine ⟨[], [], taken_nil routes, rfl, ?_, ?_⟩
    · simp
    · intro more
      exact absurd rfl more
  | stop e refused =>
    refine ⟨[], _, taken_refused refused, rfl, ?_, ?_⟩
    · intro finished
      cases finished
    · intro _
      exact ⟨e, rfl⟩
  | next described joins later ih =>
    obtain ⟨added, left, taken, records, ended, stopped⟩ := ih
    refine ⟨_, left, taken.cons described joins, ?_, ?_, stopped⟩
    · rw [records, List.flatMap_cons]
    · intro finished
      rw [ended finished, List.append_assoc]
      rfl

end Items

namespace Conf

def RunIs (p : Placeholder) (run : List (List Char)) (route : Route) : Prop :=
  Formed run ∧ route = routeOf p run

variable {p : Placeholder} {state : State} {routes : List Route} {draft : Draft}
variable {number : Nat} {line : List Char} {lines : List (List Char)}

theorem feed_of_filled (p : Placeholder) (state : State) (number : Nat)
    (filled : isBlankLine line = false) :
    state.feed p number line = ⟨[], (state.feed p number line).outcome⟩ := by
  have other : Line.ofText line ≠ .blank := by
    intro same
    rw [blank_iff.1 same] at filled
    cases filled
  unfold State.feed
  split
  · next same => exact absurd same other
  · rfl
  · rfl
  · rfl
  · rfl
  · rfl
  · rfl
  · rfl
  · split <;> rfl

theorem feed_of_blank (blank : isBlankLine line = true) :
    state.feed p number line = state.finish p := by
  simp [State.feed, ofText_of_blank blank]

theorem feed_of_not_starts (p : Placeholder) (routes : List Route) (number : Nat)
    (filled : isBlankLine line = false)
    (other : ¬(isIndented line = false ∧ startsWithMethod line = true ∧
      (Text.words line).length = 2)) :
    ∃ e, State.feed p ⟨routes, none⟩ number line = ⟨[], .error e⟩ := by
  have silent := feed_of_filled p ⟨routes, none⟩ number filled
  cases ended : (State.feed p ⟨routes, none⟩ number line).outcome with
  | error e => exact ⟨e, by rw [silent, ended]⟩
  | ok after =>
    cases fed_of_ok ended with
    | blank shape =>
      rw [blank_iff.1 shape] at filled
      cases filled
    | ended shape opened => cases opened
    | path number shape =>
      cases shape_of_ofText shape with
      | path filled unindented starts same =>
        exact absurd ⟨unindented, starts, by rw [same]; rfl⟩ other
    | query shape opened => cases opened
    | continuation shape opened => cases opened

theorem finish_open (p : Placeholder) (routes : List Route) (draft : Draft) :
    State.finish p ⟨routes, some draft⟩ =
      register p routes draft.flush.method draft.flush.pattern draft.flush.queries
        (some draft.flush.line) >>= fun routes => pure ⟨routes, none⟩ := rfl

theorem finish_of_joins (joins : Joins routes (draft.route p [])) :
    State.finish p ⟨routes, some draft⟩ =
      ⟨logged (draft.route p []), .ok ⟨routes ++ [draft.route p []], none⟩⟩ := by
  rw [draft.route_nil p] at joins ⊢
  have registered := register_of_joins joins (some draft.flush.line)
  rw [finish_open, Traced.bind_of_ok _ registered]
  exact congrArg (Traced.mk · _) (List.append_nil _)

theorem finish_of_not_joins (refused : ¬Joins routes (draft.route p [])) :
    ∃ e, State.finish p ⟨routes, some draft⟩ = ⟨[], .error e⟩ := by
  rw [draft.route_nil p] at refused
  obtain ⟨e, failed⟩ := register_of_not_joins refused (some draft.flush.line)
  exact ⟨e, by rw [finish_open, Traced.bind_of_error _ failed]⟩

theorem resume_cons_eq (p : Placeholder) (state : State) (number : Nat) (line : List Char)
    (lines : List (List Char)) : resume p state number (line :: lines) =
      state.feed p number line >>= fun middle => resume p middle (number + 1) lines := by
  rw [resume, State.feedAll, Traced.bind_assoc]
  rfl

theorem resume_nil_eq (p : Placeholder) (state : State) (number : Nat) :
    resume p state number [] = state.finish p >>= fun last => pure last.routes := by
  rw [resume, State.feedAll]
  exact Traced.bind_of_silent _ rfl

/-- How reading goes on while a route is open: at the end of its lines it is logged and added, or
it is refused. -/
structure Ends (p : Placeholder) (routes : List Route) (draft : Draft) (body : List (List Char))
    (others : List (List (List Char))) (x : Traced Defect (List Route)) : Prop where
  added : Continues (draft.parts ≠ []) body → Joins routes (draft.route p body) →
    ∃ later, Enrolls (RunIs p) (routes ++ [draft.route p body]) others later ∧
      x = ⟨logged (draft.route p body) ++ later.records, later.outcome⟩
  refused : ¬(Continues (draft.parts ≠ []) body ∧ Joins routes (draft.route p body)) →
    ∃ e, x = ⟨[], .error e⟩

theorem ends_of_finish {others : List (List (List Char))} {x : Traced Defect (List Route)}
    {rest : State → Traced Defect (List Route)}
    (whole : x = State.finish p ⟨routes, some draft⟩ >>= rest)
    (later : Enrolls (RunIs p) (routes ++ [draft.route p []]) others
      (rest ⟨routes ++ [draft.route p []], none⟩)) : Ends p routes draft [] others x where
  added := by
    intro _ joins
    exact ⟨_, later, by rw [whole, Traced.bind_of_ok _ (finish_of_joins joins)]⟩
  refused := by
    intro stops
    have refused : ¬Joins routes (draft.route p []) := fun joins => stops ⟨trivial, joins⟩
    obtain ⟨e, failed⟩ := finish_of_not_joins refused
    exact ⟨e, by rw [whole, Traced.bind_of_error _ failed]⟩

section Filled

variable {next : List (List Char)} {others : List (List (List Char))}

theorem resume_of_fed {middle : State} (filled : isBlankLine line = false)
    (fed : (state.feed p number line).outcome = .ok middle) (lines : List (List Char)) :
    resume p state number (line :: lines) = resume p middle (number + 1) lines := by
  have silent := feed_of_filled p state number filled
  rw [fed] at silent
  rw [resume_cons_eq, Traced.bind_of_silent _ silent]

theorem resume_of_unfed {e : Defect} (filled : isBlankLine line = false)
    (unfed : (state.feed p number line).outcome = .error e) (lines : List (List Char)) :
    resume p state number (line :: lines) = ⟨[], .error e⟩ := by
  have silent := feed_of_filled p state number filled
  rw [unfed] at silent
  rw [resume_cons_eq, Traced.bind_of_error _ silent]

theorem ends_filled (filled : isBlankLine line = false)
    (later : ∀ draft, Ends p routes draft next others
      (resume p ⟨routes, some draft⟩ (number + 1) lines)) (draft : Draft) :
    Ends p routes draft (line :: next) others
      (resume p ⟨routes, some draft⟩ number (line :: lines)) := by
  by_cases goes : isQueryLine line = true ∨ isIndented line = true ∧ draft.parts ≠ []
  · obtain ⟨after, fed, pending, same⟩ :
        ∃ after : Draft,
          (State.feed p ⟨routes, some draft⟩ number line).outcome = .ok ⟨routes, some after⟩ ∧
          after.parts ≠ [] ∧ ∀ body, after.route p body = draft.route p (line :: body) :=
      feed_of_continues filled goes
    have rest : Continues (after.parts ≠ []) next = Continues True next := by simp [pending]
    have ends := later after
    rw [resume_of_fed filled fed lines]
    constructor
    · intro continues joins
      rw [← same next] at joins ⊢
      exact ends.added (rest ▸ continues.2) joins
    · intro stops
      apply ends.refused
      intro both
      exact stops ⟨⟨goes, rest ▸ both.1⟩, same next ▸ both.2⟩
  · obtain ⟨e, unfed⟩ :
        ∃ e, (State.feed p ⟨routes, some draft⟩ number line).outcome = .error e :=
      feed_of_not_continues filled goes
    constructor
    · intro continues
      exact absurd continues.1 goes
    · intro _
      exact ⟨e, resume_of_unfed filled unfed lines⟩

theorem enrolls_filled (filled : isBlankLine line = false)
    (solid : ∀ other ∈ next, isBlankLine other = false)
    (later : ∀ draft, Ends p routes draft next others
      (resume p ⟨routes, some draft⟩ (number + 1) lines)) :
    Enrolls (RunIs p) routes ((line :: next) :: others)
      (resume p ⟨routes, none⟩ number (line :: lines)) := by
  by_cases starts : isIndented line = false ∧ startsWithMethod line = true ∧
      (Text.words line).length = 2
  · obtain ⟨unindented, begins, two⟩ := starts
    have fed : (State.feed p ⟨routes, none⟩ number line).outcome =
        .ok ⟨routes, some ⟨(header [line]).1, (header [line]).2, number, [], []⟩⟩ :=
      feed_start filled unindented begins two
    have ends := later ⟨(header [line]).1, (header [line]).2, number, [], []⟩
    have route := route_start p number line solid
    rw [resume_of_fed filled fed lines]
    by_cases taken : Formed (line :: next) ∧ Joins routes (routeOf p (line :: next))
    · have continues := (formed_cons_iff.1 taken.1).2.2.2
      obtain ⟨x, enrolls, same⟩ := ends.added (by simpa using continues) (route ▸ taken.2)
      rw [same, route]
      exact .next ⟨taken.1, rfl⟩ taken.2 (route ▸ enrolls)
    · obtain ⟨e, same⟩ := ends.refused (by
        intro both
        have continues : Continues False next := by simpa using both.1
        exact taken ⟨formed_cons_iff.2 ⟨unindented, begins, two, continues⟩, route ▸ both.2⟩)
      rw [same]
      apply Enrolls.stop
      intro _ described joins
      exact taken ⟨described.1, described.2 ▸ joins⟩
  · obtain ⟨e, failed⟩ := feed_of_not_starts p routes number filled starts
    rw [resume_cons_eq, Traced.bind_of_error _ failed]
    apply Enrolls.stop
    intro _ described
    have parts := formed_cons_iff.1 described.1
    exact absurd ⟨parts.1, parts.2.1, parts.2.2.1⟩ starts

end Filled

/-- The lines are taken run by run. The induction is on the lines, and an open route goes on with
the first run of what is left. -/
theorem enrolls_runs (p : Placeholder) (lines : List (List Char)) :
    ∀ number routes body others, lines.splitOnP isBlankLine = body :: others →
      Enrolls (RunIs p) routes ((body :: others).filter fun run => !run.isEmpty)
        (resume p ⟨routes, none⟩ number lines) ∧
      ∀ draft : Draft, Ends p routes draft body (others.filter fun run => !run.isEmpty)
        (resume p ⟨routes, some draft⟩ number lines) := by
  induction lines with
  | nil =>
    intro number routes body others split
    obtain ⟨rfl, rfl⟩ : [] = body ∧ [] = others := by simpa using split
    constructor
    · exact .done routes
    · intro draft
      exact ends_of_finish (resume_nil_eq p _ number) (.done _)
  | cons line lines ih =>
    intro number routes body others split
    obtain ⟨next, later, rest⟩ :=
      List.exists_cons_of_ne_nil (List.splitOnP_ne_nil isBlankLine lines)
    cases blank : isBlankLine line with
    | true =>
      rw [splitOnP_blank blank, rest] at split
      obtain ⟨rfl, rfl⟩ := List.cons.inj split
      constructor
      · rw [resume_cons_eq, feed_of_blank blank]
        exact (ih (number + 1) routes next later rest).1
      · intro draft
        apply ends_of_finish (by rw [resume_cons_eq, feed_of_blank blank])
        exact (ih (number + 1) _ next later rest).1
    | false =>
      rw [splitOnP_filled blank rest] at split
      obtain ⟨rfl, rfl⟩ := List.cons.inj split
      have solid := isBlankLine_of_mem_run (rest ▸ List.mem_cons_self : next ∈ _)
      have opened := (ih (number + 1) routes next later rest).2
      exact ⟨enrolls_filled blank solid opened, ends_filled blank opened⟩

theorem routes_enrolls (p : Placeholder) (lines : List (List Char)) :
    Enrolls (RunIs p) [] (runs lines) (Conf.routes p lines) := by
  obtain ⟨body, others, split⟩ :=
    List.exists_cons_of_ne_nil (List.splitOnP_ne_nil isBlankLine lines)
  have whole := (enrolls_runs p lines 2 [] body others split).1
  rw [← split] at whole
  exact whole

end Conf

namespace Document

def described (document : Graph) (source : String) (place : Option Place) :
    Except LoadError Page :=
  match document.cellAt place with
  | .map entries => do
    let pattern ← textOrEmpty document (document.field? entries "pattern")
    if pattern = "" then .error (.defect source ⟨.patternEmpty, none⟩)
    else do
      let method ← textOrEmpty document (document.field? entries "method")
      let queries ← queries document source pattern (document.field? entries "queries")
      return ⟨method, pattern, queries⟩
  | _ => .error (.defect source ⟨.pageNotMapping, none⟩)

def PageIs (p : Placeholder) (found : Except LoadError Page) (route : Route) : Prop :=
  ∃ page, found = .ok page ∧ route = page.route p

theorem page_eq (document : Graph) (source : String) (p : Placeholder) (routes : List Route)
    (place : Option Place) : page document source p routes place =
      .ofExcept (described document source place) >>= fun page =>
        (register p routes page.method page.pattern page.queries none).mapError
          (.defect source) := by
  unfold page described
  generalize document.cellAt place = cell
  cases cell with
  | map entries =>
    simp only [Traced.ofExcept_bind, Traced.bind_assoc]
    apply congrArg (Traced.ofExcept _ >>= ·)
    funext pattern
    split
    · rfl
    · simp only [Traced.ofExcept_bind, Traced.bind_assoc]
      rfl
  | _ => rfl

theorem pages_enrolls (document : Graph) (source : String) (p : Placeholder)
    (places : List (Option Place)) (routes : List Route) :
    Enrolls (PageIs p) routes (places.map (described document source))
      (pages document source p routes places) := by
  induction places generalizing routes with
  | nil => exact .done routes
  | cons place places ih =>
    rw [List.map_cons, pages, page_eq]
    cases found : described document source place with
    | error e =>
      apply Enrolls.stop
      intro route same
      obtain ⟨page, known, -⟩ := same
      cases known
    | ok page =>
      have read : (.ofExcept (.ok page) : Traced LoadError Page) = ⟨[], .ok page⟩ := rfl
      rw [Traced.bind_of_silent _ read]
      by_cases joins : Joins routes (page.route p)
      · have registered :
            (register p routes page.method page.pattern page.queries none).mapError
              (LoadError.defect source) =
                ⟨logged (page.route p), .ok (routes ++ [page.route p])⟩ := by
          rw [register_of_joins joins none]
          rfl
        rw [Traced.bind_of_ok _ registered]
        exact .next ⟨page, rfl, rfl⟩ joins (ih _)
      · obtain ⟨e, failed⟩ := register_of_not_joins joins none
        have refused : (register p routes page.method page.pattern page.queries none).mapError
            (LoadError.defect source) = ⟨[], .error (.defect source e)⟩ := by
          rw [failed]
          rfl
        rw [Traced.bind_of_error _ refused]
        apply Enrolls.stop
        intro route same
        obtain ⟨other, known, rfl⟩ := same
        cases known
        exact joins

end Document

/-- What loading starts with: a driver, its options, and what is to become the routes. -/
structure Preamble (α : Type) where
  driver : String
  options : String
  items : List α

def Conf.preamble (source : String) (text : List Char) :
    Except LoadError (Preamble (List (List Char))) :=
  match Text.splitLines text with
  | [] => .error (.defect source ⟨.driverLineMissing, some 1⟩)
  | first :: rest =>
    if isBlankLine first then .error (.defect source ⟨.driverLineMissing, some 1⟩)
    else .ok ⟨driverOf first, optionsOf first, runs rest⟩

def Document.preambleOf (source : String) (document : Graph) :
    Except LoadError (Preamble (Except LoadError Page)) :=
  match document.rootCell with
  | .map entries => do
    let (driver, options) ← database document source entries
    let places ← pageList document source entries
    return ⟨driver, options, places.map (described document source)⟩
  | _ => .error (.defect source ⟨.notMapping, none⟩)

def Document.preamble (source : String) (text : List Char) :
    Except LoadError (Preamble (Except LoadError Page)) := do
  let document ← (Yaml.load text).mapError (yamlError source)
  preambleOf source document

inductive Warned (driver : String) : List Record → Prop
  | known (known : Driver.Known [] driver) : Warned driver []
  | unknown (unknown : ¬Driver.Known [] driver) :
    Warned driver [Driver.warning driver (Driver.suggestions [] driver)]

/-- How the log tells of loading. Nothing is logged unless there is a preamble and its driver is
taken. Then there are the warning, if the driver is not known, and the routes that are added. -/
structure Journal {α : Type} (strict : Bool) (preamble : Except LoadError (Preamble α))
    (isRoute : Placeholder → α → Route → Prop) (x : Traced LoadError RouteConfig) : Prop where
  unopened : ∀ e, preamble = .error e → x = ⟨[], .error e⟩
  rejected : ∀ found, preamble = .ok found → strict = true → ¬Driver.Known [] found.driver →
    x = ⟨[], .error (.unknownDriver ⟨found.driver, Driver.suggestions [] found.driver⟩)⟩
  taken : ∀ found, preamble = .ok found → strict = false ∨ Driver.Known [] found.driver →
    ∃ warnings binding added left, Warned found.driver warnings ∧
      (Binding.forDriver [] strict found.driver).outcome = .ok binding ∧
      Taken (isRoute binding.placeholder) [] found.items added left ∧
      (∀ level, x.recordsFrom level =
        (warnings ++ added.flatMap logged).filter fun record => level ≤ record.level) ∧
      (left = [] → x.outcome = .ok ⟨found.driver, found.options, binding, added⟩) ∧
      (left ≠ [] → ∃ e, x.outcome = .error e)

section Loading

variable {α : Type} {isRoute : α → Route → Prop}

theorem Enrolls.mapError {ε ε' : Type} {routes : List Route} {items : List α}
    {x : Traced ε (List Route)} (enrolls : Enrolls isRoute routes items x) (f : ε → ε') :
    Enrolls isRoute routes items (x.mapError f) := by
  induction enrolls with
  | done routes => exact .done routes
  | stop e refused => exact .stop (f e) refused
  | next described joins later ih => exact .next described joins ih

theorem forDriver_of_rejected {strict : Bool} {driver : String} (isStrict : strict = true)
    (unknown : ¬Driver.Known [] driver) : Binding.forDriver [] strict driver =
      ⟨[], .error ⟨driver, Driver.suggestions [] driver⟩⟩ := by
  rw [Binding.forDriver_eq, isStrict, Driver.resolve_strict_of_unknown unknown]
  rfl

theorem forDriver_of_taken {strict : Bool} {driver : String}
    (may : strict = false ∨ Driver.Known [] driver) : ∃ warnings binding,
      Warned driver warnings ∧ Binding.forDriver [] strict driver = ⟨warnings, .ok binding⟩ := by
  have bound := Binding.forDriver_eq [] strict driver
  by_cases known : Driver.Known [] driver
  · obtain ⟨convention, assigned⟩ := Driver.known_iff_assigned.1 known
    rw [Driver.resolve_of_assigned assigned strict] at bound
    exact ⟨_, _, .known known, bound⟩
  · have lenient : strict = false := may.resolve_right known
    rw [lenient] at bound ⊢
    rw [Driver.resolve_lenient_of_unknown known] at bound
    exact ⟨_, _, .unknown known, bound⟩

def proceed (strict : Bool) (driver options : String)
    (routes : Placeholder → Traced LoadError (List Route)) : Traced LoadError RouteConfig := do
  let binding ← (Binding.forDriver [] strict driver).mapError .unknownDriver
  let routes ← routes binding.placeholder
  return ⟨driver, options, binding, routes⟩

theorem journal_of_error {isRoute : Placeholder → α → Route → Prop} (strict : Bool)
    (e : LoadError) : Journal strict (.error e) isRoute ⟨[], .error e⟩ where
  unopened := by
    intro other same
    rw [Except.error.inj same]
  rejected := by
    intro found same
    cases same
  taken := by
    intro found same
    cases same

theorem journal_of_enrolls {isRoute : Placeholder → α → Route → Prop} (strict : Bool)
    (found : Preamble α) {routes : Placeholder → Traced LoadError (List Route)}
    (enrolls : ∀ p, Enrolls (isRoute p) [] found.items (routes p)) :
    Journal strict (.ok found) isRoute (proceed strict found.driver found.options routes) where
  unopened := by
    intro e same
    cases same
  rejected := by
    intro other same isStrict unknown
    cases same
    rw [proceed, forDriver_of_rejected isStrict unknown]
    rfl
  taken := by
    intro other same may
    cases same
    obtain ⟨warnings, binding, warned, bound⟩ := forDriver_of_taken may
    obtain ⟨added, left, taken, records, ended, stopped⟩ := (enrolls binding.placeholder).taken
    have first : (Binding.forDriver [] strict found.driver).mapError LoadError.unknownDriver =
        ⟨warnings, .ok binding⟩ := by
      rw [bound]
      rfl
    have whole : proceed strict found.driver found.options routes =
        ⟨warnings ++ (routes binding.placeholder).records, (routes binding.placeholder).outcome.map
          (⟨found.driver, found.options, binding, ·⟩)⟩ := by
      rw [proceed, Traced.bind_of_ok _ first, Traced.bind_pure_eq]
    rw [whole, bound]
    refine ⟨warnings, binding, added, left, warned, rfl, taken, ?_, ?_, ?_⟩
    · intro level
      rw [Traced.recordsFrom, records]
    · intro finished
      rw [ended finished, List.nil_append]
      rfl
    · intro more
      obtain ⟨e, failed⟩ := stopped more
      exact ⟨e, by rw [failed]; rfl⟩

theorem Conf.parse_eq_proceed {source : String} {strict : Bool} {text first : List Char}
    {rest : List (List Char)} (lines : Text.splitLines text = first :: rest)
    (filled : ¬Conf.isBlankLine first = true) : Conf.parse source strict text =
      proceed strict (Conf.driverOf first) (Conf.optionsOf first) fun p =>
        (Conf.routes p rest).mapError (.defect source) := by
  have named : ¬(Text.strip first).isEmpty = true := filled
  unfold Conf.parse Conf.parseLines
  simp only [lines, if_neg named, Conf.driverLine_eq]
  rfl

theorem Conf.parse_journal (source : String) (strict : Bool) (text : List Char) :
    Journal strict (Conf.preamble source text) Conf.RunIs (Conf.parse source strict text) := by
  unfold Conf.preamble
  cases lines : Text.splitLines text with
  | nil =>
    have failed : Conf.parse source strict text =
        ⟨[], .error (.defect source ⟨.driverLineMissing, some 1⟩)⟩ := by
      rw [Conf.parse, lines]
      rfl
    rw [failed]
    exact journal_of_error strict _
  | cons first rest =>
    dsimp only
    by_cases blank : Conf.isBlankLine first = true
    · have empty : (Text.strip first).isEmpty = true := blank
      have failed : Conf.parse source strict text =
          ⟨[], .error (.defect source ⟨.driverLineMissing, some 1⟩)⟩ := by
        rw [Conf.parse, lines, Conf.parseLines, if_pos empty]
        rfl
      rw [if_pos blank, failed]
      exact journal_of_error strict _
    · have enrolls : ∀ p, Enrolls (Conf.RunIs p) [] (Conf.runs rest)
          ((Conf.routes p rest).mapError (LoadError.defect source)) := by
        intro p
        exact (Conf.routes_enrolls p rest).mapError _
      rw [if_neg blank, Conf.parse_eq_proceed lines blank]
      exact journal_of_enrolls strict ⟨_, _, _⟩ enrolls

theorem Document.load_eq_proceed {document : Graph} {source driver options : String}
    {entries : List (Place × Place)} {places : List (Option Place)} (strict : Bool)
    (root : document.rootCell = .map entries)
    (named : Document.database document source entries = .ok (driver, options))
    (listed : Document.pageList document source entries = .ok places) :
    Document.load source strict document = proceed strict driver options fun p =>
      Document.pages document source p [] places := by
  have first : (.ofExcept (.ok (driver, options)) : Traced LoadError (String × String)) =
      ⟨[], .ok (driver, options)⟩ := rfl
  have second : (.ofExcept (.ok places) : Traced LoadError (List (Option Place))) =
      ⟨[], .ok places⟩ := rfl
  simp only [Document.load, root, named, listed]
  rw [Traced.bind_of_silent _ first, Traced.bind_of_silent _ second]
  rfl

theorem Document.load_journal (source : String) (strict : Bool) (document : Graph) :
    Journal strict (Document.preambleOf source document) Document.PageIs
      (Document.load source strict document) := by
  unfold Document.preambleOf
  cases root : document.rootCell with
  | map entries =>
    dsimp only
    cases named : Document.database document source entries with
    | error e =>
      have failed : Document.load source strict document = ⟨[], .error e⟩ := by
        simp only [Document.load, root, named]
        exact Traced.bind_of_error _ rfl
      rw [failed]
      exact journal_of_error strict e
    | ok pair =>
      cases listed : Document.pageList document source entries with
      | error e =>
        have first : (.ofExcept (.ok pair) : Traced LoadError (String × String)) =
            ⟨[], .ok pair⟩ := rfl
        have failed : Document.load source strict document = ⟨[], .error e⟩ := by
          simp only [Document.load, root, named, listed]
          rw [Traced.bind_of_silent _ first]
          exact Traced.bind_of_error _ rfl
        rw [failed]
        exact journal_of_error strict e
      | ok places =>
        have enrolls (p : Placeholder) := Document.pages_enrolls document source p places []
        rw [Document.load_eq_proceed strict root named listed]
        exact journal_of_enrolls strict ⟨pair.1, pair.2, _⟩ enrolls
  | _ =>
    have failed : Document.load source strict document =
        ⟨[], .error (.defect source ⟨.notMapping, none⟩)⟩ := by
      simp only [Document.load, root]
      rfl
    rw [failed]
    exact journal_of_error strict _

theorem parseYaml_journal (source : String) (strict : Bool) (text : List Char) :
    Journal strict (Document.preamble source text) Document.PageIs
      (parseYaml source strict text) := by
  unfold Document.preamble parseYaml
  cases (Yaml.load text).mapError (yamlError source) with
  | error e => exact journal_of_error strict e
  | ok document =>
    have read : (.ofExcept (.ok document) : Traced LoadError Graph) = ⟨[], .ok document⟩ := rfl
    rw [Traced.bind_of_silent _ read]
    exact Document.load_journal source strict document

end Loading

section Announcing

theorem Warned.filter_info {driver : String} {warnings : List Record}
    (warned : Warned driver warnings) : warnings.filter (·.level = Level.info) = [] := by
  cases warned with
  | known known => rfl
  | unknown unknown => rfl

theorem filter_info_logged (route : Route) :
    (logged route).filter (·.level = Level.info) = [route.record] := by
  have silent : (route.queries.map Query.record).filter (·.level = Level.info) = [] := by
    rw [List.filter_eq_nil_iff]
    intro record member
    obtain ⟨query, -, rfl⟩ := List.mem_map.1 member
    exact of_decide_eq_false rfl
  rw [logged, List.filter_append, silent]
  rfl

theorem filter_info_flatMap (added : List Route) :
    (added.flatMap logged).filter (·.level = Level.info) = added.map record := by
  induction added with
  | nil => rfl
  | cons route added ih =>
    rw [List.flatMap_cons, List.filter_append, filter_info_logged, ih]
    rfl

theorem Journal.announced {α : Type} {strict : Bool} {preamble : Except LoadError (Preamble α)}
    {isRoute : Placeholder → α → Route → Prop} {x : Traced LoadError RouteConfig}
    (journal : Journal strict preamble isRoute x) {config : RouteConfig}
    (loaded : x.outcome = .ok config) {level : Level} (low : level ≤ .info) :
    (x.recordsFrom level).filter (·.level = Level.info) = config.routes.map record := by
  cases opened : preamble with
  | error e =>
    rw [journal.unopened e opened] at loaded
    cases loaded
  | ok found =>
    by_cases may : strict = false ∨ Driver.Known [] found.driver
    · obtain ⟨warnings, binding, added, left, warned, -, -, records, ended, stopped⟩ :=
        journal.taken found opened may
      have whole : left = [] := by
        apply Classical.byContradiction
        intro more
        obtain ⟨e, failed⟩ := stopped more
        rw [failed] at loaded
        cases loaded
      rw [ended whole] at loaded
      obtain rfl := Except.ok.inj loaded
      have kept : (fun record : Record => decide (record.level = Level.info) &&
          decide (level ≤ record.level)) = fun record => decide (record.level = Level.info) := by
        funext record
        by_cases same : record.level = Level.info
        · simp [same, low]
        · simp [same]
      rw [records, List.filter_filter, kept, List.filter_append, warned.filter_info,
        filter_info_flatMap]
      rfl
    · rw [not_or, Bool.not_eq_false] at may
      rw [journal.rejected found opened may.1 may.2] at loaded
      cases loaded

end Announcing

/-- The log is a faithful trace of loading, in either format. Records are those of the driver and of
the routes that are added, each with its statements, up to the item that is refused if there is one.
The announcements among them are one to one with the routes of the configuration. -/
theorem loading_journal (source : String) (strict : Bool) (text : List Char) :
    Journal strict (Conf.preamble source text) Conf.RunIs (Conf.parse source strict text) ∧
    Journal strict (Document.preamble source text) Document.PageIs (parseYaml source strict text) ∧
    (∀ x ∈ [Conf.parse source strict text, parseYaml source strict text], ∀ config,
      x.outcome = .ok config → ∀ level ≤ Level.info,
        (x.recordsFrom level).filter (·.level = Level.info) = config.routes.map record) ∧
    (∀ driver names, (Driver.warning driver names).level = .warning) ∧
    (∀ query : Query, query.record.level = .debug) ∧
    ∀ route : Route, route.record.level = .info ∧ route.record.fields =
      some [(.text "method", .text route.method), (.text "pattern", .text route.pattern),
        (.text "queries", .list (route.queries.map fun query => .text query.name))] := by
  have lines := Conf.parse_journal source strict text
  have document := parseYaml_journal source strict text
  refine ⟨lines, document, ?_, fun _ _ => rfl, fun _ => rfl, fun _ => ⟨rfl, rfl⟩⟩
  intro x member config loaded level low
  cases member with
  | head => exact lines.announced loaded low
  | tail _ member =>
    obtain rfl := List.mem_singleton.1 member
    exact document.announced loaded low

theorem loading_journal_two_routes :
    (∃ config,
      (Conf.parse "a.conf" false "pgx\nGET /\nq: A\n\nPOST /".toList).outcome = .ok config ∧
      config.routes = [⟨"/", "GET", [.ofSql "A" ⟨.numbered, '$'⟩ "q"]⟩, ⟨"/", "POST", []⟩] ∧
      ((Conf.parse "a.conf" false "pgx\nGET /\nq: A\n\nPOST /".toList).recordsFrom
        .debug).filter (·.level = Level.info) = config.routes.map record) ∧
    (Conf.parse "a.conf" true "odd\nGET /".toList).records = [] := by
  constructor
  · have parsed : (Conf.parse "a.conf" false "pgx\nGET /\nq: A\n\nPOST /".toList).outcome =
        .ok ⟨"pgx", "", ⟨"pgx", .given ⟨.numbered, '$'⟩, false⟩,
          [⟨"/", "GET", [.ofSql "A" ⟨.numbered, '$'⟩ "q"]⟩, ⟨"/", "POST", []⟩]⟩ := by
      decide +kernel
    have announced := (loading_journal "a.conf" false
      "pgx\nGET /\nq: A\n\nPOST /".toList).2.2.1 _ (.head _) _ parsed .debug (by decide)
    exact ⟨_, parsed, rfl, announced⟩
  · have opened : Conf.preamble "a.conf" "odd\nGET /".toList =
        .ok ⟨"odd", "", ["GET /".toList] :: []⟩ := by
      cbv
    have unknown : ¬Driver.Known [] "odd" := Driver.known?_eq_none_iff.1 (by decide +kernel)
    have rejected := (loading_journal "a.conf" true "odd\nGET /".toList).1.rejected _ opened rfl
      unknown
    rw [rejected]

end SqlRoutes.Route
