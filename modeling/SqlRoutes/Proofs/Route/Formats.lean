import SqlRoutes.Proofs.Route.Outline
import SqlRoutes.Route.Source

/-!
The two formats agree. An outline that is written in lines and one that is found in a document lead
to the same configuration, or fail alike: both formats enroll the same routes one after the other.
-/
namespace SqlRoutes.Route

open Log

section Enrolling

/-- Adds routes one after the other, unless one with the method and pattern is there. -/
def enroll (routes : List Route) : List Route → Except Problem (List Route)
  | [] => .ok routes
  | route :: later =>
    if routes.any fun other => other.method = route.method && other.pattern = route.pattern then
      .error (.duplicateRoute route.method route.pattern)
    else enroll (routes ++ [route]) later

variable {p : Placeholder} {routes later : List Route}

theorem enroll_cons (routes : List Route) (route : Route) (later : List Route) :
    enroll routes (route :: later) = enroll routes [route] >>= fun next => enroll next later := by
  simp only [enroll]
  split <;> rfl

theorem register_eq_enroll {method : String} (known : method ∈ methods) (pattern : String)
    (queries : List (String × String)) (line : Option Nat) :
    (register p routes method pattern queries line).outcome =
      (enroll routes [⟨pattern, method, Conf.compiled p queries⟩]).mapError (⟨·, line⟩) := by
  simp only [register, List.contains_iff_mem.2 known, Bool.not_true, Bool.false_eq_true, ↓reduceIte,
    enroll]
  split
  · rfl
  · simp only [Traced.outcome_bind, Conf.outcome_compileAll]
    rfl

theorem enroll_cases (routes : List Route) (known : ∀ route ∈ later, route.method ∈ methods) :
    Conf.Fresh routes later ∧ enroll routes later = .ok (routes ++ later) ∨
      ¬Conf.Fresh routes later ∧ ∃ route ∈ later,
        enroll routes later = .error (.duplicateRoute route.method route.pattern) := by
  induction later generalizing routes with
  | nil => exact .inl ⟨trivial, by simp [enroll]⟩
  | cons route later ih =>
    obtain ⟨first, others⟩ := List.forall_mem_cons.1 known
    rw [enroll]
    split
    · next present =>
      refine .inr ⟨fun fresh => ?_, route, List.mem_cons_self, rfl⟩
      obtain ⟨other, member, same⟩ := List.any_eq_true.1 present
      exact fresh.1.2 other member (by simpa using same)
    · next absent =>
      have joins : Conf.Joins routes route := ⟨first, by simpa using absent⟩
      rcases ih (routes ++ [route]) others with ⟨fresh, same⟩ | ⟨clash, other, member, same⟩
      · exact .inl ⟨⟨joins, fresh⟩, by simpa using same⟩
      · exact .inr ⟨fun fresh => clash fresh.2, other, .tail _ member, same⟩

end Enrolling

namespace Conf

/-- An outcome without the line of a defect. -/
def unplaced {α : Type} (x : Traced Defect α) : Except Problem α := x.outcome.mapError (·.problem)

theorem outcome_of_unplaced_ok {α : Type} {x : Traced Defect α} {a : α}
    (same : unplaced x = .ok a) : x.outcome = .ok a :=
  Traced.outcome_mapError_eq_ok.1 same

theorem outcome_of_unplaced_error {α : Type} {x : Traced Defect α} {problem : Problem}
    (same : unplaced x = .error problem) : ∃ line, x.outcome = .error ⟨problem, line⟩ := by
  unfold unplaced at same
  cases failed : x.outcome with
  | ok a =>
    rw [failed] at same
    cases same
  | error e =>
    rw [failed] at same
    obtain rfl := Except.error.inj same
    exact ⟨e.line, rfl⟩

def resume (p : Placeholder) (state : State) (number : Nat) (lines : List (List Char)) :
    Traced Defect (List Route) := do
  let state ← state.feedAll p number lines
  let state ← state.finish p
  return state.routes

variable {p : Placeholder} {state : State} {routes : List Route} {draft : Draft}
variable {number : Nat} {line : List Char} {lines run : List (List Char)}

theorem resume_nil (state : State) (number : Nat) :
    (resume p state number []).outcome = (state.finish p).outcome.map (·.routes) := by
  simp only [resume, State.feedAll, Traced.outcome_bind, Traced.outcome_pure]
  change ((state.finish p).outcome >>= fun last => .ok last.routes) = _
  cases (state.finish p).outcome <;> rfl

theorem resume_cons (state : State) (number : Nat) (line : List Char) (lines : List (List Char)) :
    (resume p state number (line :: lines)).outcome =
      (state.feed p number line).outcome >>= fun middle =>
        (resume p middle (number + 1) lines).outcome := by
  simp only [resume, State.feedAll, Traced.outcome_bind]
  cases (state.feed p number line).outcome <;> rfl

theorem resume_cons_of_ok {middle : State}
    (fed : (state.feed p number line).outcome = .ok middle) :
    (resume p state number (line :: lines)).outcome =
      (resume p middle (number + 1) lines).outcome := by
  rw [resume_cons, fed]
  rfl

theorem resume_body {body : List (List Char)} (filled : ∀ line ∈ body, isBlankLine line = false)
    (draft : Draft) (goes : Continues (draft.parts ≠ []) body) (number : Nat) :
    ∃ next after, next.route p [] = draft.route p body ∧ ∀ rest,
      (resume p ⟨routes, some draft⟩ number (body ++ rest)).outcome =
        (resume p ⟨routes, some next⟩ after rest).outcome := by
  induction body generalizing draft number with
  | nil => exact ⟨draft, number, rfl, fun rest => rfl⟩
  | cons line body ih =>
    obtain ⟨first, others⟩ := List.forall_mem_cons.1 filled
    obtain ⟨middle, fed, pending, same⟩ := feed_of_continues (p := p) first goes.1
    have later : Continues (middle.parts ≠ []) body := by simpa [pending] using goes.2
    obtain ⟨next, after, route, reads⟩ := ih others middle later (number + 1)
    refine ⟨next, after, route.trans (same body), fun rest => ?_⟩
    rw [List.cons_append, resume_cons_of_ok fed, reads]

theorem resume_run (p : Placeholder) (routes : List Route)
    (filled : ∀ line ∈ run, isBlankLine line = false) (formed : Formed run) (number : Nat) :
    ∃ next after, next.route p [] = routeOf p run ∧ ∀ rest,
      (resume p ⟨routes, none⟩ number (run ++ rest)).outcome =
        (resume p ⟨routes, some next⟩ after rest).outcome := by
  cases run with
  | nil => exact formed.elim
  | cons head body =>
    obtain ⟨first, others⟩ := List.forall_mem_cons.1 filled
    obtain ⟨unindented, starts, two, goes⟩ := formed_cons_iff.1 formed
    let opened : Draft := ⟨(header [head]).1, (header [head]).2, number, [], []⟩
    have fed : (State.feed p ⟨routes, none⟩ number head).outcome = .ok ⟨routes, some opened⟩ :=
      feed_start first unindented starts two
    obtain ⟨next, after, route, reads⟩ :=
      resume_body others opened (by simpa [opened] using goes) (number + 1)
    refine ⟨next, after, route.trans (route_start p number head others), fun rest => ?_⟩
    rw [List.cons_append, resume_cons_of_ok fed, reads]

theorem unplaced_resume_open (routes : List Route) (known : (draft.route p []).method ∈ methods)
    (number : Nat) :
    unplaced (resume p ⟨routes, some draft⟩ number []) = enroll routes [draft.route p []] := by
  have method : draft.flush.method ∈ methods := draft.flush_header.1 ▸ known
  rw [unplaced, resume_nil]
  simp only [State.finish, Traced.outcome_bind, register_eq_enroll method, ← draft.route_nil p,
    Traced.outcome_pure]
  cases enroll routes [draft.route p []] <;> rfl

/-- Pages in lines are enrolled after what is still open: the blank line before each of them ends
the route before it. -/
theorem unplaced_resume {pages : List Page} (laid : Laid pages lines)
    (plain : ∀ page ∈ pages, page.Plain) (state : State) (number : Nat) :
    unplaced (resume p state number lines) = unplaced (resume p state number []) >>= fun routes =>
      enroll routes (pages.map (Page.route p)) := by
  induction laid generalizing state number with
  | nil => exact (bind_pure _).symm
  | @page gap page pages lines blank unbroken later ih =>
    obtain ⟨first, others⟩ := List.forall_mem_cons.1 plain
    have ended : (state.feed p number gap).outcome = (state.finish p).outcome := by
      simp [State.feed, ofText_of_blank blank]
    rw [unplaced, unplaced, resume_cons, resume_nil, ended]
    cases finished : (state.finish p).outcome with
    | error e => rfl
    | ok middle =>
      obtain ⟨routes, rfl⟩ : ∃ routes, middle = ⟨routes, none⟩ := by
        rcases finish_eq_ok finished with ⟨idle, rfl⟩ | ⟨draft, -, rfl⟩
        · exact ⟨middle.routes, by rw [← idle]⟩
        · exact ⟨_, rfl⟩
      -- The page ends in an open draft, whose route is only registered by what comes after it.
      obtain ⟨draft, after, route, reads⟩ :=
        resume_run p routes first.filled first.formed (number + 1)
      rw [first.routeOf_lines] at route
      have known : (draft.route p []).method ∈ methods := route ▸ first.method
      have opened := unplaced_resume_open routes known after
      calc ((resume p ⟨routes, none⟩ (number + 1) (page.lines ++ lines)).outcome).mapError
            (·.problem)
          = unplaced (resume p ⟨routes, some draft⟩ after lines) := by rw [reads, unplaced]
        _ = enroll routes [page.route p] >>= fun routes =>
              enroll routes (pages.map (Page.route p)) := by rw [ih others, opened, route]
        _ = enroll routes ((page :: pages).map (Page.route p)) := (enroll_cons _ _ _).symm

variable {source : String} {strict : Bool} {outline : Outline} {text : List Char}

theorem parse_eq_bind (source : String) (strict : Bool) (written : outline.WritesLines text)
    (plain : outline.Plain) :
    ∃ lines, Laid outline.pages lines ∧ parse source strict text =
      (Binding.forDriver [] strict outline.driver).mapError .unknownDriver >>= fun binding => do
        let routes ← (Conf.routes binding.placeholder lines).mapError (.defect source)
        return ⟨outline.driver, outline.options, binding, routes⟩ := by
  obtain ⟨first, lines, split, named, laid⟩ := written.splitLines_eq plain
  have filled : ¬(Text.strip first).isEmpty = true := by
    simpa [isBlankLine] using Outline.filled_driverLine plain named
  refine ⟨lines, laid, ?_⟩
  simp only [parse, parseLines, split, if_neg filled, Outline.driverLine_eq plain named]

theorem parse_of_bound {binding : Binding} (source : String) (written : outline.WritesLines text)
    (plain : outline.Plain)
    (bound : (Binding.forDriver [] strict outline.driver).outcome = .ok binding) :
    ∃ lines, unplaced (Conf.routes binding.placeholder lines) =
        enroll [] (outline.pages.map (Page.route binding.placeholder)) ∧
      (parse source strict text).outcome =
        ((Conf.routes binding.placeholder lines).outcome.mapError (.defect source)).map
          (⟨outline.driver, outline.options, binding, ·⟩) := by
  obtain ⟨lines, laid, parsed⟩ := parse_eq_bind source strict written plain
  refine ⟨lines, unplaced_resume laid plain.pages .start 2, ?_⟩
  rw [parsed, Traced.outcome_mapError_bind_of_ok bound, Traced.outcome_bind,
    Traced.outcome_mapError]
  cases (Conf.routes binding.placeholder lines).outcome <;> rfl

theorem parse_of_unknown {e : UnknownDriver} (written : outline.WritesLines text)
    (plain : outline.Plain)
    (unknown : (Binding.forDriver [] strict outline.driver).outcome = .error e) :
    (parse source strict text).outcome = .error (.unknownDriver e) := by
  obtain ⟨lines, -, parsed⟩ := parse_eq_bind source strict written plain
  rw [parsed, Traced.outcome_mapError_bind_of_error unknown]

end Conf

namespace Document

section Outlines

variable (document : Graph)

def textAt? (place : Option Place) : Option String :=
  match document.cellAt place with
  | .text s => some s
  | _ => none

def entriesAt? (place : Option Place) : Option (List (Place × Place)) :=
  match document.cellAt place with
  | .map entries => some entries
  | _ => none

def itemsAt? (place : Option Place) : Option (List Place) :=
  match document.cellAt place with
  | .list items => some items
  | _ => none

def queryAt? (entry : Place × Place) : Option (String × String) := do
  return (← textAt? document entry.1, ← textAt? document entry.2)

def pageAt? (place : Place) : Option Page := do
  let entries ← entriesAt? document place
  let method ← textAt? document (document.field? entries "method")
  let pattern ← textAt? document (document.field? entries "pattern")
  let queries ← entriesAt? document (document.field? entries "queries")
  return ⟨method, pattern, ← queries.mapM (queryAt? document)⟩

/-- The outline that a document is, if all in it has the form and the names of an outline. -/
def outline? : Option Outline := do
  let entries ← entriesAt? document document.root
  let database ← entriesAt? document (document.field? entries "db")
  let driver ← textAt? document (document.field? database "driver")
  let options ← textAt? document (document.field? database "options")
  let pages ← itemsAt? document (document.field? entries "pages")
  return ⟨driver, options, ← pages.mapM (pageAt? document)⟩

end Outlines

section Reading

variable {document : Graph} {place : Option Place}

theorem cellAt_of_textAt? {s : String} (found : textAt? document place = some s) :
    document.cellAt place = .text s := by
  unfold textAt? at found
  split at found
  · next shape => rw [shape, Option.some.inj found]
  · cases found

theorem cellAt_of_entriesAt? {entries : List (Place × Place)}
    (found : entriesAt? document place = some entries) : document.cellAt place = .map entries := by
  unfold entriesAt? at found
  split at found
  · next shape => rw [shape, Option.some.inj found]
  · cases found

theorem cellAt_of_itemsAt? {items : List Place} (found : itemsAt? document place = some items) :
    document.cellAt place = .list items := by
  unfold itemsAt? at found
  split at found
  · next shape => rw [shape, Option.some.inj found]
  · cases found

theorem text_eq_ok {place : Place} {s : String} (found : textAt? document place = some s) :
    text document place = .ok s := by
  have shape : document.cell place = .text s := cellAt_of_textAt? found
  simp only [text, Graph.display, shape]
  rfl

theorem textOrEmpty_eq_ok {s : String} (found : textAt? document place = some s) :
    textOrEmpty document place = .ok s := by
  cases place with
  | none => cases cellAt_of_textAt? found
  | some place =>
    have shape : document.cell place = .text s := cellAt_of_textAt? found
    rw [textOrEmpty, text_eq_ok found]
    by_cases empty : s = "" <;> simp [shape, Cell.truthy, Atom.truthy, empty]

theorem mapM_eq_ok {α β ε : Type} {f : α → Option β} {g : α → Except ε β} {items : List α}
    {found : List β} (each : ∀ item b, f item = some b → g item = .ok b)
    (all : items.mapM f = some found) : items.mapM g = .ok found := by
  induction items generalizing found with
  | nil =>
    obtain rfl := Option.some.inj all
    rfl
  | cons item items ih =>
    rw [List.mapM_cons] at all ⊢
    obtain ⟨b, first, rest⟩ := Option.bind_eq_some_iff.1 all
    obtain ⟨others, later, same⟩ := Option.bind_eq_some_iff.1 rest
    obtain rfl := Option.some.inj same
    rw [each item b first, ih later]
    rfl

theorem queries_eq_ok (source pattern : String) {entries : List (Place × Place)}
    {found : List (String × String)} (listed : entriesAt? document place = some entries)
    (all : entries.mapM (queryAt? document) = some found) :
    queries document source pattern place = .ok found := by
  rw [queries, cellAt_of_entriesAt? listed]
  refine mapM_eq_ok (fun entry named same => ?_) all
  obtain ⟨name, isName, rest⟩ := Option.bind_eq_some_iff.1 same
  obtain ⟨sql, isSql, same⟩ := Option.bind_eq_some_iff.1 rest
  obtain rfl := Option.some.inj same
  have shape : document.cell entry.2 = .text sql := cellAt_of_textAt? isSql
  rw [query, shape, text_eq_ok isName]
  rfl

variable {source : String} {p : Placeholder} {routes : List Route}

theorem page_eq_enroll {place : Place} {found : Page}
    (described : pageAt? document place = some found) (plain : found.Plain) :
    (page document source p routes place).outcome =
      (enroll routes [found.route p]).mapError fun problem => .defect source ⟨problem, none⟩ := by
  obtain ⟨entries, listed, rest⟩ := Option.bind_eq_some_iff.1 described
  obtain ⟨method, isMethod, rest⟩ := Option.bind_eq_some_iff.1 rest
  obtain ⟨pattern, isPattern, rest⟩ := Option.bind_eq_some_iff.1 rest
  obtain ⟨named, isNamed, rest⟩ := Option.bind_eq_some_iff.1 rest
  obtain ⟨statements, all, same⟩ := Option.bind_eq_some_iff.1 rest
  obtain rfl := Option.some.inj same
  have filled : pattern ≠ "" := plain.pattern.1
  simp only [page, cellAt_of_entriesAt? listed]
  rw [Traced.outcome_bind_of_ok (textOrEmpty_eq_ok isPattern), if_neg filled,
    Traced.outcome_bind_of_ok (textOrEmpty_eq_ok isMethod),
    Traced.outcome_bind_of_ok (queries_eq_ok source pattern isNamed all), Traced.outcome_mapError,
    register_eq_enroll plain.method, mapError_mapError]
  rfl

theorem pages_eq_enroll {places : List Place} {found : List Page}
    (described : places.mapM (pageAt? document) = some found)
    (plain : ∀ page ∈ found, page.Plain) :
    (pages document source p routes (places.map some)).outcome =
      (enroll routes (found.map (Page.route p))).mapError
        fun problem => .defect source ⟨problem, none⟩ := by
  induction places generalizing routes found with
  | nil =>
    obtain rfl := Option.some.inj described
    rfl
  | cons place places ih =>
    rw [List.mapM_cons] at described
    obtain ⟨first, isFirst, rest⟩ := Option.bind_eq_some_iff.1 described
    obtain ⟨later, areLater, same⟩ := Option.bind_eq_some_iff.1 rest
    obtain rfl := Option.some.inj same
    obtain ⟨plainFirst, plainLater⟩ := List.forall_mem_cons.1 plain
    rw [List.map_cons, pages, Traced.outcome_bind, page_eq_enroll isFirst plainFirst, List.map_cons,
      enroll_cons _ _ (later.map (Page.route p)), mapError_bind]
    simp only [ih areLater plainLater]

variable {strict : Bool} {outline : Outline}

theorem parts_of_outline? (source : String) (described : outline? document = some outline)
    (plain : outline.Plain) :
    ∃ entries, ∃ places : List Place, document.rootCell = .map entries ∧
      database document source entries = .ok (outline.driver, outline.options) ∧
      pageList document source entries = .ok (places.map some) ∧
      places.mapM (pageAt? document) = some outline.pages := by
  obtain ⟨entries, listed, rest⟩ := Option.bind_eq_some_iff.1 described
  obtain ⟨fields, areFields, rest⟩ := Option.bind_eq_some_iff.1 rest
  obtain ⟨driver, isDriver, rest⟩ := Option.bind_eq_some_iff.1 rest
  obtain ⟨options, areOptions, rest⟩ := Option.bind_eq_some_iff.1 rest
  obtain ⟨places, arePlaces, rest⟩ := Option.bind_eq_some_iff.1 rest
  obtain ⟨found, arePages, same⟩ := Option.bind_eq_some_iff.1 rest
  obtain rfl := Option.some.inj same
  refine ⟨entries, places, cellAt_of_entriesAt? listed, ?_, ?_, arePages⟩
  · have filled : driver ≠ "" := plain.driver.1
    have kept : stripped driver = driver := by
      rw [stripped, Text.strip_of_filled plain.driver.2, String.ofList_toList]
    have left : stripped options = options := by
      rw [stripped, plain.options.1, String.ofList_toList]
    simp only [database, cellAt_of_entriesAt? areFields, textOrEmpty_eq_ok isDriver,
      textOrEmpty_eq_ok areOptions]
    exact (if_neg filled).trans (congrArg Except.ok (Prod.ext kept left))
  · rw [pageList, cellAt_of_itemsAt? arePlaces]

theorem load_of_bound {binding : Binding} (described : outline? document = some outline)
    (plain : outline.Plain)
    (bound : (Binding.forDriver [] strict outline.driver).outcome = .ok binding) :
    (load source strict document).outcome =
      ((enroll [] (outline.pages.map (Page.route binding.placeholder))).mapError
        fun problem => .defect source ⟨problem, none⟩).map
          (⟨outline.driver, outline.options, binding, ·⟩) := by
  obtain ⟨entries, places, root, named, listed, described⟩ :=
    parts_of_outline? source described plain
  simp only [load, root]
  rw [Traced.outcome_bind_of_ok named, Traced.outcome_bind_of_ok listed,
    Traced.outcome_mapError_bind_of_ok bound, Traced.outcome_bind,
    pages_eq_enroll described plain.pages]
  cases enroll [] (outline.pages.map (Page.route binding.placeholder)) <;> rfl

theorem load_of_unknown {e : UnknownDriver} (described : outline? document = some outline)
    (plain : outline.Plain)
    (unknown : (Binding.forDriver [] strict outline.driver).outcome = .error e) :
    (load source strict document).outcome = .error (.unknownDriver e) := by
  obtain ⟨entries, places, root, named, listed, -⟩ := parts_of_outline? source described plain
  simp only [load, root]
  rw [Traced.outcome_bind_of_ok named, Traced.outcome_bind_of_ok listed,
    Traced.outcome_mapError_bind_of_error unknown]

end Reading

end Document

def Outline.WritesDocument (outline : Outline) (text : List Char) : Prop :=
  ∃ document, Yaml.load text = .ok document ∧ Document.outline? document = some outline

theorem Outline.writesDocument_iff {outline : Outline} {text : List Char} :
    outline.WritesDocument text ↔
      (Yaml.load text).toOption.bind Document.outline? = some outline := by
  unfold WritesDocument
  cases Yaml.load text with
  | error e => simp [Except.toOption]
  | ok document => simp [Except.toOption]

instance (outline : Outline) : DecidablePred outline.WritesDocument :=
  fun _ => decidable_of_iff _ Outline.writesDocument_iff.symm

theorem parseYaml_of_load {source : String} {strict : Bool} {text : List Char} {document : Graph}
    (loaded : Yaml.load text = .ok document) :
    (parseYaml source strict text).outcome = (Document.load source strict document).outcome := by
  refine Traced.outcome_bind_of_ok ?_ _
  rw [Traced.outcome_ofExcept, loaded]
  rfl

theorem unknown_of_forDriver {strict : Bool} {driver : String} {e : UnknownDriver}
    (failed : (Binding.forDriver [] strict driver).outcome = .error e) :
    strict = true ∧ Driver.known? [] driver = none := by
  by_contra either
  have known : strict = true → (Driver.known? [] driver).isSome = true := by
    intro refused
    rw [← Option.ne_none_iff_isSome]
    exact fun unknown => either ⟨refused, unknown⟩
  obtain ⟨binding, bound⟩ := Conf.exists_binding known
  cases bound.symm.trans failed

/-- Written in lines or as a document, an outline is the same configuration: its pages are the
routes, if no two have method and pattern in common. Otherwise that is what both formats report,
after the driver, which is refused in strict mode if it is unknown. -/
theorem formats_agree {outline : Outline} {text yaml : List Char} (plain : outline.Plain)
    (written : outline.WritesLines text) (described : outline.WritesDocument yaml)
    (source source' : String) (strict : Bool) :
    (∃ binding, (Binding.forDriver [] strict outline.driver).outcome = .ok binding ∧
      (outline.pages.map Page.header).Nodup ∧
      (Conf.parse source strict text).outcome = .ok (outline.config binding) ∧
      (parseYaml source' strict yaml).outcome = .ok (outline.config binding)) ∨
    (strict = true ∧ Driver.known? [] outline.driver = none ∧ ∃ e,
      (Conf.parse source strict text).outcome = .error (.unknownDriver e) ∧
      (parseYaml source' strict yaml).outcome = .error (.unknownDriver e)) ∨
    (¬(outline.pages.map Page.header).Nodup ∧ ∃ page ∈ outline.pages, ∃ line,
      (Conf.parse source strict text).outcome =
        .error (.defect source ⟨.duplicateRoute page.method page.pattern, line⟩) ∧
      (parseYaml source' strict yaml).outcome =
        .error (.defect source' ⟨.duplicateRoute page.method page.pattern, none⟩)) := by
  obtain ⟨document, loaded, found⟩ := described
  rw [parseYaml_of_load loaded]
  cases bound : (Binding.forDriver [] strict outline.driver).outcome with
  | error e =>
    obtain ⟨refused, unknown⟩ := unknown_of_forDriver bound
    exact .inr (.inl ⟨refused, unknown, e, Conf.parse_of_unknown written plain bound,
      Document.load_of_unknown found plain bound⟩)
  | ok binding =>
    obtain ⟨lines, read, parsed⟩ := Conf.parse_of_bound source written plain bound
    rw [parsed, Document.load_of_bound found plain bound]
    have known : ∀ route ∈ outline.pages.map (Page.route binding.placeholder),
        route.method ∈ methods :=
      List.forall_mem_map.2 fun page member => (plain.pages page member).method
    have apart : Conf.Fresh [] (outline.pages.map (Page.route binding.placeholder)) ↔
        (outline.pages.map Page.header).Nodup := by
      have headers : (outline.pages.map (Page.route binding.placeholder)).map
          (fun route => (route.method, route.pattern)) = outline.pages.map Page.header :=
        List.map_map
      simp [Conf.fresh_iff known, headers]
    rcases enroll_cases [] known with ⟨fresh, same⟩ | ⟨clash, route, member, same⟩
    · rw [same] at read ⊢
      rw [Conf.outcome_of_unplaced_ok read]
      exact .inl ⟨binding, rfl, apart.1 fresh, rfl, rfl⟩
    · obtain ⟨page, inside, rfl⟩ := List.mem_map.1 member
      rw [same] at read ⊢
      obtain ⟨line, failed⟩ := Conf.outcome_of_unplaced_error read
      rw [failed]
      exact .inr (.inr ⟨fun nodup => clash (apart.2 nodup), page, inside, line, rfl, rfl⟩)

theorem formats_agree_two_pages :
    let p : Placeholder := ⟨.numbered, '$'⟩
    let config : RouteConfig := ⟨"ql", "a b", ⟨"ql", .given p, true⟩,
      [⟨"/", "GET", [.ofSql "A: :b" p "q", .ofSql "GET" p ""]⟩, ⟨"/", "POST", []⟩]⟩
    let text := "ql a b\n\nGET /\nq: A: :b\n: GET\n \nPOST /"
    let yaml := "db:\n  driver: ql\n  options: a b\npages:\n" ++
      "- pattern: /\n  method: GET\n  queries:\n    q: 'A: :b'\n    '': GET\n" ++
      "- pattern: /\n  method: POST\n  queries: \x7b\x7d\n"
    (Conf.parse "a.conf" true text.toList).outcome = .ok config ∧
      (parseYaml "a.yml" true yaml.toList).outcome = .ok config := by
  intro p config text yaml
  let outline : Outline :=
    ⟨"ql", "a b", [⟨"GET", "/", [("q", "A: :b"), ("", "GET")]⟩, ⟨"POST", "/", []⟩]⟩
  have plain : outline.Plain := by decide
  have written : outline.WritesLines text.toList := by
    have empty : Conf.isBlankLine [] = true := rfl
    have blank : Conf.isBlankLine [' '] = true := rfl
    have laid : Laid outline.pages _ :=
      .page empty (by decide) (.page blank (by decide) .nil)
    exact ⟨"ql a b".toList, _, [], .inl (by decide), laid, .inl rfl, by decide⟩
  have described : outline.WritesDocument yaml.toList := by decide +kernel
  rcases formats_agree plain written described "a.conf" "a.yml" true with
    ⟨binding, bound, -, parsed, read⟩ | ⟨-, unknown, -⟩ | ⟨clash, -⟩
  · have chosen : binding = ⟨"ql", .given p, true⟩ :=
      Except.ok.inj (bound.symm.trans (by cbv))
    rw [chosen] at parsed read
    exact ⟨parsed, read⟩
  · exact absurd unknown (by decide)
  · exact absurd (by decide) clash

end SqlRoutes.Route
