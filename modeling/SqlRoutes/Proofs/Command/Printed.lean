import SqlRoutes.Files.Tree
import SqlRoutes.Proofs.Command.Routes
import SqlRoutes.Proofs.Route.WellFormed

/-!
What the commands print as JSON. The document that is read from it shows every statement with its
name, texts, parameters and placeholder, character for character, and preparing a shown statement
again for the shown placeholder gives what is shown with it.
-/
namespace SqlRoutes

/-- Preparing the text of the statement for its placeholder gives what it holds. -/
def Query.Reproducible (query : Query) : Prop :=
  splice query.sql.toList query.placeholder = (query.prepared.toList, query.parameters)

theorem Query.reproducible_ofSql (sql : String) (p : Placeholder) (name : String) :
    (ofSql sql p name).Reproducible := by
  simp [Reproducible, ofSql]

namespace Command

open Log

section Arguments

def strictFlag : Option Bool → List String
  | none => []
  | some true => ["--strict"]
  | some false => ["--no-strict"]

theorem request?_bind (sql driver : String) (strict : Option Bool) :
    request? (["bind", "--format", "json", "--driver", driver] ++ strictFlag strict ++
      ["--", sql]) = some (.run "WARNING" (.bind sql driver strict .json)) := by
  cases strict with
  | none => cbv
  | some on =>
    cases on with
    | true => cbv
    | false => cbv

theorem request?_routes (config : String) (strict : Option Bool) :
    request? (["routes", "--format", "json"] ++ strictFlag strict ++ ["--", config]) =
      some (.run "WARNING" (.routes config strict .json)) := by
  cases strict with
  | none => cbv
  | some on =>
    cases on with
    | true => cbv
    | false => cbv

end Arguments

variable {files : Files} {setting : Option String} {origin : Origin} {args : List String}
variable {level sql driver : String} {strict : Option Bool}

theorem run_bind_eq (files : Files) (setting : Option String) (origin : Origin)
    (asked : request? args = some (.run level (.bind sql driver strict .json))) :
    ∃ log, run files setting origin args =
      match (bind (Driver.strictFrom strict setting) sql driver).outcome with
      | .ok query => (Output.document query.document).report log
      | .error stop => stop.report log := by
  obtain ⟨log, same⟩ := run_of_accepted setting asked rfl
  refine ⟨log, same.trans ?_⟩
  simp only [perform, Traced.outcome_bind]
  cases (bind (Driver.strictFrom strict setting) sql driver).outcome with
  | ok query => rfl
  | error stop => rfl

theorem bind_eq_ok {strictly : Bool} {query : Query}
    (prepared : (bind strictly sql driver).outcome = .ok query) :
    query.name = "" ∧ query.sql = sql ∧ query.Reproducible := by
  obtain ⟨binding, -, same⟩ := Traced.outcome_bind_eq_ok.1 prepared
  obtain rfl : Query.ofSql sql binding.placeholder "" = query := Except.ok.inj same
  exact ⟨rfl, rfl, Query.reproducible_ofSql _ _ _⟩

section Printing

variable {query : Query} {config : String} {found : RouteConfig}

theorem printed_bind (files : Files) (origin : Origin)
    (asked : request? args = some (.run level (.bind sql driver strict .json)))
    (prepared : (bind (Driver.strictFrom strict setting) sql driver).outcome = .ok query) :
    (run files setting origin args).exitCode = 0 ∧ (run files setting origin args).items = [] ∧
      Json.readText (run files setting origin args).echoed.toList = .ok query.document := by
  obtain ⟨log, same⟩ := run_bind_eq files setting origin asked
  obtain ⟨code, -, items, document⟩ := report_document query.plain_document log
  rw [prepared] at same
  rw [same]
  exact ⟨code, items, document⟩

theorem exitCode_of_bind_error (files : Files) (origin : Origin) {stop : Stop}
    (asked : request? args = some (.run level (.bind sql driver strict .json)))
    (failed : (bind (Driver.strictFrom strict setting) sql driver).outcome = .error stop) :
    (run files setting origin args).exitCode = 1 := by
  obtain ⟨log, same⟩ := run_bind_eq files setting origin asked
  rw [failed] at same
  rw [same]
  cases stop <;> rfl

theorem printed_routes
    (asked : request? args = some (.run level (.routes config strict .json)))
    (accepted : refusal? files (logLines origin level []) (.routes config strict .json) = none)
    (loaded : (Route.load files (Driver.strictFrom strict setting) "utf-8" config).outcome =
      .ok found) :
    (run files setting origin args).exitCode = 0 ∧ (run files setting origin args).items = [] ∧
      Json.readText (run files setting origin args).echoed.toList = .ok found.document := by
  obtain ⟨log, same⟩ := run_eq setting asked accepted
  obtain ⟨code, -, items, document⟩ := report_document found.plain_document log
  rw [loaded] at same
  rw [same]
  exact ⟨code, items, document⟩

theorem reproducible_of_load {files : Files} {strictly : Bool} {encoding base : String}
    (loaded : (Route.load files strictly encoding base).outcome = .ok found) :
    ∀ route ∈ found.routes, ∀ query ∈ route.queries, query.Reproducible := by
  intro route member query inside
  have compiled := (Route.wellFormed_of_load loaded).compiled route member query inside
  rw [← Except.ok.inj compiled]
  exact Query.reproducible_ofSql _ _ _

end Printing

/-- What is printed for a statement or a configuration as JSON shows all of it, and every statement
can be prepared again from what is shown. The command for a statement succeeds just when the
statement is prepared; a configuration that is loaded is shown. -/
theorem printed_faithful (files : Files) (setting : Option String) (origin : Origin)
    (args : List String) (level : String) (strict : Option Bool) :
    let report := run files setting origin args
    let strictly := Driver.strictFrom strict setting
    (∀ sql driver, request? args = some (.run level (.bind sql driver strict .json)) →
      (report.exitCode = 0 ↔ ∃ query, (bind strictly sql driver).outcome = .ok query) ∧
      ∀ query, (bind strictly sql driver).outcome = .ok query →
        report.items = [] ∧ query.name = "" ∧ query.sql = sql ∧ query.Reproducible ∧
        ∃ document, Json.readText report.echoed.toList = .ok document ∧
          Query.shown? document = some query) ∧
    ∀ config found, request? args = some (.run level (.routes config strict .json)) →
      refusal? files (logLines origin level []) (.routes config strict .json) = none →
      (Route.load files strictly "utf-8" config).outcome = .ok found →
      report.exitCode = 0 ∧ report.items = [] ∧
        (∀ route ∈ found.routes, ∀ query ∈ route.queries, query.Reproducible) ∧
        ∃ document, Json.readText report.echoed.toList = .ok document ∧
          RouteConfig.shown? document =
            some (found.driver, found.binding.placeholder.text, found.routes) := by
  refine ⟨?_, ?_⟩
  · intro sql driver asked
    refine ⟨?_, ?_⟩
    · cases outcome : (bind (Driver.strictFrom strict setting) sql driver).outcome with
      | error stop => simp [exitCode_of_bind_error files origin asked outcome]
      | ok query => exact iff_of_true (printed_bind files origin asked outcome).1 ⟨query, rfl⟩
    · intro query prepared
      obtain ⟨-, items, document⟩ := printed_bind files origin asked prepared
      obtain ⟨name, asIs, reproducible⟩ := bind_eq_ok prepared
      exact ⟨items, name, asIs, reproducible, _, document, Query.shown?_document query⟩
  · intro config found asked accepted loaded
    obtain ⟨code, items, document⟩ := printed_routes asked accepted loaded
    exact ⟨code, items, reproducible_of_load loaded, _, document,
      RouteConfig.shown?_document found⟩

theorem printed_faithful_marks :
    let origin : Origin := ⟨"", "", "", 0⟩
    let sql := "\"\\\x01𝄞\" :a"
    let asked := ["bind", "--format", "json", "--driver", "pgx"] ++ strictFlag none ++ ["--", sql]
    let listed := ["routes", "--format", "json"] ++ strictFlag (some true) ++ ["--", "c.conf"]
    let files := (FileTree.ofList [("c.conf", "pgx\nGET /\nq: A :b :b".toUTF8.toList)] []).lookUp
    let route : Route := ⟨"/", "GET", [⟨"q", "A :b :b", "A $1 $2", ["b", "b"], ⟨.numbered, '$'⟩⟩]⟩
    (∃ document, Json.readText (run files none origin asked).echoed.toList = .ok document ∧
      Query.shown? document =
        some ⟨"", sql, "\"\\\x01𝄞\" $1", ["a"], ⟨.numbered, '$'⟩⟩) ∧
    ∃ document, Json.readText (run files none origin listed).echoed.toList = .ok document ∧
      RouteConfig.shown? document = some ("pgx", "numbered($)", [route]) := by
  intro origin sql asked listed files route
  constructor
  · obtain ⟨statement, -⟩ := printed_faithful files none origin asked "WARNING" none
    obtain ⟨-, prints⟩ := statement sql "pgx" (request?_bind sql "pgx" none)
    obtain ⟨-, -, -, -, document⟩ := prints
      ⟨"", sql, "\"\\\x01𝄞\" $1", ["a"], ⟨.numbered, '$'⟩⟩ (by decide +kernel)
    exact document
  · obtain ⟨-, routes⟩ := printed_faithful files none origin listed "WARNING" (some true)
    obtain ⟨-, -, -, document⟩ := routes "c.conf"
      ⟨"pgx", "", ⟨"pgx", .given ⟨.numbered, '$'⟩, true⟩, [route]⟩
      (request?_routes "c.conf" (some true)) (by decide +kernel) (by decide +kernel)
    exact document

end Command

end SqlRoutes
