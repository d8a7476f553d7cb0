import SqlRoutes.Proofs.Command.Document
import SqlRoutes.Proofs.Route.Failures

/-!
What the command that shows a configuration does when loading it fails. A failure of the library's
own becomes a message on the screen; any other error makes the command break off. A configuration
that is loaded is shown.
-/
namespace SqlRoutes
namespace Command

open Log

variable {files : Files} {setting : Option String} {origin : Origin} {args : List String}
variable {level config : String} {strict : Option Bool} {format : Format}

theorem loadStop_eq (e : Route.LoadError) : loadStop e =
    match e.failure? with
    | some failure => .failure failure.message
    | none => .broken e.message := by
  cases e <;> rfl

theorem run_of_accepted {action : Action} (setting : Option String)
    (asked : request? args = some (.run level action))
    (accepted : refusal? files (logLines origin level []) action = none) :
    ∃ log, run files setting origin args =
      match (perform files setting action).outcome with
      | .ok output => output.report log
      | .error stop => stop.report log := by
  refine ⟨logLines origin level (perform files setting action).records, ?_⟩
  cases outcome : (perform files setting action).outcome with
  | ok output => simp only [run, asked, accepted, outcome]
  | error stop => simp only [run, asked, accepted, outcome]

theorem run_eq (setting : Option String)
    (asked : request? args = some (.run level (.routes config strict format)))
    (accepted : refusal? files (logLines origin level []) (.routes config strict format) = none) :
    ∃ log, run files setting origin args =
      match (Route.load files (Driver.strictFrom strict setting) "utf-8" config).outcome with
      | .ok found =>
        (if format = .json then Output.document found.document
          else .items (configItems found)).report log
      | .error e => (loadStop e).report log := by
  obtain ⟨log, same⟩ := run_of_accepted setting asked accepted
  refine ⟨log, same.trans ?_⟩
  simp only [perform, Traced.outcome_bind, Traced.outcome_mapError]
  cases (Route.load files (Driver.strictFrom strict setting) "utf-8" config).outcome with
  | ok found => rfl
  | error e => rfl

theorem report_ok (found : RouteConfig) (log : List String) :
    let report := (if format = .json then Output.document found.document
      else .items (configItems found)).report log
    report.exitCode = 0 ∧ report.broken = none := by
  split
  · obtain ⟨code, whole, -⟩ := report_document found.plain_document log
    exact ⟨code, whole⟩
  · exact ⟨rfl, rfl⟩

theorem broken_iff (asked : request? args = some (.run level (.routes config strict format)))
    (accepted : refusal? files (logLines origin level []) (.routes config strict format) = none) :
    (run files setting origin args).broken = none ↔
      Route.Documented Route.loadKinds
        (Route.load files (Driver.strictFrom strict setting) "utf-8" config).outcome := by
  obtain ⟨log, same⟩ := run_eq setting asked accepted
  rw [same]
  cases (Route.load files (Driver.strictFrom strict setting) "utf-8" config).outcome with
  | ok found => exact iff_of_true (report_ok found log).2 (throws_ok found)
  | error e =>
    rw [Route.Documented, throws_error]
    cases known : e.failure? with
    | some failure => simp [loadStop_eq, known, Stop.report, Route.kind_of_failure known]
    | none => simp [loadStop_eq, known, Stop.report]

theorem throws_shown (asked : request? args = some (.run level (.routes config strict format)))
    (accepted : refusal? files (logLines origin level []) (.routes config strict format) = none) :
    Throws (Route.load files (Driver.strictFrom strict setting) "utf-8" config).outcome fun e =>
      ∀ failure, e.failure? = some failure → (run files setting origin args).exitCode = 1 ∧
        (run files setting origin args).items =
          [.line s!"Error: {Screen.shown failure.message}"] := by
  intro e failed failure known
  obtain ⟨log, same⟩ := run_eq setting asked accepted
  rw [same, failed]
  simp [loadStop_eq, known, Stop.report]

/-- An error of a load is reported, for what is wrong with the file it names, or escapes; a file
with half of a surrogate pair has an outcome of its own. Without such a file the load ends as
documented if its error is none that escapes, and only then. So it is with a text in the document
format. The command breaks off where a load does not end as documented, and shows any other
error. -/
theorem failures_documented_iff (files : Files) (strict : Bool) (encoding base source : String)
    (text : List Char) (setting : Option String) (origin : Origin) (args : List String)
    (level : String) (choice : Option Bool) (format : Format) :
    (Throws (Route.load files strict encoding base).outcome fun e =>
      Route.Reported files strict encoding (Path.ofString base) e ∨
        Route.Escapes files encoding (Path.ofString base) e ∨
        e = .surrogate ∧ Route.Halved files encoding (Path.ofString base)) ∧
    (Route.Documented Route.loadKinds (Route.load files strict encoding base).outcome ↔
      Throws (Route.load files strict encoding base).outcome fun e =>
        ¬(Route.Escapes files encoding (Path.ofString base) e ∨ e = .surrogate)) ∧
    (Throws (Route.parseYaml source strict text).outcome fun e => Route.Refused strict source e ∨
      Route.TextEscapes text e ∨ e = .surrogate ∧ Yaml.load text = .error .surrogate) ∧
    (Route.Documented [.parse, .unknownDriver] (Route.parseYaml source strict text).outcome ↔
      Throws (Route.parseYaml source strict text).outcome fun e =>
        ¬(Route.TextEscapes text e ∨ e = .surrogate)) ∧
    (request? args = some (.run level (.routes base choice format)) →
      refusal? files (logLines origin level []) (.routes base choice format) = none →
      let loaded := (Route.load files (Driver.strictFrom choice setting) "utf-8" base).outcome
      let report := run files setting origin args
      (report.broken = none ↔
        Throws loaded fun e =>
          ¬(Route.Escapes files "utf-8" (Path.ofString base) e ∨ e = .surrogate)) ∧
      Throws loaded fun e => ∀ failure, e.failure? = some failure →
        report.exitCode = 1 ∧
          report.items = [.line s!"Error: {Screen.shown failure.message}"]) := by
  refine ⟨Route.throws_load files strict encoding base,
    Route.documented_load_iff files strict encoding base,
    Route.throws_parseYaml source strict text,
    Route.documented_parseYaml_iff source strict text,
    fun asked accepted => ⟨?_, throws_shown asked accepted⟩⟩
  · exact (broken_iff asked accepted).trans
      (Route.documented_load_iff files (Driver.strictFrom choice setting) "utf-8" base)

theorem failures_documented_iff_no_files :
    let nothing : Files := fun _ => .error .absent
    let origin : Origin := ⟨"", "", "", 0⟩
    (run nothing none origin ["routes", "a"]).items =
      [.line "Error: Config file not found: a (looking for a.conf or a.yaml or a.yml)"] ∧
    (run nothing none origin ["routes", ""]).broken ≠ none := by
  intro nothing origin
  constructor
  · obtain ⟨-, -, -, -, shows⟩ := failures_documented_iff nothing false "utf-8" "a" "" [] none
      origin ["routes", "a"] "WARNING" none .text
    exact ((shows (by decide +kernel) (by decide +kernel)).2 _ rfl _ rfl).2
  · obtain ⟨-, documented, -, -, shows⟩ := failures_documented_iff nothing false "utf-8" "" "" []
      none origin ["routes", ""] "WARNING" none .text
    intro whole
    have known := documented.2 ((shows (by decide +kernel) (by decide +kernel)).1.1 whole)
    obtain ⟨failure, found, -⟩ := known (.emptyName ".") rfl
    cases found

end Command

end SqlRoutes
