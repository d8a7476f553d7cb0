import SqlRoutes.Command.Arguments
import SqlRoutes.Command.Screen
import SqlRoutes.Log.Setup
import SqlRoutes.Route.Source

namespace SqlRoutes

def Query.document (query : Query) : Value :=
  .map [(.text "name", .text query.name), (.text "sql", .text query.sql),
    (.text "rewritten_sql", .text query.prepared),
    (.text "parameters", .list (query.parameters.map .text)),
    (.text "placeholder", .map [(.text "style", .text query.placeholder.style.name),
      (.text "marker", .text (.ofList [query.placeholder.marker]))])]

def Route.document (route : Route) : Value :=
  .map [(.text "method", .text route.method), (.text "pattern", .text route.pattern),
    (.text "queries", .list (route.queries.map Query.document))]

def RouteConfig.document (config : RouteConfig) : Value :=
  .map [(.text "driver", .text config.driver),
    (.text "placeholder", .text config.binding.placeholder.text),
    (.text "routes", .list (config.routes.map Route.document))]

namespace Command

structure Report where
  exitCode : Nat
  items : List Item
  /-- Written to standard output as it is. -/
  echoed : String
  /-- Lines of the log. -/
  log : List String
  /-- What made the command break off, when it is no failure of the library's own. -/
  broken : Option String
  deriving DecidableEq, Repr

def Report.misuse : Report := ⟨2, [], "", [], none⟩

inductive Output where
  | items (items : List Item)
  | document (value : Value)

/-- How a command fails: with a message on the screen, or by breaking off. -/
inductive Stop where
  | failure (message : String)
  | broken (message : String)
  deriving DecidableEq, Repr

open Screen (shown)

def queryTable (query : Query) : Item :=
  let convention := query.placeholder.text
  let title := if query.name = "" then convention else s!"{query.name}: {convention}"
  let names := ", ".intercalate query.parameters
  .table (shown title) none
    [["SQL", shown query.sql], ["Rewritten", shown query.prepared],
     ["Parameters", if names = "" then "-" else shown names]]

def tokenTable (sql : String) : Item :=
  .table "Tokens" (some ["Type", "Position", "Value"])
    ((Sql.tokens sql.toList).map fun token =>
      [token.kind.label, toString token.position, shown (.ofList (Text.quoted token.text))])

def routeItems (route : Route) : List Item :=
  .line s!"{route.method} {shown route.pattern}" :: route.queries.map queryTable

def configItems (config : RouteConfig) : List Item :=
  .rule s!"{shown config.driver} using {shown config.binding.placeholder.text} placeholders" ::
    config.routes.flatMap routeItems

def bind (strict : Bool) (sql driver : String) : Log.Traced Stop Query := do
  let binding ← (Binding.forDriver [] strict driver).mapError fun e => .failure e.failure.message
  Query.compile sql binding.placeholder ""

def loadStop (e : Route.LoadError) : Stop :=
  if e.failure?.isSome then .failure e.message else .broken e.message

def perform (files : Files) (setting : Option String) : Action → Log.Traced Stop Output
  | .tokens sql => return .items [tokenTable sql]
  | .bind sql driver strict format => do
    let query ← bind (Driver.strictFrom strict setting) sql driver
    return if format = .json then .document query.document else .items [queryTable query]
  | .routes config strict format => do
    let config ← (Route.load files (Driver.strictFrom strict setting) "utf-8" config).mapError
      loadStop
    return if format = .json then .document config.document else .items (configItems config)

def Output.report (log : List String) : Output → Report
  | .items shown => ⟨0, shown, "", log, none⟩
  | .document value =>
    match Json.write value with
    | .ok text => ⟨0, [], .ofList (text ++ ['\n']), log, none⟩
    | .error e => ⟨1, [], "", log, some e.message⟩

def Stop.report (log : List String) : Stop → Report
  | .failure message => ⟨1, [.line s!"Error: {shown message}"], "", log, none⟩
  | .broken message => ⟨1, [], "", log, some message⟩

/-- The report on a path that is not even tried: a zero character ends names, a directory is no
configuration, and what may not be read is refused. A path that is open at its end names nothing
but a directory. -/
def refusal? (files : Files) (log : List String) : Action → Option Report
  | .routes config _ _ =>
    if config.toList.contains '\x00' then some ((Stop.broken "embedded null byte").report log)
    else if config ≠ "" && files.isDirectory (Path.ofString config) then some .misuse
    else if !Path.endsOpen config && files.isForbidden (Path.ofString config) then some .misuse
    else none
  | _ => none

def logLines (origin : Log.Origin) (level : String) (records : List Log.Record) : List String :=
  match Log.Setup.configure { level, style := some "simple" } with
  | .ok (setup, record) =>
    (record :: records).flatMap fun record => (setup.deliver origin record).console
  | .error _ => []

def run (files : Files) (setting : Option String) (origin : Log.Origin) (args : List String) :
    Report :=
  match request? args with
  | none => .misuse
  | some .help => { Report.misuse with exitCode := 0 }
  | some (.run level action) =>
    match refusal? files (logLines origin level []) action with
    | some report => report
    | none =>
      let trace := perform files setting action
      let log := logLines origin level trace.records
      match trace.outcome with
      | .ok output => output.report log
      | .error stop => stop.report log

end Command

end SqlRoutes
