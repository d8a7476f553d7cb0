import SqlRoutes.Route.Problem

namespace SqlRoutes

structure Route where
  pattern : String
  method : String
  queries : List Query
  deriving DecidableEq, Repr

def Route.parameters (route : Route) : List String :=
  distinct (route.queries.flatMap (·.parameters))

structure RouteConfig where
  driver : String
  options : String
  binding : Binding
  routes : List Route
  deriving DecidableEq, Repr

structure MissingRoute where
  method : String
  pattern : String
  deriving DecidableEq, Repr

def MissingRoute.message (e : MissingRoute) : String := s!"{e.method} {e.pattern}"

/-- The route of a pattern and a method, whose letters may be of either case. -/
def RouteConfig.get (config : RouteConfig) (pattern method : String) :
    Except MissingRoute Route :=
  let method := String.ofList (Text.upper method.toList)
  match config.routes.find? fun route => route.pattern = pattern && route.method = method with
  | some route => .ok route
  | none => .error ⟨method, pattern⟩

namespace Route

def methods : List String := ["GET", "POST"]

def record (route : Route) : Log.Record where
  level := .info
  logger := "sqlbind.loader"
  message :=
    let names := route.queries.map (·.name)
    let width := String.ofList (List.replicate (4 - route.method.length) ' ')
    s!"{route.method}{width} {route.pattern.quoted} {Text.quotedList names}"
  fields := some [(.text "method", .text route.method), (.text "pattern", .text route.pattern),
    (.text "queries", .list (route.queries.map fun query => .text query.name))]

def compileAll {ε : Type} (p : Placeholder) : List (String × String) → Log.Traced ε (List Query)
  | [] => return []
  | (name, sql) :: rest => do
    let query ← Query.compile sql p name
    let queries ← compileAll p rest
    return query :: queries

/-- Adds a route with named statements. Nothing is compiled or logged if the route is refused. -/
def register (p : Placeholder) (routes : List Route) (method pattern : String)
    (queries : List (String × String)) (line : Option Nat) : Log.Traced Defect (List Route) := do
  if !methods.contains method then
    .fail ⟨.invalidMethod pattern method, line⟩
  else if routes.any fun route => route.method = method && route.pattern = pattern then
    .fail ⟨.duplicateRoute method pattern, line⟩
  else
    let compiled ← compileAll p queries
    let route : Route := ⟨pattern, method, compiled⟩
    .log route.record
    return routes ++ [route]

end Route

end SqlRoutes
