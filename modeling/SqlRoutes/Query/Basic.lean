import SqlRoutes.Log.Record
import SqlRoutes.Query.Splice

namespace SqlRoutes

/-- A statement as configured and as handed to the driver. -/
structure Query where
  name : String
  sql : String
  prepared : String
  /-- Names in order of appearance, with repetitions. -/
  parameters : List String
  placeholder : Placeholder
  deriving DecidableEq, Repr

def distinct : List String → List String
  | [] => []
  | name :: names => name :: (distinct names).filter (· ≠ name)

inductive Bound (α : Type) where
  | positional (values : List α)
  | named (values : List (String × α))
  deriving DecidableEq, Repr

/-- Names that have no value, with the statement they are missing for. -/
structure MissingParameters where
  missing : List String
  sql : String
  deriving DecidableEq, Repr

namespace Query

def ofSql (sql : String) (p : Placeholder) (name : String) : Query :=
  let result := splice sql.toList p
  ⟨name, sql, String.ofList result.1, result.2, p⟩

def parameterNames (query : Query) : List String := distinct query.parameters

def record (query : Query) : Log.Record where
  level := .debug
  logger := "sqlbind.core.binder"
  message := s!"Compiled query {query.name.quoted} for {query.placeholder.text}: " ++
    s!"{query.prepared.quoted} {Text.quotedList query.parameters}"
  fields := none

def compile {ε : Type} (sql : String) (p : Placeholder) (name : String) : Log.Traced ε Query := do
  let query := ofSql sql p name
  .log query.record
  return query

/-- Arranges the values: by name if the placeholder keeps names, else one for every occurrence. -/
def bind {α : Type} (query : Query) (value? : String → Option α) :
    Except MissingParameters (Bound α) :=
  let missing := query.parameterNames.filter fun name => (value? name).isNone
  if missing.isEmpty then
    if query.placeholder.keepsNames then
      .ok (.named (query.parameterNames.filterMap fun name => (value? name).map (name, ·)))
    else .ok (.positional (query.parameters.filterMap value?))
  else .error ⟨missing, query.prepared⟩

end Query

end SqlRoutes
