import SqlRoutes.Fields
import SqlRoutes.Log.Record
import SqlRoutes.Placeholder
import SqlRoutes.Text.Case
import SqlRoutes.Text.Similarity

namespace SqlRoutes

/-- The convention chosen for a driver: the common fallback, or one given for it. -/
inductive Convention where
  | fallback
  | given (placeholder : Placeholder)
  deriving DecidableEq, Repr

def Convention.placeholder : Convention → Placeholder
  | .fallback => ⟨.simple, '?'⟩
  | .given placeholder => placeholder

/-- A driver without a convention, and known names that resemble it. -/
structure UnknownDriver where
  driver : String
  suggestions : List String
  deriving DecidableEq, Repr

abbrev Overrides := List (String × Convention)

namespace Driver

def table : List (String × Placeholder) :=
  let sqlite : Placeholder := ⟨.named, ':'⟩
  let postgres : Placeholder := ⟨.numbered, '$'⟩
  let mysql : Placeholder := ⟨.simple, '?'⟩
  let sqlserver : Placeholder := ⟨.named, '@'⟩
  [("sqlite3", sqlite), ("sqlite", sqlite), ("aiosqlite", sqlite),
   ("postgres", postgres), ("postgresql", postgres), ("pgx", postgres), ("ql", postgres),
   ("mysql", mysql), ("mariadb", mysql),
   ("sqlserver", sqlserver), ("mssql", sqlserver)]

/-- Driver names are compared without surrounding white space, in lower case. -/
def normalize (driver : String) : String :=
  .ofList (Text.lower (Text.strip driver.toList))

/-- Whether a setting of the environment asks for strict mode. -/
def strictDefault (setting : Option String) : Bool :=
  match setting with
  | none => false
  | some text => ["true", "1", "yes", "on", "enabled"].contains (normalize text)

def strictFrom (choice : Option Bool) (setting : Option String) : Bool :=
  choice.getD (strictDefault setting)

/-- The convention known for a driver: of the first override with its name, or of the table. -/
def known? (overrides : Overrides) (driver : String) : Option Convention :=
  let key := normalize driver
  match overrides.find? fun entry => normalize entry.1 = key with
  | some entry => some entry.2
  | none => (table.lookup key).map .given

def knownNames (overrides : Overrides) : List String :=
  (table.map (·.1) ++ overrides.map fun entry => normalize entry.1).eraseDups

def suggestions (overrides : Overrides) (driver : String) : List String :=
  Text.closeMatches (normalize driver) (knownNames overrides)

def warning (driver : String) (suggestions : List String) : Log.Record where
  level := .warning
  logger := "sqlbind.core.config"
  message :=
    let names := ", ".intercalate suggestions
    s!"Unknown database driver {driver.quoted}, using {Convention.fallback.placeholder.text} " ++
      (if suggestions.isEmpty then "placeholders" else s!"placeholders (did you mean {names}?)")
  fields := none

def resolve (overrides : Overrides) (strict : Bool) (driver : String) :
    Log.Traced UnknownDriver Convention :=
  match known? overrides driver with
  | some convention => return convention
  | none =>
    let suggestions := suggestions overrides driver
    if strict then .fail ⟨driver, suggestions⟩
    else do
      .log (warning driver suggestions)
      return .fallback

end Driver

structure Binding where
  driver : String
  convention : Convention
  strict : Bool
  deriving DecidableEq, Repr

namespace Binding

def forDriver (overrides : Overrides) (strict : Bool) (driver : String) :
    Log.Traced UnknownDriver Binding := do
  let convention ← Driver.resolve overrides strict driver
  return ⟨driver, convention, strict⟩

def placeholder (binding : Binding) : Placeholder := binding.convention.placeholder

def isFallback (binding : Binding) : Bool :=
  (Driver.table.lookup (Driver.normalize binding.driver)).isNone &&
    binding.convention = .fallback

end Binding

end SqlRoutes
