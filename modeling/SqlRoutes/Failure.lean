import SqlRoutes.Driver.Table
import SqlRoutes.Json.Reader
import SqlRoutes.Json.Writer
import SqlRoutes.Query.Basic

namespace SqlRoutes

inductive FailureKind where
  | general
  | missingDependency
  | improperConfiguration
  | unknownDriver
  | fileNotFound
  | parse
  | parameter
  | missingParameter
  | serialization
  deriving DecidableEq, Repr

namespace FailureKind

def name : FailureKind → String
  | .general => "SQLBindError"
  | .missingDependency => "MissingDependencyError"
  | .improperConfiguration => "ImproperConfigurationError"
  | .unknownDriver => "UnknownDriverError"
  | .fileNotFound => "ConfigFileNotFoundError"
  | .parse => "ConfigParseError"
  | .parameter => "ParameterError"
  | .missingParameter => "MissingParameterError"
  | .serialization => "SerializationError"

def ancestry : FailureKind → List FailureKind
  | .general => [.general]
  | .unknownDriver => [.unknownDriver, .improperConfiguration, .general]
  | .missingParameter => [.missingParameter, .parameter, .general]
  | kind => [kind, .general]

end FailureKind

/-- What a failure says: a detail, and remarks that stand before it. -/
structure Notice where
  remarks : List String
  detail : String
  deriving DecidableEq, Repr

namespace Notice

/-- Empty and zero words are dropped. Without a detail the first word is the detail; without words
the default is. -/
def ofWords (words : List Value) (detail : String) (default? : Option String) : Notice :=
  let words := (words.filter Value.truthy).map Value.display
  if detail ≠ "" then ⟨words, detail⟩
  else
    match words with
    | first :: rest => ⟨rest, first⟩
    | [] => ⟨[], default?.getD ""⟩

def message (notice : Notice) : String :=
  .ofList (Text.strip (" ".intercalate (notice.remarks ++ [notice.detail])).toList)

def label (notice : Notice) (kind : FailureKind) : String :=
  if notice.detail = "" then kind.name else s!"{kind.name} - {notice.detail}"

end Notice

/-- A failure with what it is about. That is shown as it is, and need not be text. -/
inductive Failure where
  | plain (kind : FailureKind) (words : List Value) (detail : String)
  | missingDependency (package extra : Value)
  | unknownDriver (driver : Value) (suggestions : List String)
  | fileNotFound (name tried : Value)
  | parse (source problem line : Value)
  | parameter (text sql : Value)
  | missingParameter (missing : List Value) (sql : Value)

namespace Failure

def kind : Failure → FailureKind
  | .plain kind _ _ => kind
  | .missingDependency .. => .missingDependency
  | .unknownDriver .. => .unknownDriver
  | .fileNotFound .. => .fileNotFound
  | .parse .. => .parse
  | .parameter .. => .parameter
  | .missingParameter .. => .missingParameter

/-- A text with the statement it is about, if there is one. -/
def aboutSql (text : String) (sql : Value) : String :=
  if sql.truthy then s!"{text}\nSQL: {sql.display}" else text

def notice (failure : Failure) (default? : Option String) : Notice :=
  let only (text : String) := Notice.ofWords [.text text] "" default?
  match failure with
  | .plain _ words detail => .ofWords words detail default?
  | .missingDependency package extra =>
    let installed := (if extra.truthy then extra else package).display
    only (s!"Package {package.described} is not installed but required. You can install it by " ++
      s!"running 'pip install sqlbind[{installed}]' to install sqlbind with the required extra " ++
      s!"or 'pip install {installed}' to install the package separately")
  | .unknownDriver driver suggestions =>
    let names := ", ".intercalate suggestions
    only (s!"Unknown database driver {driver.described}" ++
      if suggestions.isEmpty then "" else s!". Did you mean: {names}?")
  | .fileNotFound name tried =>
    only (s!"Config file not found: {name.display}" ++
      if tried.truthy then s!" (looking for {tried.display})" else "")
  | .parse source problem line =>
    match line with
    | .null => only s!"{source.display}: {problem.display}"
    | line => only s!"{source.display}:{line.display}: {problem.display}"
  | .parameter text sql =>
    .ofWords [] (aboutSql (if text.truthy || sql.truthy then text.display else "") sql) default?
  | .missingParameter missing sql =>
    let names := ", ".intercalate (Value.describedAll missing)
    .ofWords [] (aboutSql s!"Missing required parameters: {names}" sql) default?

def message (failure : Failure) : String := (failure.notice none).message

end Failure

def UnknownDriver.failure (e : UnknownDriver) : Failure :=
  .unknownDriver (.text e.driver) e.suggestions

def MissingParameters.failure (e : MissingParameters) : Failure :=
  .missingParameter (e.missing.map .text) (.text e.sql)

def Json.Unwritable.failure (e : Json.Unwritable) : Failure :=
  .plain .serialization [.text e.message] ""

/-- A document that breaks the grammar is a failure of the library's own. -/
def Json.Unreadable.failure? (e : Json.Unreadable) : Option Failure :=
  match e with
  | .malformed => some (.plain .serialization [.text e.message] "")
  | .text _ => none

end SqlRoutes
