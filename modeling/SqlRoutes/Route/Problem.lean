import SqlRoutes.Encoding.Charset
import SqlRoutes.Failure
import SqlRoutes.Files.Entry
import SqlRoutes.Value.Scalar

namespace SqlRoutes.Route

inductive Unreadable where
  | unopened (path : Path) (e : SystemError)
  | interrupted (e : SystemError)
  | undecodable (fault : Encoding.Fault)
  deriving DecidableEq, Repr

def Unreadable.message : Unreadable → String
  | .unopened path e => e.messageAt path
  | .interrupted e => e.message
  | .undecodable fault => fault.message

inductive Problem where
  | driverLineMissing
  | strayContinuation
  | routesNotSeparated
  | invalidPathLine
  | strayQuery
  | colonMissing
  | invalidMethod (pattern method : String)
  | duplicateRoute (method pattern : String)
  | invalidYaml
  | notMapping
  | driverUnset
  | pagesNotList
  | pageNotMapping
  | patternEmpty
  | queriesNotMapping (pattern : String)
  | invalidQuery (pattern name : String)
  | severalFiles (paths : List String)
  | unreadable (reason : Unreadable)
  deriving DecidableEq, Repr

def Problem.text : Problem → String
  | .driverLineMissing => "first line must name the database driver"
  | .strayContinuation => "continuation line without a query"
  | .routesNotSeparated => "routes must be separated by a blank line"
  | .invalidPathLine => "invalid path line"
  | .strayQuery => "query outside of a route; expected 'GET <pattern>' or 'POST <pattern>'"
  | .colonMissing => "missing ':'"
  | .invalidMethod pattern method => s!"{pattern}: invalid method {method.quoted}"
  | .duplicateRoute method pattern => s!"duplicate route {method} {pattern}"
  | .invalidYaml => "invalid YAML"
  | .notMapping => "expected a mapping with 'db' and 'pages' keys"
  | .driverUnset => "db.driver must be set"
  | .pagesNotList => "pages must be a list"
  | .pageNotMapping => "each page must be a mapping"
  | .patternEmpty => "pages.pattern must be non-empty; found ''"
  | .queriesNotMapping pattern => s!"{pattern}: queries must be a mapping of name to SQL"
  | .invalidQuery pattern name => s!"{pattern}:{name}: invalid SQL query"
  | .severalFiles paths => "several config files exist: " ++ ", ".intercalate paths
  | .unreadable reason => s!"unable to read file: {reason.message}"

/-- A problem and the line it was found on, if it is known. -/
structure Defect where
  problem : Problem
  line : Option Nat
  deriving DecidableEq, Repr

inductive LoadError where
  | defect (source : String) (defect : Defect)
  | unknownDriver (e : UnknownDriver)
  | fileNotFound (name : String) (tried : Option (List String))
  | emptyName (path : String)
  | unreachable (path : Path) (e : SystemError)
  | charset (e : Charset.Error)
  | queryBytes (fault : Encoding.Fault)
  | scalar (e : Scalar.Invalid)
  /-- The text holds half of a surrogate pair. -/
  | surrogate
  deriving DecidableEq, Repr

/-- The library's own failure that the error is reported as, if it is one. -/
def LoadError.failure? : LoadError → Option Failure
  | .defect source found =>
    some (.parse (.text source) (.text found.problem.text)
      (.ofOption (fun line => .int (line : Nat)) found.line))
  | .unknownDriver e => some e.failure
  | .fileNotFound name tried => some (.fileNotFound (.text name)
      (.ofOption (fun tried => .text (" or ".intercalate tried)) tried))
  | .emptyName _ | .unreachable .. | .charset _ | .queryBytes _ | .scalar _ | .surrogate => none

def LoadError.message (e : LoadError) : String :=
  match e with
  | .emptyName path => s!"PosixPath({path.quoted}) has an empty name"
  | .unreachable path e => e.messageAt path
  | .charset e => e.message
  | .queryBytes fault => fault.message
  | .scalar e => e.message
  | .surrogate => "surrogate without its other half"
  | e => (e.failure?.map Failure.message).getD ""

end SqlRoutes.Route
