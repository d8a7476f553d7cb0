import SqlRoutes.Files.Entry
import SqlRoutes.Route.Conf
import SqlRoutes.Route.Document
import SqlRoutes.Yaml.Document

namespace SqlRoutes.Route

def yamlError (source : String) : Yaml.Failure → LoadError
  | .problem _ line => .defect source ⟨.invalidYaml, line⟩
  | .scalar e => .scalar e
  | .surrogate => .surrogate

/-- Reads a configuration in the document format; `source` names it in messages. -/
def parseYaml (source : String) (strict : Bool) (text : List Char) :
    Log.Traced LoadError RouteConfig := do
  let document ← .ofExcept ((Yaml.load text).mapError (yamlError source))
  Document.load source strict document

def suffixes : List String := [".conf", ".yaml", ".yml"]

/-- The paths that a path becomes with each of the suffixes, if it has a name. -/
def candidates? (base : Path) : Option (List Path) := suffixes.mapM base.extend?

def obstacle? (files : Files) (path : Path) : Option LoadError :=
  (files.obstacle? path).map (.unreachable path)

/-- The files among some paths, which are looked up in their order. -/
def existing (files : Files) (paths : List Path) : Except LoadError (List Path) :=
  match paths.findSome? (obstacle? files) with
  | some e => .error e
  | none => .ok (paths.filter files.isFile)

/-- The file for a path: itself, if it has one of the suffixes, or else the only file that the path
becomes with one of them. -/
def locate (files : Files) (base : Path) : Except LoadError Path := do
  if suffixes.contains base.suffix then
    match ← existing files [base] with
    | [] => throw (.fileNotFound base.text none)
    | path :: _ => return path
  else
    match candidates? base with
    | none => throw (.emptyName base.text)
    | some tried =>
      match ← existing files tried with
      | [] => throw (.fileNotFound base.text (some (tried.map Path.text)))
      | [path] => return path
      | several => throw (.defect base.text ⟨.severalFiles (several.map Path.text), none⟩)

/-- How an error of the system is reported while a file is opened or read. -/
def unread (path : Path) (e : SystemError) (reason : Unreadable) : LoadError :=
  if e.number = SystemError.absent.number then .fileNotFound path.text none
  else .defect path.text ⟨.unreadable reason, none⟩

def decoded (path : Path) (charset : Charset) (content : List UInt8) :
    Except LoadError (List Char) :=
  match charset.decode content with
  | .ok text => .ok (Text.unifyBreaks text)
  | .error (.undecodable fault) =>
    .error (.defect path.text ⟨.unreadable (.undecodable fault), none⟩)
  | .error .surrogate => .error .surrogate
  | .error e => .error (.charset e)

/-- The text of a file. A zero in the name of the encoding is refused at once; any other name is
looked up when the file has been opened, and before it is read. -/
def readText (files : Files) (path : Path) (encoding : String) : Except LoadError (List Char) :=
  match files.reading path, Charset.ofName encoding with
  | _, .error .zeroInName => .error (.charset .zeroInName)
  | .unopened e, _ => .error (unread path e (.unopened path e))
  | _, .error e => .error (.charset e)
  | .interrupted e, .ok _ => .error (unread path e (.interrupted e))
  | .content content, .ok charset => decoded path charset content

def loadRecord (path : Path) : Log.Record where
  level := .debug
  logger := "sqlbind.loader"
  message := s!"Loading route configuration from {path.text}"
  fields := none

/-- Reads the configuration of a file, in the format that its suffix tells. -/
def loadFile (files : Files) (strict : Bool) (encoding : String) (path : Path) :
    Log.Traced LoadError RouteConfig := do
  let text ← .ofExcept (readText files path encoding)
  .log (loadRecord path)
  if path.suffix = ".conf" then Conf.parse path.text strict text
  else parseYaml path.text strict text

def load (files : Files) (strict : Bool) (encoding : String) (base : String) :
    Log.Traced LoadError RouteConfig := do
  let path ← .ofExcept (locate files (Path.ofString base))
  loadFile files strict encoding path

end SqlRoutes.Route
