import SqlRoutes.Files.Path
import SqlRoutes.Log.Layout
import SqlRoutes.Text.Case

namespace SqlRoutes.Log

def rootName : String := "sqlbind"

/-- The name of the library's logger for a name. Names that do not start with the root's are put
below it. -/
def loggerName : Option String → String
  | none => rootName
  | some name => if rootName.isPrefixOf name then name else s!"{rootName}.{name}"

/-- Whether a logger is the root or below it, so that the setup applies to its records. Of dots in
a row every other one, counted from the last, has no name before it. -/
def isGoverned (logger : String) : Bool :=
  logger = rootName ||
    rootName.isPrefixOf logger &&
      ((logger.toList.drop rootName.length).takeWhile (· = '.')).length % 2 = 1

/-- Where records go. Files have the structured layout and are known by their paths; a collector
keeps the bare messages. -/
inductive Sink where
  | console (structured : Bool)
  | file (name : String)
  | collector
  deriving DecidableEq, Repr

structure Setup where
  level : Level
  sinks : List Sink
  propagates : Bool
  deriving DecidableEq, Repr

structure Options where
  level : String := "INFO"
  style : Option String := some "structured"
  file : Option String := none
  collectors : Nat := 0
  deriving DecidableEq, Repr

def levelWords : List (String × Level) :=
  [("NOTSET", 0), ("DEBUG", .debug), ("INFO", .info), ("WARN", .warning), ("WARNING", .warning),
   ("ERROR", .error), ("FATAL", .critical), ("CRITICAL", .critical)]

def textWords : List (String × String) :=
  [("BASIC_FORMAT", "%(levelname)s:%(name)s:%(message)s")]

/-- Words of the log's vocabulary that stand for something else, by its form. -/
def otherWords : List (String × String) :=
  [("_STYLES", "\x7b'%': (<class 'logging.PercentStyle'>, " ++
    "'%(levelname)s:%(name)s:%(message)s'), '\x7b': (<class 'logging.StrFormatStyle'>, " ++
    "'\x7blevelname\x7d:\x7bname\x7d:\x7bmessage\x7d'), '$': " ++
    "(<class 'logging.StringTemplateStyle'>, " ++
    "'$\x7blevelname\x7d:$\x7bname\x7d:$\x7bmessage\x7d')\x7d")]

/-- Why a word, in upper case, is not the name of a level: it means nothing, a text, or something
else. -/
inductive NoLevel where
  | unknown (word : String)
  | text (meaning : String)
  | other (form : String)
  deriving DecidableEq, Repr

def NoLevel.message : NoLevel → String
  | .unknown word => s!"module 'logging' has no attribute '{word}'"
  | .text meaning => s!"Unknown level: {meaning.quoted}"
  | .other form => s!"Level not an integer or a valid string: {form}"

def Level.ofWord (word : String) : Except NoLevel Level :=
  let upper := String.ofList (Text.upper word.toList)
  match levelWords.lookup upper, textWords.lookup upper, otherWords.lookup upper with
  | some level, _, _ => .ok level
  | none, some meaning, _ => .error (.text meaning)
  | none, none, some form => .error (.other form)
  | none, none, none => .error (.unknown upper)

namespace Setup

def initial : Setup := ⟨0, [], true⟩

/-- Level zero leaves the choice to the level above the library, which is that of warnings. -/
def threshold (setup : Setup) : Level := if setup.level = 0 then .warning else setup.level

def takes (setup : Setup) (record : Record) : Bool :=
  isGoverned record.logger && setup.threshold ≤ record.level

def ofOptions (options : Options) (level : Level) : Setup where
  level := level
  sinks :=
    .console (options.style = some "structured") ::
      ((options.file.filter (· ≠ "")).toList.map (fun name => .file (Path.ofString name).text) ++
        List.replicate options.collectors .collector)
  propagates := false

def record (setup : Setup) (options : Options) : Record where
  level := .debug
  logger := rootName
  message := "sqlbind logging configured"
  fields := some [(.text "level", .text options.level),
    (.text "format_style", Value.ofOption .text options.style),
    (.text "handlers_count", .int setup.sinks.length)]

def configure (options : Options) : Except NoLevel (Setup × Record) := do
  let level ← Level.ofWord options.level
  let setup := ofOptions options level
  return (setup, setup.record options)

def files (setup : Setup) : List String :=
  setup.sinks.filterMap fun sink =>
    match sink with
    | .file name => some name
    | _ => none

end Setup

/-- What one record leads to: lines on the console, lines in files, and collected messages. -/
structure Delivery where
  console : List String
  files : List (String × String)
  collected : List String
  deriving DecidableEq, Repr

namespace Delivery

def empty : Delivery := ⟨[], [], []⟩

def append (first second : Delivery) : Delivery :=
  ⟨first.console ++ second.console, first.files ++ second.files,
    first.collected ++ second.collected⟩

end Delivery

/-- The line of a record in the structured layout, unless it has none. -/
def structuredText? (origin : Origin) (record : Record) : Option String :=
  match structuredLine origin record none with
  | .ok line => some (.ofList line)
  | .error _ => none

def Sink.deliver (origin : Origin) (record : Record) : Sink → Delivery
  | .console true => { Delivery.empty with console := (structuredText? origin record).toList }
  | .console false => { Delivery.empty with console := [plainLine origin record] }
  | .file name =>
    { Delivery.empty with files := (structuredText? origin record).toList.map (name, ·) }
  | .collector => { Delivery.empty with collected := [record.message] }

def Setup.deliver (origin : Origin) (setup : Setup) (record : Record) : Delivery :=
  if setup.takes record then
    setup.sinks.foldl (fun done sink => done.append (sink.deliver origin record)) .empty
  else .empty

end SqlRoutes.Log
