import SqlRoutes.Json.Writer
import SqlRoutes.Log.Record

namespace SqlRoutes.Log

structure Origin where
  time : String
  unit : String
  routine : String
  line : Nat
  deriving DecidableEq, Repr

structure Trouble where
  name : String
  text : String
  deriving DecidableEq, Repr

namespace Trouble

def line (trouble : Trouble) : String :=
  if trouble.text = "" then trouble.name else s!"{trouble.name}: {trouble.text}"

/-- What the errors of the system with a name of their own are called, by their numbers. -/
def systemNames : List (Int × String) :=
  [(1, "PermissionError"), (2, "FileNotFoundError"), (3, "ProcessLookupError"),
   (4, "InterruptedError"), (10, "ChildProcessError"), (11, "BlockingIOError"),
   (13, "PermissionError"), (17, "FileExistsError"), (20, "NotADirectoryError"),
   (21, "IsADirectoryError"), (32, "BrokenPipeError"), (103, "ConnectionAbortedError"),
   (104, "ConnectionResetError"), (108, "BrokenPipeError"), (110, "TimeoutError"),
   (111, "ConnectionRefusedError"), (114, "BlockingIOError"), (115, "BlockingIOError")]

def isSystem (name : String) : Bool :=
  name = "OSError" || name = "ConnectionError" || (systemNames.map (·.2)).contains name

/-- The text of an error that was given values: of one value its text, of several their form as a
tuple. A missing key is shown in its inner form. An error of the system with a number and a text
shows both, and the file that it is about, unless it has a count there of what was written; an error
of grammar shows its first value alone. -/
def ofValues (name : String) (values : List Value) : Trouble :=
  let name := if name = "IOError" || name = "EnvironmentError" then "OSError" else name
  if isSystem name && 2 ≤ values.length && values.length ≤ 5 then
    let number := values.getD 0 .null
    let known := systemNames.find? fun (i, _) => (Value.int i).same number
    let called := if name = "OSError" then (known.map (·.2)).getD name else name
    let text := s!"[Errno {number.display}] {(values.getD 1 .null).display}"
    let isCount := ["int", "bool"].contains (values.getD 2 .null).kindName
    match if called = "BlockingIOError" && isCount then [] else values.drop 2 with
    | [] | .null :: _ => ⟨called, text⟩
    | [file] | [file, _] | [file, _, .null] => ⟨called, s!"{text}: {file.described}"⟩
    | file :: _ :: other :: _ => ⟨called, s!"{text}: {file.described} -> {other.described}"⟩
  else if ["SyntaxError", "IndentationError", "TabError"].contains name then
    match values.head?.filter Value.truthy with
    | some value => ⟨name, value.display⟩
    | none => ⟨name, "<no detail available>"⟩
  else
    match values with
    | [] => ⟨name, ""⟩
    | [value] => ⟨name, if name = "KeyError" then value.described else value.display⟩
    | values => ⟨name, (Value.tuple values).described⟩

end Trouble

def plainLine (origin : Origin) (record : Record) : String :=
  s!"{origin.time} - {record.logger} - {record.level.name} - {record.message}"

def ownFields (origin : Origin) (record : Record) : List (Value × Value) :=
  [(.text "timestamp", .text origin.time), (.text "level", .text record.level.name),
   (.text "logger", .text record.logger), (.text "message", .text record.message),
   (.text "module", .text origin.unit), (.text "function", .text origin.routine),
   (.text "line", .int origin.line)]

def structuredFields (origin : Origin) (record : Record) (trouble : Option Trouble) :
    List (Value × Value) :=
  let fields := (record.fields.getD []).foldl (fun fields field =>
    Value.insertEntry fields field.1 field.2) (ownFields origin record)
  match trouble with
  | none => fields
  | some trouble => Value.insertEntry fields (.text "exception") (.text trouble.line)

def structuredLine (origin : Origin) (record : Record) (trouble : Option Trouble) :
    Except Json.Unwritable (List Char) :=
  Json.write (.map (structuredFields origin record trouble))

end SqlRoutes.Log
