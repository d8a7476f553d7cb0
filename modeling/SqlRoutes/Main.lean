import Std.Time.Format
import Std.Time.Zoned
import SqlRoutes.Command.Display
import SqlRoutes.Command.Run

/-!
The command line. It looks at the files that a command may need, runs the command on what it found,
and writes the report.
-/
namespace SqlRoutes.Main

def usage : List String :=
  ["Usage: sqlroutes [--log-level LEVEL] COMMAND",
   "  tokens SQL                                 the tokens of a statement",
   "  bind SQL -d DRIVER [--strict] [--format F]  a statement prepared for a driver",
   "  routes CONFIG [--strict] [--format F]       the routes of a configuration file"]

/-- An error with the number and the words of the system. -/
def systemError : IO.Error → SystemError
  | .alreadyExists _ number reason | .otherError number reason | .resourceBusy number reason
  | .resourceVanished number reason | .unsupportedOperation number reason
  | .hardwareFault number reason | .unsatisfiedConstraints number reason
  | .illegalOperation number reason | .protocolError number reason | .timeExpired number reason
  | .interrupted _ number reason | .noFileOrDirectory _ number reason
  | .invalidArgument _ number reason | .permissionDenied _ number reason
  | .resourceExhausted _ number reason | .inappropriateType _ number reason
  | .noSuchThing _ number reason => ⟨number.toNat, reason⟩
  | .unexpectedEof => ⟨5, "Input/output error"⟩
  | .userError reason => ⟨5, reason⟩

def reading (path : String) : IO FileReading := do
  match ← (IO.FS.Handle.mk path .read).toBaseIO with
  | .error e => return .unopened (systemError e)
  | .ok handle =>
    match ← handle.readBinToEnd.toBaseIO with
    | .ok content => return .content content.toList
    | .error e => return .interrupted (systemError e)

/-- What stands at a path of the file system. An error of opening it is one of looking it up if
nothing is found there. -/
def look (path : String) : IO (Except SystemError FileEntry) := do
  let isThere (path : String) : IO Bool := return (← (IO.FS.realPath path).toBaseIO).isOk
  if ← isThere (path ++ "/") then return .ok .directory
  let reading ← reading path
  match reading with
  | .unopened e =>
    if ← isThere path then
      return .ok (.file (e.number ≠ SystemError.forbidden.number) reading)
    else return .error e
  | _ => return .ok (.file true reading)

/-- What stands at some paths now; other paths are taken to be empty. -/
def snapshot (paths : List Path) : IO Files := do
  let found ← paths.mapM fun path => return (path, ← look path.text)
  return fun path => (found.lookup path).getD (.error .absent)

def paths (args : List String) : List Path :=
  match Command.request? args with
  | some (.run _ (.routes config _ _)) =>
    let base := Path.ofString config
    base :: (Route.candidates? base).getD []
  | _ => []

def origin : IO Log.Origin := do
  let now ← Std.Time.PlainDateTime.now
  return ⟨now.format "uuuu-MM-dd HH:mm:ss,SSS", "Main", "main", 0⟩

def write (report : Command.Report) : IO Unit := do
  for line in report.log do IO.eprintln line
  for item in report.items do
    for line in Command.Item.lines item do IO.println line
  IO.print report.echoed
  match report.broken with
  | some message => IO.eprintln message
  | none => return ()

end SqlRoutes.Main

open SqlRoutes in
def main (args : List String) : IO UInt32 := do
  if Command.request? args = some .help then
    for line in Main.usage do IO.println line
    return 0
  let files ← Main.snapshot (Main.paths args)
  let setting ← IO.getEnv "SQLBIND_STRICT_DRIVER"
  let report := Command.run files setting (← Main.origin) args
  if report.exitCode = 2 then
    for line in Main.usage do IO.eprintln line
  Main.write report
  return UInt32.ofNat report.exitCode
