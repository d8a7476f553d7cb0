import SqlRoutes.Text.Blank
import SqlRoutes.Text.Case

/-!
Arguments of the command line. Options may have their value attached (`--format=json`, `-dmysql`)
or after them; of an option given twice the last one counts; two dashes end the options.
-/
namespace SqlRoutes.Command

inductive Format where
  | text
  | json
  deriving DecidableEq, Repr

def Format.ofName? (name : String) : Option Format :=
  [("text", .text), ("json", .json)].lookup name

inductive Action where
  | tokens (sql : String)
  | bind (sql driver : String) (strict : Option Bool) (format : Format)
  | routes (config : String) (strict : Option Bool) (format : Format)
  deriving DecidableEq, Repr

inductive Request where
  | help
  | run (level : String) (action : Action)
  deriving DecidableEq, Repr

inductive Setting where
  | level (word : String)
  | driver (name : String)
  | strict (on : Bool)
  | format (name : String)
  | help
  deriving DecidableEq, Repr

/-- An option is a setting by itself, or becomes one with a value. -/
inductive Meaning where
  | flag (setting : Setting)
  | valued (make : String → Setting)

/-- An option in the arguments: complete, or with its value still to come. -/
inductive Reading where
  | complete (setting : Setting)
  | pending (make : String → Setting)

abbrev Switches := List (String × Meaning)

def helpSwitch : String × Meaning := ("--help", .flag .help)

def levelSwitches : Switches := [("--log-level", .valued .level), helpSwitch]

def tokensSwitches : Switches := [helpSwitch]

def routesSwitches : Switches :=
  [("--strict", .flag (.strict true)), ("--no-strict", .flag (.strict false)),
   ("--format", .valued .format), helpSwitch]

def bindSwitches : Switches :=
  [("--driver", .valued .driver), ("-d", .valued .driver)] ++ routesSwitches

namespace Switches

def readLong? (switches : Switches) (name : String) (attached : Option String) : Option Reading :=
  match switches.lookup name, attached with
  | some (.valued make), some value => some (.complete (make value))
  | some (.valued make), none => some (.pending make)
  | some (.flag setting), none => some (.complete setting)
  | _, _ => none

/-- An option of one letter; the letters after it are its value. -/
def readShort? (switches : Switches) (letter : Char) (attached : List Char) : Option Reading :=
  match switches.lookup (.ofList ['-', letter]) with
  | some (.valued make) =>
    some (if attached.isEmpty then .pending make else .complete (make (.ofList attached)))
  | _ => none

def read? (switches : Switches) (arg : List Char) : Option Reading :=
  match arg with
  | '-' :: '-' :: _ =>
    match Text.cut? '=' arg with
    | some (name, value) => switches.readLong? (.ofList name) (some (.ofList value))
    | none => switches.readLong? (.ofList arg) none
  | '-' :: letter :: attached => switches.readShort? letter attached
  | _ => none

/-- Separates settings and operands. Unless they are `mixed`, the first operand ends the options. -/
def separate? (switches : Switches) (mixed : Bool) :
    List String → Option (List Setting × List String)
  | [] => some ([], [])
  | arg :: rest =>
    if arg = "--" then some ([], rest)
    else if "-".isPrefixOf arg && arg ≠ "-" then
      match switches.read? arg.toList, rest with
      | some (.complete setting), rest =>
        (switches.separate? mixed rest).map fun parts => (setting :: parts.1, parts.2)
      | some (.pending make), value :: rest =>
        (switches.separate? mixed rest).map fun parts => (make value :: parts.1, parts.2)
      | _, _ => none
    else if mixed then
      (switches.separate? mixed rest).map fun parts => (parts.1, arg :: parts.2)
    else some ([], arg :: rest)

end Switches

def last? {α : Type} (value? : Setting → Option α) (settings : List Setting) : Option α :=
  settings.reverse.findSome? value?

def driver? (settings : List Setting) : Option String :=
  last? (fun | .driver name => some name | _ => none) settings

def strict? (settings : List Setting) : Option Bool :=
  last? (fun | .strict on => some on | _ => none) settings

/-- The output format, which is text unless a known one is named. -/
def format? (settings : List Setting) : Option Format :=
  match last? (fun | .format name => some name | _ => none) settings with
  | none => some .text
  | some name => Format.ofName? name

def levels : List String := ["DEBUG", "INFO", "WARNING", "ERROR"]

/-- The level of the log, warnings unless a known one is named in any case. -/
def level? (settings : List Setting) : Option String :=
  match last? (fun | .level word => some word | _ => none) settings with
  | none => some "WARNING"
  | some word => levels.find? fun name => Text.lower name.toList = Text.lower word.toList

/-- The action of a command with its arguments; none if they do not fit. -/
def action? (command : String) (settings : List Setting) (operands : List String) :
    Option Action :=
  match command, operands with
  | "tokens", [sql] => some (.tokens sql)
  | "bind", [sql] => do
    let driver ← driver? settings
    let format ← format? settings
    return .bind sql driver (strict? settings) format
  | "routes", [config] => do
    let format ← format? settings
    return .routes config (strict? settings) format
  | _, _ => none

def commands : List (String × Switches) :=
  [("tokens", tokensSwitches), ("bind", bindSwitches), ("routes", routesSwitches)]

/-- What a command line asks for; none if it is not understood. -/
def request? (args : List String) : Option Request := do
  let (general, rest) ← levelSwitches.separate? false args
  if general.contains .help then return .help
  let level ← level? general
  match rest with
  | [] => failure
  | command :: rest =>
    let switches ← commands.lookup command
    let (settings, operands) ← switches.separate? true rest
    if settings.contains .help then return .help
    let action ← action? command settings operands
    return .run level action

end SqlRoutes.Command
