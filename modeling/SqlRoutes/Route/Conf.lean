import SqlRoutes.Route.Basic
import SqlRoutes.Text.Lines

/-!
The line format of route configurations. The first line names the driver; blank lines separate
routes; a route is a line with its method and pattern and lines `name: statement` after it, each
continued by indented lines.
-/
namespace SqlRoutes.Route.Conf

inductive Line where
  | blank
  /-- An unindented line that starts with a method: its words. -/
  | path (words : List (List Char))
  /-- Any other unindented line: the parts before and after the first colon. -/
  | query (parts : Option (List Char × List Char))
  /-- An indented line. -/
  | continuation (text : List Char)
  deriving DecidableEq, Repr

def Line.ofText (line : List Char) : Line :=
  let stripped := Text.strip line
  if stripped.isEmpty then .blank
  else if line.head?.any Text.isBlank then .continuation stripped
  else
    let words := Text.words stripped
    if methods.contains (String.ofList (words.headD [])) then .path words
    else .query (Text.cut? ':' stripped)

/-- A route whose block is not finished. The last query is written in `parts` until it is joined. -/
structure Draft where
  method : String
  pattern : String
  line : Nat
  queries : List (String × String)
  parts : List (List Char)
  deriving DecidableEq, Repr

/-- The parts of a statement that are not empty, with a blank between them. -/
def joinParts (parts : List (List Char)) : String :=
  .ofList ([' '].intercalate (parts.filter fun part => !part.isEmpty))

/-- Joins the pending parts into the statement of the last query. -/
def Draft.flush (draft : Draft) : Draft :=
  if draft.parts.isEmpty then draft
  else
    match draft.queries.getLast? with
    | none => draft
    | some (name, _) =>
      { draft with
        queries := draft.queries.dropLast ++ [(name, joinParts draft.parts)]
        parts := [] }

/-- Starts a query after the ones so far; its statement is still to be joined. -/
def Draft.begin (draft : Draft) (name sql : List Char) : Draft :=
  { draft with
    queries := draft.queries ++ [(.ofList (Text.strip name), "")]
    parts := [Text.strip sql] }

structure State where
  routes : List Route
  draft : Option Draft
  deriving DecidableEq, Repr

def State.start : State := ⟨[], none⟩

/-- Registers the route whose block has ended, if there is one. -/
def State.finish (p : Placeholder) (state : State) : Log.Traced Defect State :=
  match state.draft with
  | none => return state
  | some draft => do
    let draft := draft.flush
    let routes ← register p state.routes draft.method draft.pattern draft.queries (some draft.line)
    return ⟨routes, none⟩

def State.feed (p : Placeholder) (state : State) (number : Nat) (line : List Char) :
    Log.Traced Defect State :=
  match Line.ofText line, state.draft with
  | .blank, _ => state.finish p
  | .path _, some _ => .fail ⟨.routesNotSeparated, number⟩
  | .path [method, pattern], none =>
    return { state with draft := some ⟨.ofList method, .ofList pattern, number, [], []⟩ }
  | .path _, none => .fail ⟨.invalidPathLine, number⟩
  | .query _, none => .fail ⟨.strayQuery, number⟩
  | .query none, some _ => .fail ⟨.colonMissing, number⟩
  | .query (some (name, sql)), some draft =>
    return { state with draft := some (draft.flush.begin name sql) }
  | .continuation _, none => .fail ⟨.strayContinuation, number⟩
  | .continuation text, some draft =>
    if draft.parts.isEmpty then .fail ⟨.strayContinuation, number⟩
    else return { state with draft := some { draft with parts := draft.parts ++ [text] } }

/-- Feeds lines, the first of them with the given number. -/
def State.feedAll (p : Placeholder) (state : State) (number : Nat) :
    List (List Char) → Log.Traced Defect State
  | [] => return state
  | line :: lines => do
    let state ← state.feed p number line
    state.feedAll p (number + 1) lines

/-- The driver and its options: what stands before and after the first space. -/
def driverLine (line : List Char) : String × String :=
  let stripped := Text.strip line
  match Text.cut? ' ' stripped with
  | some (driver, options) =>
    (.ofList (Text.strip driver), .ofList (Text.strip options))
  | none => (.ofList stripped, "")

def routes (p : Placeholder) (lines : List (List Char)) : Log.Traced Defect (List Route) := do
  let state ← State.start.feedAll p 2 lines
  let state ← state.finish p
  return state.routes

def parseLines (source : String) (strict : Bool) (lines : List (List Char)) :
    Log.Traced LoadError RouteConfig :=
  match lines with
  | [] => .fail (.defect source ⟨.driverLineMissing, some 1⟩)
  | first :: lines =>
    if (Text.strip first).isEmpty then .fail (.defect source ⟨.driverLineMissing, some 1⟩)
    else do
      let (driver, options) := driverLine first
      let binding ← (Binding.forDriver [] strict driver).mapError .unknownDriver
      let routes ← (routes binding.placeholder lines).mapError (.defect source)
      return ⟨driver, options, binding, routes⟩

/-- Reads a configuration; `source` names it in messages. -/
def parse (source : String) (strict : Bool) (text : List Char) : Log.Traced LoadError RouteConfig :=
  parseLines source strict (Text.splitLines text)

end SqlRoutes.Route.Conf
