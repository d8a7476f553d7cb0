import SqlRoutes.Text.Quoted

namespace SqlRoutes

/-- A root of no, one or two slashes, and the names after it. Empty names and single dots are left
out. -/
structure Path where
  root : String
  names : List String
  deriving DecidableEq, Repr

namespace Path

def pieces (text : List Char) : List (List Char) :=
  text.foldr (fun c pieces =>
    if c = '/' then [] :: pieces
    else
      match pieces with
      | [] => [[c]]
      | piece :: pieces => (c :: piece) :: pieces) [[]]

def rootOf : List Char → String
  | '/' :: '/' :: '/' :: _ => "/"
  | '/' :: '/' :: _ => "//"
  | '/' :: _ => "/"
  | _ => ""

def ofString (text : String) : Path :=
  let names := (pieces text.toList).filter fun name => !name.isEmpty && name ≠ ['.']
  ⟨rootOf text.toList, names.map String.ofList⟩

def text (path : Path) : String :=
  let body := path.root ++ "/".intercalate path.names
  if body = "" then "." else body

def name (path : Path) : String := path.names.getLast?.getD ""

/-- The last dot of a name with what follows it, unless the dot is the first or last character. -/
def suffixOf (name : List Char) : List Char :=
  let tail := (name.reverse.takeWhile (· ≠ '.')).reverse
  let before := name.length - tail.length - 1
  if tail.isEmpty || before = 0 || tail.length = name.length then [] else '.' :: tail

def suffix (path : Path) : String := .ofList (suffixOf path.name.toList)

/-- Whether a text ends as only the path of a directory can. -/
def endsOpen (text : String) : Bool :=
  match (pieces text.toList).getLast? with
  | none | some [] | some ['.'] => true
  | some _ => false

/-- The path with a text appended to its name, which must not be empty. -/
def extend? (path : Path) (more : String) : Option Path :=
  match path.names.getLast? with
  | none => none
  | some name => some { path with names := path.names.dropLast ++ [name ++ more] }

end Path

end SqlRoutes
