import SqlRoutes.Value.Slots

/-!
Values that share their parts and may contain themselves: a graph of cells, which name each other
by their places. The text of a collection shows a collection inside itself by its brackets alone.
-/
namespace SqlRoutes

abbrev Place := Nat

inductive Cell where
  | atom (a : Atom)
  /-- The undefined number that stands in a document by its name. It is one value, wherever that
  is; the numbers that are computed to be undefined are others. -/
  | undefined
  | list (items : List Place)
  /-- A list of pairs. -/
  | pairs (entries : List (Place × Place))
  | set (members : List Place)
  | map (entries : List (Place × Place))
  deriving Inhabited

namespace Cell

@[match_pattern] abbrev null : Cell := .atom .null

@[match_pattern] abbrev text (s : String) : Cell := .atom (.text s)

@[match_pattern] abbrev bytes (content : List UInt8) : Cell := .atom (.bytes content)

def truthy : Cell → Bool
  | .atom a => a.truthy
  | .undefined => true
  | .list items | .set items => !items.isEmpty
  | .pairs entries | .map entries => !entries.isEmpty

def weight? : Cell → Option Int
  | .atom a => a.weight?
  | _ => none

def isCollection : Cell → Bool
  | .atom _ | .undefined => false
  | _ => true

/-- Whether two cells at different places are the same key. -/
def same : Cell → Cell → Bool
  | .atom a, .atom b => a.same b
  | .undefined, .undefined => true
  | _, _ => false

end Cell

structure Graph where
  cells : Array Cell
  root : Place

namespace Graph

def single (atom : Atom) : Graph := ⟨#[.atom atom], 0⟩

def cell (graph : Graph) (place : Place) : Cell := graph.cells.getD place .null

def rootCell (graph : Graph) : Cell := graph.cell graph.root

def field? (graph : Graph) (entries : List (Place × Place)) (name : String) : Option Place :=
  (entries.find? fun entry => (graph.cell entry.1).same (.text name)).map (·.2)

def cellAt (graph : Graph) (place : Option Place) : Cell := (place.map graph.cell).getD .null

/-- The form of a value inside the collections at the places `around`. Every level adds another
place to them, so a `depth` above the number of all places is enough. -/
def described (graph : Graph) : Nat → List Place → Place → Except Overlong String
  | 0, _, _ => .ok ""
  | depth + 1, around, place =>
    let inner := graph.described depth (place :: around)
    let inside := around.contains place
    let parts (left right : String) (items : List Place) : Except Overlong String := do
      let texts ← items.mapM inner
      return left ++ ", ".intercalate texts ++ right
    match graph.cell place with
    | .atom a => a.bounded Atom.described
    | .undefined => .ok "nan"
    | .list items => if inside then .ok "[...]" else parts "[" "]" items
    | .pairs entries =>
      if inside then .ok "[...]"
      else do
        let texts ← entries.mapM fun entry => parts "(" ")" [entry.1, entry.2]
        return "[" ++ ", ".intercalate texts ++ "]"
    | .set [] => .ok "set()"
    | .set members => parts "\x7b" "\x7d" members
    | .map entries =>
      if inside then .ok "\x7b...\x7d"
      else do
        let texts ← entries.mapM fun entry => do
          return (← inner entry.1) ++ ": " ++ (← inner entry.2)
        return "\x7b" ++ ", ".intercalate texts ++ "\x7d"

def display (graph : Graph) (place : Place) : Except Overlong String :=
  match graph.cell place with
  | .atom a => a.bounded Atom.display
  | _ => graph.described (graph.cells.size + 1) [] place

end Graph

end SqlRoutes
