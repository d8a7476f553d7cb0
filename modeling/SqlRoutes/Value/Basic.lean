import SqlRoutes.Value.Atom

namespace SqlRoutes

inductive Value where
  | atom (a : Atom)
  | list (items : List Value)
  | tuple (items : List Value)
  | set (items : List Value)
  | map (entries : List (Value × Value))
  /-- Something of another kind, known by its text alone, if it has one. -/
  | foreign (shown : Option String)
  deriving Inhabited

namespace Value

@[match_pattern] abbrev null : Value := .atom .null

@[match_pattern] abbrev bool (b : Bool) : Value := .atom (.bool b)

@[match_pattern] abbrev int (i : Int) : Value := .atom (.int i)

@[match_pattern] abbrev float (x : Float) : Value := .atom (.float x)

@[match_pattern] abbrev text (s : String) : Value := .atom (.text s)

@[match_pattern] abbrev bytes (content : List UInt8) : Value := .atom (.bytes content)

def ofOption {α : Type} (value : α → Value) (x : Option α) : Value := (x.map value).getD .null

def truthy : Value → Bool
  | .atom a => a.truthy
  | .list items | .tuple items | .set items => !items.isEmpty
  | .map entries => !entries.isEmpty
  | .foreign _ => true

def kindName : Value → String
  | .atom a => a.kindName
  | .list _ => "list"
  | .tuple _ => "tuple"
  | .set _ => "set"
  | .map _ => "dict"
  | .foreign (some _) => "object"
  | .foreign none => "Broken"

mutual

/-- The form of a value inside another one: texts are in quotes. -/
def described : Value → String
  | .atom a => a.described
  | .list items => "[" ++ ", ".intercalate (describedAll items) ++ "]"
  | .tuple items =>
    match describedAll items with
    | [item] => "(" ++ item ++ ",)"
    | items => "(" ++ ", ".intercalate items ++ ")"
  | .set [] => "set()"
  | .set items => "\x7b" ++ ", ".intercalate (describedAll items) ++ "\x7d"
  | .map entries => "\x7b" ++ ", ".intercalate (describedEntries entries) ++ "\x7d"
  | .foreign shown => shown.getD ""

def describedAll : List Value → List String
  | [] => []
  | item :: items => described item :: describedAll items

def describedEntries : List (Value × Value) → List String
  | [] => []
  | (key, value) :: entries =>
    (described key ++ ": " ++ described value) :: describedEntries entries

end

def display : Value → String
  | .atom a => a.display
  | value => value.described

mutual

/-- Whether two values are the same key. Tuples are when their items are; things of another kind
are all different. -/
def same : Value → Value → Bool
  | .atom a, .atom b => a.same b
  | .tuple items, .tuple others => sameAll items others
  | _, _ => false

def sameAll : List Value → List Value → Bool
  | [], [] => true
  | item :: items, other :: others => same item other && sameAll items others
  | _, _ => false

end

/-- Adds an entry. A key that is there keeps its place and takes the new value. -/
def insertEntry (entries : List (Value × Value)) (key value : Value) : List (Value × Value) :=
  match entries with
  | [] => [(key, value)]
  | entry :: rest =>
    if entry.1.same key then (entry.1, value) :: rest else entry :: insertEntry rest key value

def field (entries : List (Value × Value)) (name : String) : Value :=
  ((entries.find? fun entry => entry.1.same (.text name)).map (·.2)).getD .null

end Value

end SqlRoutes
