import SqlRoutes.Encoding.Base64
import SqlRoutes.Yaml.Merge

/-!
From nodes to a graph of values. Collections are filled level by level: of several faults the one
nearest to the root is reported, and among those the first.
-/
namespace SqlRoutes.Yaml

def fault {α : Type} (cause : Cause) (line : Nat) : Except Failure α :=
  .error (.problem cause (some (line + 1)))

namespace Nodes

/-- The text of a scalar; a mapping with the key `=` has that entry's text. -/
def text (nodes : Nodes) : Nat → Place → Except Failure (List Char)
  | 0, _ => .error (.scalar .endless)
  | depth + 1, place =>
    let node := nodes.node place
    match node.content with
    | .scalar text => .ok text
    | .sequence _ => fault .wrongNode node.line
    | .mapping entries =>
      match entries.find? fun entry => (nodes.node entry.1).tag = .value with
      | some entry => nodes.text depth entry.2
      | none => fault .wrongNode node.line

def binary (text : List Char) (line : Nat) : Except Failure (List UInt8) :=
  if text.all fun c => c.toNat < 0x80 then
    match Base64.decode text with
    | some content => .ok content
    | none => fault .invalidBinary line
  else fault .invalidBinary line

def typedScalar {α : Type} (outcome : Except Scalar.Invalid α) : Except Failure α :=
  outcome.mapError .scalar

/-- The cell of a node as it is before collections are filled. -/
def opening (nodes : Nodes) (place : Place) : Except Failure Cell :=
  let node := nodes.node place
  let text := nodes.text (nodes.size + 1) place
  match node.tag with
  | .null => do
    let _ ← text
    return .null
  | .bool => do return .atom (.bool (← typedScalar (Scalar.truth (← text))))
  | .int => do return .atom (.int (← typedScalar (Scalar.int (← text))))
  | .float => do
    let text ← text
    if Scalar.namesUndefined text then return .undefined
    else return .atom (.float (← typedScalar (Scalar.float text)))
  | .binary => do return .bytes (← binary (← text) node.line)
  | .timestamp => do
    let text ← text
    match node.content with
    | .scalar _ => return .atom (← typedScalar (Scalar.timestamp text))
    | _ => typedScalar (.error .notText)
  | .str => do return .text (.ofList (← text))
  | .seq => .ok (.list [])
  | .omap | .pairs => .ok (.pairs [])
  | .set => .ok (.set [])
  | .map => .ok (.map [])
  | .merge | .value | .other _ => fault .unknownTag node.line

end Nodes

/-- The cells made so far from the nodes of a document, and the collections that were opened and
are to be filled, the last one first. Merges end within `bound` steps. -/
structure Making where
  nodes : Nodes
  cells : Array (Option Cell)
  opened : List Place
  bound : Nat

abbrev Make := StateT Making (Except Failure)

namespace Make

def node (place : Place) : Make Node := do return (← get).nodes.node place

def setCell (place : Place) (cell : Cell) : Make Unit :=
  modify fun making => { making with cells := making.cells.setIfInBounds place (some cell) }

def cell (place : Place) : Make Cell := do
  return ((← get).cells.getD place none).getD .null

def openNode (place : Place) : Make Unit := do
  let making ← get
  if (making.cells.getD place none).isNone then
    let cell ← making.nodes.opening place
    setCell place cell
    if cell.isCollection then
      modify fun making => { making with opened := place :: making.opened }

/-- Merges into a mapping what it asks for. Meanwhile the nodes are not in the state, so that they
are changed in place. -/
def flatten (place : Place) : Make Unit := do
  let nodes ← modifyGet fun making => (making.nodes, { making with nodes := #[] })
  let nodes ← Nodes.flatten (← get).bound [] nodes place
  modify fun making => { making with nodes }

/-- Adds an entry. A key that is there keeps its place and takes the new value. -/
def insert (cells : Array (Option Cell)) (entries : Entries) (entry : Place × Place) : Entries :=
  let cell (place : Place) : Cell := (cells.getD place none).getD .null
  let meets (other : Place × Place) : Bool :=
    other.1 = entry.1 || (cell other.1).same (cell entry.1)
  if entries.any meets then
    entries.map fun other => if meets other then (other.1, entry.2) else other
  else entries ++ [entry]

/-- Opens keys and values of a mapping in order; gives its entries. Collections are no keys. -/
def fillEntries (place : Place) : Make Entries := do
  let mapping ← node place
  match mapping.content with
  | .mapping _ =>
    flatten place
    let entries := (← get).nodes.entries place
    for (key, value) in entries do
      openNode key
      if (← cell key).isCollection then fault .keyNotHashable (← node key).line
      openNode value
    return entries.foldl (insert (← get).cells) []
  | _ => fault .wrongNode mapping.line

/-- Opens the single entry of an item of an ordered mapping. -/
def fillPair (place : Place) : Make (Place × Place) := do
  let item ← node place
  match item.content with
  | .mapping [(key, value)] =>
    openNode key
    openNode value
    return (key, value)
  | _ => fault .wrongNode item.line

def fill (place : Place) : Make Unit := do
  let node ← node place
  match node.tag, node.content with
  | .seq, .sequence items =>
    items.forM openNode
    setCell place (.list items)
  | .omap, .sequence items | .pairs, .sequence items =>
    setCell place (.pairs (← items.mapM fillPair))
  | .map, _ => setCell place (.map (← fillEntries place))
  | .set, _ =>
    let members := (← fillEntries place).map (·.1)
    let cells := (← get).cells
    let weight? (place : Place) : Option Int := (cells.getD place none).bind Cell.weight?
    setCell place (.set (Slots.ordered weight? members))
  | _, _ => fault .wrongNode node.line

/-- Fills opened collections, and those that are opened meanwhile. Every level opens another
collection. -/
def fillLevels : Nat → Make Unit
  | 0 => return
  | bound + 1 => do
    let making ← get
    if making.opened.isEmpty then return
    else
      set { making with opened := [] }
      making.opened.reverse.forM fill
      fillLevels bound

end Make

def Nodes.graph (nodes : Nodes) (root : Place) : Except Failure Graph := do
  let start : Making :=
    ⟨nodes, Array.replicate nodes.size none, [], nodes.entryCount + 1⟩
  let make : Make Unit := do
    Make.openNode root
    Make.fillLevels (nodes.size + 1)
  let (_, making) ← make start
  return ⟨making.cells.map (·.getD .null), root⟩

/-- Reads the only document of a text; null if there is none. -/
def load (text : List Char) : Except Failure Graph := do
  if !text.all allowed then throw (.problem .characterNotAllowed none)
  let composition ← Composition.ofEvents (eventRow (tokenRow text))
  match composition.root with
  | none => return .single .null
  | some root => composition.nodes.graph root

end SqlRoutes.Yaml
