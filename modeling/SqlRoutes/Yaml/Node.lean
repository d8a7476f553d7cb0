import SqlRoutes.Value.Graph
import SqlRoutes.Yaml.Event
import SqlRoutes.Yaml.Tag

/-!
From events to the nodes of a document. Nodes name each other by their places, so an alias is the
place of its anchor's node, even inside that node.
-/
namespace SqlRoutes.Yaml

abbrev Entries := List (Place × Place)

inductive Content where
  | scalar (text : List Char)
  | sequence (items : List Place)
  | mapping (entries : Entries)
  deriving DecidableEq, Repr, Inhabited

structure Node where
  tag : Tag
  line : Nat
  content : Content
  deriving DecidableEq, Repr

instance : Inhabited Node := ⟨⟨.null, 0, default⟩⟩

abbrev Nodes := Array Node

/-- A collection that is not finished, with its items or entries in reverse. A mapping may have a
key that waits for its value. -/
inductive Frame where
  | sequence (place : Place) (items : List Place)
  | mapping (place : Place) (entries : Entries) (key : Option Place)
  deriving DecidableEq, Repr

/-- The nodes so far, the open collections from the inside out, the places of the anchors, and the
root of the document when it is complete. -/
structure Composition where
  nodes : Nodes
  frames : List Frame
  anchors : List (List Char × Place)
  root : Option Place
  deriving DecidableEq, Repr

namespace Composition

def empty : Composition := ⟨#[], [], [], none⟩

def typed (tag : Option (List Char)) (default : Tag) : Tag :=
  match tag with
  | none => default
  | some name => if name = ['!'] then default else .ofName name

def add (composition : Composition) (place : Place) : Composition :=
  match composition.frames with
  | [] => { composition with root := some place }
  | .sequence outer items :: frames =>
    { composition with frames := .sequence outer (place :: items) :: frames }
  | .mapping outer entries none :: frames =>
    { composition with frames := .mapping outer entries (some place) :: frames }
  | .mapping outer entries (some key) :: frames =>
    { composition with frames := .mapping outer ((key, place) :: entries) none :: frames }

/-- A new node at the next place, which its anchor names from now on. An anchor may be given
once. -/
def place (composition : Composition) (anchor : Option (List Char)) (node : Node) :
    Except Failure Composition :=
  match anchor with
  | none => .ok { composition with nodes := composition.nodes.push node }
  | some anchor =>
    if (composition.anchors.lookup anchor).isSome then
      .error (.problem .duplicateAnchor (some (node.line + 1)))
    else
      let anchors := (anchor, composition.nodes.size) :: composition.anchors
      .ok { composition with nodes := composition.nodes.push node, anchors }

def enter (composition : Composition) (frame : Frame) : Composition :=
  { composition with frames := frame :: composition.frames }

/-- Gives a collection its content, and puts it where it belongs. -/
def finish (composition : Composition) (place : Place) (content : Content) : Composition :=
  { composition with
    nodes := composition.nodes.modify place fun node => { node with content } }.add place

def close (composition : Composition) : Composition :=
  match composition.frames with
  | [] => composition
  | .sequence place items :: frames =>
    { composition with frames }.finish place (.sequence items.reverse)
  | .mapping place entries _ :: frames =>
    { composition with frames }.finish place (.mapping entries.reverse)

def step (composition : Composition) (event : Event) : Except Failure Composition := do
  let here := composition.nodes.size
  match event.kind with
  | .documentStart =>
    if composition.root.isSome then throw (.problem .secondDocument (some (event.line + 1)))
    return composition
  | .documentEnd => return { composition with anchors := [] }
  | .streamEnd => return composition
  | .alias name =>
    match composition.anchors.lookup name with
    | some place => return composition.add place
    | none => throw (.problem .undefinedAlias (some (event.line + 1)))
  | .scalar anchor tag text plain =>
    let tag := typed tag (if plain then .ofPlain text else .str)
    return (← composition.place anchor ⟨tag, event.line, .scalar text⟩).add here
  | .sequenceStart anchor tag =>
    let node : Node := ⟨typed tag .seq, event.line, .sequence []⟩
    return (← composition.place anchor node).enter (.sequence here [])
  | .mappingStart anchor tag =>
    let node : Node := ⟨typed tag .map, event.line, .mapping []⟩
    return (← composition.place anchor node).enter (.mapping here [] none)
  | .sequenceEnd | .mappingEnd => return composition.close

def ofEvents (row : EventRow) : Except Failure Composition := do
  let composition ← row.events.foldlM step .empty
  match row.failure with
  | some failure => throw failure
  | none => return composition

end Composition

end SqlRoutes.Yaml
