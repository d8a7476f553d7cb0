import SqlRoutes.Yaml.Node

/-!
Merges between mappings. An entry with the key `<<` is replaced by the entries of other mappings,
which come before the mapping's own. The nodes themselves change, so a mapping is merged once even
if it is shared, and one that merges itself gets what it has by then.
-/
namespace SqlRoutes.Yaml

namespace Nodes

def node (nodes : Nodes) (place : Place) : Node := nodes.getD place default

def entries (nodes : Nodes) (place : Place) : Entries :=
  match (nodes.node place).content with
  | .mapping entries => entries
  | _ => []

def setEntries (nodes : Nodes) (place : Place) (entries : Entries) : Nodes :=
  nodes.modify place fun node => { node with content := .mapping entries }

def asksMerge (nodes : Nodes) (entry : Place × Place) : Bool := (nodes.node entry.1).tag = .merge

/-- What the first merge of a mapping is to bring, and the entries without that merge. -/
def firstMerge? (nodes : Nodes) (place : Place) : Option (Place × Entries) :=
  let entries := nodes.entries place
  let before := entries.takeWhile fun entry => !nodes.asksMerge entry
  match entries.drop before.length with
  | [] => none
  | (_, source) :: after => some (source, before ++ after)

/-- A key `=` of a mapping is a text. -/
def settleKey (nodes : Nodes) (key : Place) : Nodes :=
  nodes.modify key fun node => if node.tag = .value then { node with tag := .str } else node

def prepend (nodes : Nodes) (place : Place) (merged : Entries) : Nodes :=
  let entries := nodes.entries place
  (entries.foldl (fun nodes entry => nodes.settleKey entry.1) nodes).setEntries place
    (merged ++ entries)

def invalidMerge {α : Type} (nodes : Nodes) (place : Place) : Except Failure α :=
  .error (.problem .invalidMerge (some ((nodes.node place).line + 1)))

/-- Merges into a mapping, after the entries `merged` that were gained before. Every merge is taken
out before it is followed, so there are at most as many steps in a row as there are merges. -/
def flatten : Nat → Entries → Nodes → Place → Except Failure Nodes
  | 0, merged, nodes, place => .ok (nodes.prepend place merged)
  | bound + 1, merged, nodes, place =>
    match nodes.firstMerge? place with
    | none => .ok (nodes.prepend place merged)
    | some (source, left) => do
      let nodes := nodes.setEntries place left
      let gain (gained : Entries × Nodes) (item : Place) : Except Failure (Entries × Nodes) :=
        match (gained.2.node item).content with
        | .mapping _ => do
          let nodes ← flatten bound [] gained.2 item
          return (nodes.entries item ++ gained.1, nodes)
        | _ => gained.2.invalidMerge item
      let (gained, nodes) ←
        match (nodes.node source).content with
        | .mapping _ => gain ([], nodes) source
        | .sequence items => items.foldlM gain ([], nodes)
        | .scalar _ => nodes.invalidMerge source
      flatten bound (merged ++ gained) nodes place

/-- The number of entries of all mappings, among them the merges. -/
def entryCount (nodes : Nodes) : Nat :=
  nodes.foldl (fun count node =>
    match node.content with
    | .mapping entries => count + entries.length
    | _ => count) 0

end Nodes

end SqlRoutes.Yaml
