import Formwork.Text.Utf8
import Formwork.Yaml.Plain
import Formwork.Yaml.Token

/-!
The nodes of a document as a graph. An alias is one more place of the node that it names, so a
node may have many places, and may even be a part of itself.

Entries that are merged into a mapping come before its own entries, and of several mappings that are
merged at once the last one comes first, so that what stands later here counts less.
-/

namespace Formwork.Yaml

abbrev NodeId := Nat

abbrev Entry := NodeId × NodeId

/-- A node and what it stands for. -/
inductive Node
  | scalar (tag : Tag) (text : List Char)
  | sequence (tag : Tag) (items : List NodeId)
  | mapping (tag : Tag) (entries : List Entry)
  deriving Inhabited, DecidableEq

namespace Node

def empty : Node := .scalar .null []

def tag : Node → Tag
  | .scalar tag _ | .sequence tag _ | .mapping tag _ => tag

def withTag (tag : Tag) : Node → Node
  | .scalar _ text => .scalar tag text
  | .sequence _ items => .sequence tag items
  | .mapping _ entries => .mapping tag entries

end Node

/-- Nodes by their numbers, and the order in which they have become complete. The parts of a
complete node are complete before it, except where it is a part of itself. -/
structure Graph where
  nodes : Array Node := #[]
  completed : Array NodeId := #[]
  isCyclic : Bool := false
  deriving Inhabited

namespace Graph

def node (g : Graph) (id : NodeId) : Node := g.nodes.getD id .empty

def set (g : Graph) (id : NodeId) (node : Node) : Graph :=
  { g with nodes := g.nodes.setIfInBounds id node }

def add (g : Graph) (node : Node) : NodeId × Graph :=
  (g.nodes.size, { g with nodes := g.nodes.push node })

def complete (g : Graph) (id : NodeId) (node : Node) : Graph :=
  { g.set id node with completed := g.completed.push id }

def refer (g : Graph) (id : NodeId) : Graph :=
  { g with isCyclic := g.isCyclic || !g.completed.contains id }

def entries (g : Graph) (id : NodeId) : List Entry :=
  match g.node id with
  | .mapping _ entries => entries
  | _ => []

def setEntries (g : Graph) (id : NodeId) (entries : List Entry) : Graph :=
  g.set id (.mapping (g.node id).tag entries)

def entryCount (g : Graph) : Nat :=
  g.nodes.foldl (fun n node => n + match node with | .mapping _ es => es.length | _ => 0) 0

def isMergeKey (g : Graph) (entry : Entry) : Bool := (g.node entry.1).tag == .merge

/-- Makes the key that stands for the mapping itself a text like any other. -/
def asTextKey (g : Graph) (entry : Entry) : Graph :=
  let key := g.node entry.1
  if key.tag = .value then g.set entry.1 (key.withTag .str) else g

/-- Merges the entries behind an index into a mapping, which has taken in `merged` so far. Every
merge takes its key away, and a mapping may be merged into itself. -/
def mergeFrom : (fuel : Nat) → (index : Nat) → (merged : List Entry) → NodeId → Graph →
    Except Error Graph
  | 0, _, _, _, _ => .error .malformed
  | fuel + 1, index, merged, id, g => do
    let entries := g.entries id
    let own := (entries.drop index).takeWhile fun entry => !g.isMergeKey entry
    let g := own.foldl asTextKey g
    let index := index + own.length
    match entries[index]? with
    | none => return g.setEntries id (merged ++ g.entries id)
    | some (_, value) =>
      let g := g.setEntries id (entries.eraseIdx index)
      let (more, g) ← match g.node value with
        | .mapping _ _ => do
          let g ← mergeFrom fuel 0 [] value g
          pure (g.entries value, g)
        | .sequence _ items =>
          items.foldlM (fun (more, g) item =>
            match g.node item with
            | .mapping _ _ => do
              let g ← mergeFrom fuel 0 [] item g
              pure (g.entries item ++ more, g)
            | _ => .error .malformed) (([] : List Entry), g)
        | .scalar _ _ => .error .malformed
      mergeFrom fuel index (merged ++ more) id g

def merge (g : Graph) (id : NodeId) : Except Error Graph := mergeFrom (g.entryCount + 1) 0 [] id g

end Graph

end Formwork.Yaml
