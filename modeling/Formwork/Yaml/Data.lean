import Formwork.Yaml.Graph
import Formwork.Yaml.ScalarData

/-!
The data that the nodes of a graph stand for. A node is read when it is first come by, a
collection without its parts; the parts of collections are read level by level, so that of two
faults the one at the higher level counts.
-/

namespace Formwork.Yaml

/-- What is known about a node: its data, or, for a collection, its parts. -/
inductive Known
  | scalar (d : Document)
  | list (items : List NodeId)
  | pairs (items : List Entry)
  | set (keys : List NodeId)
  | map (entries : List Entry)
  deriving Inhabited

/-- How far the nodes of a graph have been read. The collections whose parts are still to be read
are kept nearest first. -/
structure Unfolding where
  graph : Graph
  known : Array (Option Known)
  pending : List NodeId := []

namespace Unfolding

def ofGraph (graph : Graph) : Unfolding :=
  { graph, known := Array.replicate graph.nodes.size none }

def get? (u : Unfolding) (id : NodeId) : Option Known := u.known[id]?.join

def put (u : Unfolding) (id : NodeId) (k : Known) : Unfolding :=
  { u with known := u.known.setIfInBounds id (some k) }

def text (g : Graph) : (fuel : Nat) → NodeId → Except Error (List Char)
  | 0, _ => .error .endless
  | fuel + 1, id =>
    match g.node id with
    | .scalar _ cs => .ok cs
    | .sequence _ _ => .error .malformed
    | .mapping _ entries =>
      match entries.find? fun entry => (g.node entry.1).tag == .value with
      | some (_, value) => text g fuel value
      | none => .error .malformed

def readScalar (u : Unfolding) (id : NodeId) : Except Error Document := do
  let node := u.graph.node id
  let cs ← text u.graph (u.graph.nodes.size + 1) id
  match node.tag, node with
  | .timestamp, .mapping _ _ => .error .noText
  | tag, _ => scalarData tag cs

def visit (u : Unfolding) (id : NodeId) : Except Error Unfolding := do
  if (u.get? id).isSome then return u
  let collection (k : Known) : Unfolding := { u.put id k with pending := id :: u.pending }
  match (u.graph.node id).tag with
  | .seq => return collection (.list [])
  | .orderedMap | .pairs => return collection (.pairs [])
  | .set => return collection (.set [])
  | .map => return collection (.map [])
  | .merge | .value | .other _ => .error .malformed
  | _ => return u.put id (.scalar (← u.readScalar id))

/-- Reads the key of an entry, which must not be a collection, and its value. -/
def visitEntry (u : Unfolding) (entry : Entry) : Except Error Unfolding := do
  let u ← u.visit entry.1
  match u.get? entry.1 with
  | some (.scalar _) => u.visit entry.2
  | _ => .error .malformed

def visitPair (read : List Entry × Unfolding) (item : NodeId) :
    Except Error (List Entry × Unfolding) := do
  let (pairs, u) := read
  match u.graph.node item with
  | .mapping _ [entry] => return (pairs ++ [entry], ← (← u.visit entry.1).visit entry.2)
  | _ => .error .malformed

/-- Reads the parts of a collection. -/
def expand (u : Unfolding) (id : NodeId) : Except Error Unfolding := do
  match u.get? id, u.graph.node id with
  | some (.list _), .sequence _ items => return (← items.foldlM visit u).put id (.list items)
  | some (.pairs _), .sequence _ items =>
    let (pairs, u) ← items.foldlM visitPair ([], u)
    return u.put id (.pairs pairs)
  | some (.map _), .mapping _ _ =>
    let u := { u with graph := ← u.graph.merge id }
    let entries := u.graph.entries id
    return (← entries.foldlM visitEntry u).put id (.map entries)
  | some (.set _), .mapping _ _ =>
    let u := { u with graph := ← u.graph.merge id }
    let entries := u.graph.entries id
    return (← entries.foldlM visitEntry u).put id (.set (entries.map (·.1)))
  | _, _ => .error .malformed

/-- Reads the parts of all collections, one level after the other. -/
def expandAll : (fuel : Nat) → Unfolding → Except Error Unfolding
  | 0, u => .ok u
  | fuel + 1, u =>
    if u.pending.isEmpty then .ok u
    else do
      let level := u.pending.reverse
      expandAll fuel (← level.foldlM expand { u with pending := [] })

end Unfolding

/-- Entries one after the other, those with the same key in the place of the first. -/
def mapOf (entries : List (Document × Document)) : List (Document × Document) :=
  entries.foldl (fun map entry => Document.put entry.1 entry.2 map) []

def Known.data (others : Array Document) : Known → Document
  | .scalar d => d
  | .list items => .list (items.map datum)
  | .pairs items => .list (items.map fun entry => .list [datum entry.1, datum entry.2])
  | .set keys => .set ((mapOf (keys.map fun key => (datum key, .null))).map (·.1))
  | .map entries => .map (mapOf (entries.map fun entry => (datum entry.1, datum entry.2)))
where
  /-- The data of a node. -/
  datum (id : NodeId) : Document := others.getD id .null

namespace Unfolding

/-- The data of all nodes, from what they have been before. A node that is complete takes the
place of what it has been, so one pass is enough where no node is a part of itself. -/
def pass (u : Unfolding) (data : Array Document) : Array Document :=
  u.graph.completed.foldl (fun data id =>
    match u.get? id with
    | some k => data.setIfInBounds id (k.data data)
    | none => data) data

def kinds (u : Unfolding) : Array Document :=
  u.known.map fun
    | some (.scalar d) => d
    | some (.list _) | some (.pairs _) => .list []
    | some (.set _) => .set []
    | some (.map _) => .map []
    | none => .null

/-- How often a node that is a part of itself is unfolded. -/
def depth : Nat := 8

def data (u : Unfolding) (id : NodeId) : Document :=
  let data := Nat.repeat u.pass (if u.graph.isCyclic then depth else 1) u.kinds
  data.getD id .null

end Unfolding

def Graph.data (g : Graph) (root : NodeId) : Except Error Document := do
  let u ← (Unfolding.ofGraph g).visit root
  return (← Unfolding.expandAll (g.nodes.size + 1) u).data root

end Formwork.Yaml
