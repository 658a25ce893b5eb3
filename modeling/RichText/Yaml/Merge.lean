import RichText.Yaml.Fault
import RichText.Yaml.Graph

/-!
Entries that a mapping takes over. A merge key refers to a mapping or to a sequence of mappings. Their
entries come before those of the mapping itself, so that the latter count where keys are equal; of a
sequence, the entries of the last mapping come first.
-/

namespace RichText.Yaml.Graph

def isMerge (graph : Graph) (entry : NodeId × NodeId) : Bool := graph.tag entry.1 = .merge

/-- Takes the first entry with a merge key away: what it refers to, and the other entries. -/
def splitMerge? (graph : Graph) :
    List (NodeId × NodeId) → Option (NodeId × List (NodeId × NodeId))
  | [] => none
  | entry :: entries =>
      if graph.isMerge entry then some (entry.2, entries)
      else (splitMerge? graph entries).map fun (source, others) => (source, entry :: others)

def setEntries (graph : Graph) (id : NodeId) (entries : List (NodeId × NodeId)) : Graph :=
  graph.set id (.mapping (graph.tag id) entries)

/-- The sign for a default value is text where it is a key. -/
def withTextKey (graph : Graph) (key : NodeId) : Graph :=
  if graph.tag key = .defaultSign then graph.set key ((graph.node key).withTag .text) else graph

/-- The mappings that a merge key refers to. -/
def mergeSources (graph : Graph) (source : NodeId) : Except Fault (List NodeId) :=
  match graph.node source with
  | .mapping .. => .ok [source]
  | .sequence _ items =>
      if items.all fun item => (graph.node item).isMapping then .ok items
      else .error .invalidMerge
  | .scalar .. => .error .invalidMerge

/-- Puts the entries that were taken over in front, once no merge key is left. -/
def finishMerge (graph : Graph) (id : NodeId) (merged : List (NodeId × NodeId)) : Graph :=
  let own := graph.entries id
  let graph := (own.map Prod.fst).foldl withTextKey graph
  if merged.isEmpty then graph else graph.setEntries id (merged ++ own)

/-- Replaces the merge keys of a mapping one by one, and those of the mappings that they refer to. Each
step takes one away, and a mapping that refers to itself takes over what it has by then. -/
def mergeInto : Nat → NodeId → List (NodeId × NodeId) → Graph → Except Fault Graph
  | 0, _, _, graph => .ok graph
  | fuel + 1, id, merged, graph =>
      match graph.splitMerge? (graph.entries id) with
      | none => .ok (graph.finishMerge id merged)
      | some (source, others) => do
          let graph := graph.setEntries id others
          let sources ← graph.mergeSources source
          let graph ← sources.foldlM (fun graph source => mergeInto fuel source [] graph) graph
          mergeInto fuel id (merged ++ sources.reverse.flatMap graph.entries) graph

/-- How many entries have a merge key. -/
def mergeCount (graph : Graph) : Nat :=
  graph.nodes.foldl (fun count node => count + node.entries.countP graph.isMerge) 0

end RichText.Yaml.Graph
