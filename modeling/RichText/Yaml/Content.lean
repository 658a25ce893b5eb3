import RichText.Text.Base64
import RichText.Yaml.Merge

/-!
What the nodes of a graph hold. A scalar has its value as soon as it is met. A collection is empty when
it is met and waits for its turn to be filled, so that it can hold itself; which of several faults is
found follows from that order.
-/

namespace RichText.Yaml

/-- What a node holds. Keys are values, and everything else is the number of a node. -/
inductive Content
  | scalar (value : Value)
  | list (items : List NodeId)
  | set (items : List Value)
  | map (entries : List (Value × NodeId))
  | pair (first second : NodeId)

/-- The value of a scalar by its tag. -/
def scalarValue (tag : Tag) (text : Text) : Except Fault Value :=
  match tag with
  | .null => .ok .null
  | .truth => ((truthOf text).map Value.bool).mapError .scalar
  | .integer => ((Numeral.integer text).map Value.int).mapError .scalar
  | .float => ((Numeral.floating text).map Value.float).mapError .scalar
  | .text => .ok (.text text)
  | .timestamp => (Timestamp.value text).mapError .scalar
  | .bytes =>
      if text.all fun char => char.toNat < 128 then
        ((Text.Base64.decode? text).map fun bytes => .ok (.bytes bytes)).getD (.error .invalidBytes)
      else .error .invalidBytes
  | _ => .error .unknownTag

/-- The text of a scalar. A mapping stands for what it has under the sign for a default value. -/
def Graph.scalarText (graph : Graph) : Nat → NodeId → Except Fault Text
  | 0, _ => .error .tooDeep
  | fuel + 1, id =>
      match graph.node id with
      | .scalar _ text => .ok text
      | .sequence .. => .error .wrongShape
      | .mapping _ entries =>
          match entries.find? fun entry => graph.tag entry.1 = .defaultSign with
          | some (_, value) => scalarText graph fuel value
          | none => .error .wrongShape

def Graph.scalarAt (graph : Graph) (id : NodeId) : Except Fault Value := do
  let tag := graph.tag id
  let text ← graph.scalarText (graph.size + 1) id
  if tag = .timestamp && (graph.node id).isMapping then throw (.scalar .timeInMapping)
  scalarValue tag text

/-- What a node holds when it is met. -/
def Graph.contentAt (graph : Graph) (id : NodeId) : Except Fault Content :=
  match graph.tag id with
  | .sequence => .ok (.list [])
  | .entries => .ok (.list [])
  | .mapping => .ok (.map [])
  | .set => .ok (.set [])
  | .merge => .error .unknownTag
  | .defaultSign => .error .unknownTag
  | .unknown => .error .unknownTag
  | _ => (graph.scalarAt id).map .scalar

/-- The contents of the nodes that were met so far. -/
structure Contents where
  graph : Graph
  /-- Bounds the steps that a merge takes. -/
  mergeCount : Nat
  known : Array (Option Content)
  /-- The collections that are still to be filled, last first. -/
  waiting : List NodeId := []

namespace Contents

def content? (contents : Contents) (id : NodeId) : Option Content := contents.known.getD id none

def store (contents : Contents) (id : NodeId) (content : Content) : Contents :=
  { contents with known := contents.known.setIfInBounds id (some content) }

/-- Meets a node. One that was met before is left as it is. -/
def meet (contents : Contents) (id : NodeId) : Except Fault Contents :=
  match contents.content? id with
  | some _ => .ok contents
  | none => do
      let content ← contents.graph.contentAt id
      let contents := contents.store id content
      match content with
      | .scalar _ => return contents
      | _ => return { contents with waiting := id :: contents.waiting }

/-- Meets the keys and the values of entries. Of equal keys, the first one keeps its place and the last
one its value. -/
def meetEntries (contents : Contents) (stored : List (Value × NodeId)) :
    List (NodeId × NodeId) → Except Fault (Contents × List (Value × NodeId))
  | [] => .ok (contents, stored)
  | (key, value) :: entries => do
      let contents ← contents.meet key
      match contents.content? key with
      | some (.scalar found) =>
          let contents ← contents.meet value
          meetEntries contents (Value.insert stored found value) entries
      | _ => throw .unhashableKey

/-- Meets mappings of one entry each. Their entries become pairs, which have numbers of their own. -/
def meetPairs (contents : Contents) (pairs : List NodeId) :
    List NodeId → Except Fault (Contents × List NodeId)
  | [] => .ok (contents, pairs.reverse)
  | item :: items =>
      match contents.graph.entries item with
      | [(key, value)] => do
          let contents ← (← contents.meet key).meet value
          let pair := contents.known.size
          let known := contents.known.push (some (.pair key value))
          meetPairs { contents with known } (pair :: pairs) items
      | _ => .error .wrongShape

/-- The entries of a mapping, with those that it takes over. -/
def fillEntries (contents : Contents) (id : NodeId) :
    Except Fault (Contents × List (Value × NodeId)) := do
  let graph ← contents.graph.mergeInto (contents.mergeCount + 1) id []
  meetEntries { contents with graph } [] (graph.entries id)

/-- Fills a collection. Its tag has to fit its shape. -/
def fill (contents : Contents) (id : NodeId) : Except Fault Contents := do
  match contents.graph.tag id, contents.graph.node id with
  | .sequence, .sequence _ items =>
      let contents ← items.foldlM meet contents
      return contents.store id (.list items)
  | .entries, .sequence _ items =>
      let (contents, pairs) ← contents.meetPairs [] items
      return contents.store id (.list pairs)
  | .mapping, .mapping .. =>
      let (contents, entries) ← contents.fillEntries id
      return contents.store id (.map entries)
  | .set, .mapping .. =>
      let (contents, entries) ← contents.fillEntries id
      return contents.store id (.set (entries.map Prod.fst))
  | _, _ => throw .wrongShape

/-- Fills the collections that wait, in the order in which they were met, then those that these led
to. -/
def fillAll : Nat → Contents → Except Fault Contents
  | 0, contents => .ok contents
  | fuel + 1, contents =>
      match contents.waiting with
      | [] => .ok contents
      | waiting => do
          let contents ← waiting.reverse.foldlM fill { contents with waiting := [] }
          fillAll fuel contents

/-- The contents of the nodes that a root leads to. Each round fills at least one node, and none is
filled twice. -/
def ofGraph (graph : Graph) (root : NodeId) : Except Fault Contents := do
  let contents ← meet ⟨graph, graph.mergeCount, Array.replicate graph.size none, []⟩ root
  fillAll (graph.size + 1) contents

end Contents

end RichText.Yaml
