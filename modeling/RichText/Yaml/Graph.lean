import RichText.Yaml.Tag

/-!
YAML nodes as a graph. An alias is the node that it refers to, and that may be a collection around it,
so a collection holds the numbers of its nodes.
-/

namespace RichText.Yaml

/-- The number of a node. -/
abbrev NodeId := Nat

inductive Node
  | scalar (tag : Tag) (text : Text)
  | sequence (tag : Tag) (items : List NodeId)
  | mapping (tag : Tag) (entries : List (NodeId × NodeId))
  deriving DecidableEq, Repr

namespace Node

def tag : Node → Tag
  | .scalar tag _ => tag
  | .sequence tag _ => tag
  | .mapping tag _ => tag

def withTag (tag : Tag) : Node → Node
  | .scalar _ text => .scalar tag text
  | .sequence _ items => .sequence tag items
  | .mapping _ entries => .mapping tag entries

/-- The entries of a mapping; other nodes have none. -/
def entries : Node → List (NodeId × NodeId)
  | .mapping _ entries => entries
  | _ => []

def isMapping : Node → Bool
  | .mapping .. => true
  | _ => false

end Node

structure Graph where
  nodes : Array Node := #[]

namespace Graph

def size (graph : Graph) : Nat := graph.nodes.size

def node (graph : Graph) (id : NodeId) : Node := graph.nodes.getD id (.scalar .null [])

def tag (graph : Graph) (id : NodeId) : Tag := (graph.node id).tag

def entries (graph : Graph) (id : NodeId) : List (NodeId × NodeId) := (graph.node id).entries

/-- Adds a node. Its number is the size of the graph before. -/
def add (graph : Graph) (node : Node) : Graph := ⟨graph.nodes.push node⟩

def set (graph : Graph) (id : NodeId) (node : Node) : Graph :=
  ⟨graph.nodes.setIfInBounds id node⟩

end Graph

end RichText.Yaml
