import RichText.Node

/-!
Building documents in code. Children may be given as bare text: most nodes hold it as a text leaf,
list items and table cells as a paragraph with that leaf.
-/

namespace RichText.Node

/-- A child of a node under construction. -/
inductive Child
  | words (value : Text)
  | node (node : Node)

instance : Coe Node Child := ⟨Child.node⟩

/-- A leaf with marks, the outermost first. -/
def text (value : Text) (marks : List Text) : Node := { tag := .known .text, value, marks }

def Child.toNode : Child → Node
  | .words value => Node.text value []
  | .node given => given

def ofKind (kind : Kind) (children : List Child) (payload : Payload) : Node :=
  { tag := .known kind, children := children.map Child.toNode, payload }

theorem of_kind_children (kind : Kind) (children : List Node) (payload : Payload) :
    (ofKind kind (children.map .node) payload).children = children := by
  rw [ofKind, List.map_map]
  exact List.map_id children

def document (children : List Child) : Node := ofKind .document children {}

def paragraph (children : List Child) : Node := ofKind .paragraph children {}

def heading (level : HeadingLevel) (children : List Child) : Node :=
  ofKind (.heading level) children {}

/-- A child whose bare text is a paragraph of its own. -/
def Child.toBlock : Child → Child
  | .words value => .node (paragraph [.words value])
  | .node given => .node given

def listItem (children : List Child) : Node := ofKind .listItem (children.map Child.toBlock) {}

theorem list_item_of_nodes (children : List Node) :
    listItem (children.map .node) = ofKind .listItem (children.map .node) {} := by
  rw [listItem, List.map_map]
  rfl

def unorderedList (items : List Child) : Node := ofKind .unorderedList items {}

def orderedList (items : List Child) : Node := ofKind .orderedList items {}

def blockquote (children : List Child) : Node := ofKind .blockquote children {}

def rule : Node := ofKind .rule [] {}

def hyperlink (uri : Option Text) (children : List Child) : Node :=
  ofKind .hyperlink children { uri }

def entryHyperlink (id : Text) (children : List Child) : Node :=
  ofKind .entryHyperlink children { target := some ⟨id, .entry⟩ }

def assetHyperlink (id : Text) (children : List Child) : Node :=
  ofKind .assetHyperlink children { target := some ⟨id, .asset⟩ }

def embeddedEntry (id : Text) (inline : Bool) : Node :=
  ofKind (if inline then .embeddedEntryInline else .embeddedEntry) []
    { target := some ⟨id, .entry⟩ }

def embeddedAsset (id : Text) : Node :=
  ofKind .embeddedAsset [] { target := some ⟨id, .asset⟩ }

def table (rows : List Child) : Node := ofKind .table rows {}

def tableRow (cells : List Child) : Node := ofKind .tableRow cells {}

def tableCell (children : List Child) (isHeader : Bool) (colspan rowspan : Option Int) : Node :=
  ofKind (if isHeader then .tableHeaderCell else .tableCell) (children.map Child.toBlock)
    { colspan, rowspan }

def levelMessage (level : Int) : Text := "Heading level must be 1-6, got " ++ Text.ofInt level

end RichText.Node
