import RichText.Node
import RichText.Text.Case
import RichText.Value.Spelling
import RichText.Value.Whole

/-!
Reading nodes from values. A node is a mapping with a tag under `nodeType`, children under `content`,
and optional `value`, `marks` and `data`; fields it does not know are passed over. Several spellings
are accepted: a mark by name or as a mapping with a `type`, and a target bare or under `sys`. A mapping
may contain itself, but not among the nodes under it.
-/

namespace RichText

namespace Node

/-- Why a value is not a node. The tag names the node at fault. -/
inductive Fault
  | notAMapping (kind : Text)
  | withoutTag
  | contentNotAList (tag : Text)
  | invalidMark (mark : Value) (tag : Text)
  | payloadNotAMapping (tag : Text)
  | invalidSpan (name : Text) (value : Value) (tag : Text)
  | rootNotADocument (tag : Value)
  /-- The marks are a single value and not a series. -/
  | marksNotASeries
  /-- A span is infinite. -/
  | infiniteSpan
  /-- A node is among the nodes under it. -/
  | endless
  deriving Inhabited

/-- Whether a fault is one of structure, which a reader reports; the others stop the run. -/
def Fault.isStructural : Fault → Bool
  | .marksNotASeries => false
  | .infiniteSpan => false
  | .endless => false
  | _ => true

def Fault.message : Fault → Text
  | .notAMapping kind => "Rich-text node must be a mapping, got " ++ kind
  | .withoutTag => "Rich-text node is missing 'nodeType'"
  | .contentNotAList tag => "'content' of '" ++ tag ++ "' node must be a list"
  | .invalidMark mark tag => "Invalid mark " ++ mark.nested ++ " on '" ++ tag ++ "' node"
  | .payloadNotAMapping tag => "'data' of '" ++ tag ++ "' node must be a mapping"
  | .invalidSpan name value tag =>
      "Invalid " ++ name ++ " " ++ value.nested ++ " on '" ++ tag ++ "' node"
  | .rootNotADocument tag => "Root node must be a 'document', got " ++ tag.nested
  | .marksNotASeries => "marks cannot be read one by one"
  | .infiniteSpan => "an infinite span has no integer value"
  | .endless => "a node contains itself"

/-- A span as an integer; null is no span. -/
def spanOf (name tag : Text) : Value → Except Fault (Option Int)
  | .null => .ok none
  | value =>
      match value.whole with
      | .ok size => .ok (some size)
      | .error .infinite => .error .infiniteSpan
      | .error _ => .error (.invalidSpan name value tag)

/-- The kind of target that a node with a tag has unless the target says otherwise. -/
def defaultTargetKind (tag : Text) : TargetKind :=
  if tag = Kind.embeddedAsset.name || tag = Kind.assetHyperlink.name then .asset else .entry

def targetKindOf (tag linkType : Text) : TargetKind :=
  let linkType := Text.lower linkType
  if linkType = "asset" then .asset
  else if linkType = "entry" then .entry
  else defaultTargetKind tag

/-- The target that a mapping describes, directly or under `sys`. -/
def targetOf (tag : Text) (value : Value) : Option Target :=
  match value.opened with
  | .map entries =>
      match (Value.fieldOr "sys" value entries).opened with
      | .map system =>
          let id := Value.field "id" system
          if id.isTruthy then
            let linkType := (Value.fieldOr "linkType" (.text []) system).toText
            some ⟨id.toText, targetKindOf tag linkType⟩
          else none
      | _ => none
  | _ => none

def payloadOf (tag : Text) (value : Value) : Except Fault Payload :=
  match value.opened with
  | .null => .ok {}
  | .map entries => do
      let uri := Value.field "uri" entries
      let colspan ← spanOf "colspan" tag (Value.field "colspan" entries)
      let rowspan ← spanOf "rowspan" tag (Value.field "rowspan" entries)
      return {
        uri := if uri.isTruthy then some uri.toText else none
        target := targetOf tag (Value.field "target" entries)
        colspan
        rowspan }
  | _ => .error (.payloadNotAMapping tag)

def markOf (tag : Text) (value : Value) : Except Fault Text :=
  match value.opened with
  | .text name => .ok name
  | .map entries =>
      let name := Value.field "type" entries
      if name.isTruthy then .ok name.toText else .error (.invalidMark value tag)
  | _ => .error (.invalidMark value tag)

def marksOf (tag : Text) (value : Value) : Except Fault (List Text) :=
  if value.isTruthy then
    match value.series? with
    | none => .error .marksNotASeries
    | some marks => marks.mapM (markOf tag)
  else .ok []

def tagNameOf (entries : List (Value × Value)) : Except Fault Text :=
  match Value.field "nodeType" entries with
  | .text name => if name.isEmpty then .error .withoutTag else .ok name
  | _ => .error .withoutTag

/-- Refuses content that is present and not a list. -/
def checkContent (tag : Text) : Value → Except Fault Unit
  | .list _ => .ok ()
  | .loop _ (.list _) => .ok ()
  | .again _ .list => .ok ()
  | value => if value.isTruthy then .error (.contentNotAList tag) else .ok ()

def textOf : Value → Text
  | .null => []
  | value => value.toText

/-- The collections that are being read, by their labels. -/
abbrev Around := List (Nat × Value)

namespace Around

/-- A value on its own, with the collections around it in the places of their labels. -/
def close (around : Around) (value : Value) : Value :=
  around.foldl (fun value (label, whole) => Value.filled label whole value) value

def has (around : Around) (label : Nat) : Bool := (around.lookup label).isSome

/-- Goes into a collection with a label. -/
def enter (around : Around) (label : Nat) (value : Value) : Around :=
  (label, around.close (.loop label value)) :: around

end Around

/-- A node of its fields and of what its content was read as. -/
def ofFields (around : Around) (entries : List (Value × Value))
    (content : Except Fault (List Node)) : Except Fault Node := do
  let field (name : Text) : Value := around.close (Value.field name entries)
  let tag ← tagNameOf entries
  checkContent tag (Value.field "content" entries)
  let marks ← marksOf tag (field "marks")
  let children ← content
  let payload ← payloadOf tag (field "data")
  return {
    tag := .ofName tag
    children
    value := textOf (field "value")
    marks
    payload }

mutual

/-- Reads a node inside of others, and everything under it. -/
def readIn (around : Around) : Value → Except Fault Node
  | .map entries => ofFields around entries (childrenIn around entries)
  | .loop label (.map entries) =>
      if around.has label then .error .endless
      else
        let around := around.enter label (.map entries)
        ofFields around entries (childrenIn around entries)
  | .again _ .map => .error .endless
  | value => .error (.notAMapping value.kindName)

/-- Reads the children under the first `content` field. -/
def childrenIn (around : Around) : List (Value × Value) → Except Fault (List Node)
  | [] => .ok []
  | (.text name, .list items) :: entries =>
      if name = "content" then nodesIn around items else childrenIn around entries
  | (.text name, .loop label (.list items)) :: entries =>
      if name = "content" then
        if around.has label then .error .endless
        else nodesIn (around.enter label (.list items)) items
      else childrenIn around entries
  | (.text name, .again _ .list) :: entries =>
      if name = "content" then .error .endless else childrenIn around entries
  | (.text name, _) :: entries =>
      if name = "content" then .ok [] else childrenIn around entries
  | _ :: entries => childrenIn around entries

def nodesIn (around : Around) : List Value → Except Fault (List Node)
  | [] => .ok []
  | value :: values => do
      let node ← readIn around value
      let nodes ← nodesIn around values
      return node :: nodes

end

def ofValue (value : Value) : Except Fault Node := readIn [] value

/-- Whether a value looks like a document. -/
def isDocumentValue (value : Value) : Bool :=
  match value.opened with
  | .map entries =>
      match Value.field "nodeType" entries with
      | .text name => name = Kind.document.name
      | _ => false
  | _ => false

/-- Reads a document, given as such or under the `body` of a mapping without a tag. -/
def documentOf (entries : List (Value × Value)) : Except Fault Node :=
  let body := Value.field "body" entries
  if (Value.lookup "nodeType" entries).isNone && isDocumentValue body then ofValue body
  else if isDocumentValue (.map entries) then ofValue (.map entries)
  else .error (.rootNotADocument (Value.field "nodeType" entries))

end Node

end RichText
