import RichText.Yaml.Graph
import RichText.Yaml.Token

/-!
Tokens as a graph of tagged nodes. Tokens are taken one by one, and what is open is a stack of frames.
Much may be left out: where a token shows that a node, a key or a value is missing, an empty scalar
takes its place before the token is looked at. A collection is in the graph as soon as it is open, so
that an alias inside can refer to it.
-/

namespace RichText.Yaml

/-- Anchor and tag in front of a node. -/
structure Properties where
  anchor : Option Text := none
  /-- The full name of the tag. A single exclamation mark stands for no tag in particular. -/
  tag : Option Text := none

namespace Properties

def isEmpty (properties : Properties) : Bool := properties.anchor.isNone && properties.tag.isNone

def unspecific : Text := "!"

def scalarTag (properties : Properties) (text : Text) (plain : Bool) : Tag :=
  match properties.tag with
  | none => if plain then .ofPlain text else .text
  | some name => if name = unspecific then .ofPlain text else .ofName name

/-- The tag of a collection, which has a default. -/
def collectionTag (properties : Properties) (default : Tag) : Tag :=
  match properties.tag with
  | none => default
  | some name => if name = unspecific then default else .ofName name

/-- The node where nothing was written. -/
def emptyScalar (properties : Properties) : Node :=
  .scalar (properties.scalarTag [] true) []

end Properties

/-- Where a mapping or a pair is between its tokens. -/
inductive PairPlace
  | beforeKey
  | key
  | afterKey (key : NodeId)
  | value (key : NodeId)

/-- Where a flow collection is. -/
inductive FlowPlace
  | start
  | afterComma
  | afterItem
  | key
  | afterKey (key : NodeId)
  | value (key : NodeId)

/-- A collection that is open, with its number and what it holds so far, last first. -/
inductive Frame
  | blockSequence (id : NodeId) (items : List NodeId) (awaits : Bool)
  /-- A sequence that is not indented further than the key before it. -/
  | looseSequence (id : NodeId) (items : List NodeId) (awaits : Bool)
  | blockMapping (id : NodeId) (entries : List (NodeId × NodeId)) (place : PairPlace)
  | flowSequence (id : NodeId) (items : List NodeId) (place : FlowPlace)
  | flowMapping (id : NodeId) (entries : List (NodeId × NodeId)) (place : FlowPlace)
  /-- A single pair in a flow sequence, which is a mapping of its own. -/
  | flowPair (place : PairPlace)

/-- Where the text is between its documents. -/
inductive Stage
  | start
  /-- After directives: the handles that they define, and whether they give a version. -/
  | directives (handles : List (Text × Text)) (versioned : Bool)
  | root (explicit : Bool)
  | done (root : NodeId)
  | finished (root : Option NodeId)

structure Builder where
  stage : Stage := .start
  frames : List Frame := []
  /-- The properties of the next node. -/
  properties : Properties := {}
  handles : List (Text × Text) := []
  graph : Graph := {}
  anchors : List (Text × NodeId) := []

/-- Which node may come next. -/
inductive Awaited
  | nothing
  | block
  /-- Also a sequence that is not indented further. -/
  | blockOrEntry
  | flow
  deriving DecidableEq

namespace Builder

def awaitedByPair (place : PairPlace) (awaited : Awaited) : Awaited :=
  match place with
  | .key => awaited
  | .value _ => awaited
  | _ => .nothing

def awaitedByFlow : FlowPlace → Awaited
  | .afterItem => .nothing
  | .afterKey _ => .nothing
  | _ => .flow

def awaited (builder : Builder) : Awaited :=
  match builder.frames with
  | [] =>
      match builder.stage with
      | .root _ => .block
      | _ => .nothing
  | .blockSequence _ _ awaits :: _ => if awaits then .block else .nothing
  | .looseSequence _ _ awaits :: _ => if awaits then .block else .nothing
  | .blockMapping _ _ place :: _ => awaitedByPair place .blockOrEntry
  | .flowSequence _ _ place :: _ => awaitedByFlow place
  | .flowMapping _ _ place :: _ => awaitedByFlow place
  | .flowPair place :: _ => awaitedByPair place .flow

def emptyNode : Node := ({} : Properties).emptyScalar

/-- Puts a node where the innermost frame awaits it. A pair in a flow sequence is complete with its
value. -/
def putIn (graph : Graph) (stage : Stage) (id : NodeId) : List Frame → Graph × Stage × List Frame
  | [] => (graph, .done id, [])
  | .blockSequence sequence items _ :: outer =>
      (graph, stage, .blockSequence sequence (id :: items) false :: outer)
  | .looseSequence sequence items _ :: outer =>
      (graph, stage, .looseSequence sequence (id :: items) false :: outer)
  | .blockMapping mapping entries place :: outer =>
      match place with
      | .value key =>
          (graph, stage, .blockMapping mapping ((key, id) :: entries) .beforeKey :: outer)
      | _ => (graph, stage, .blockMapping mapping entries (.afterKey id) :: outer)
  | .flowSequence sequence items _ :: outer =>
      (graph, stage, .flowSequence sequence (id :: items) .afterItem :: outer)
  | .flowMapping mapping entries place :: outer =>
      match place with
      | .key => (graph, stage, .flowMapping mapping entries (.afterKey id) :: outer)
      | .value key =>
          (graph, stage, .flowMapping mapping ((key, id) :: entries) .afterItem :: outer)
      | _ =>
          let value := graph.size
          (graph.add emptyNode, stage,
            .flowMapping mapping ((id, value) :: entries) .afterItem :: outer)
  | .flowPair place :: outer =>
      match place with
      | .value key =>
          let pair := graph.size
          putIn (graph.add (.mapping .mapping [(key, id)])) stage pair outer
      | _ => (graph, stage, .flowPair (.afterKey id) :: outer)

def put (builder : Builder) (id : NodeId) : Builder :=
  let (graph, stage, frames) := putIn builder.graph builder.stage id builder.frames
  { builder with graph, stage, frames }

/-- Adds a node. Its number is the size of the graph before. -/
def add (builder : Builder) (node : Node) : Builder :=
  { builder with graph := builder.graph.add node }

def putNew (builder : Builder) (node : Node) : Builder :=
  let id := builder.graph.size
  (builder.add node).put id

def define (builder : Builder) (anchor : Option Text) (id : NodeId) : Builder :=
  match anchor with
  | none => builder
  | some name => { builder with anchors := (name, id) :: builder.anchors }

/-- Takes the properties for a node. An anchor may be defined only once. -/
def takeProperties (builder : Builder) : Except Fault (Properties × Builder) :=
  let properties := builder.properties
  if properties.anchor.any fun name => (builder.anchors.lookup name).isSome then
    .error .duplicateAnchor
  else .ok (properties, { builder with properties := {} })

def putScalar (builder : Builder) (scalar : Properties → Node) : Except Fault Builder := do
  let (properties, builder) ← builder.takeProperties
  return (builder.define properties.anchor builder.graph.size).putNew (scalar properties)

/-- How many collections may be open at once. -/
def depthLimit : Nat := 485

/-- Opens a collection inside those that are open. -/
def push (builder : Builder) (frame : Frame) : Except Fault Builder :=
  if depthLimit ≤ builder.frames.length then .error .tooDeep
  else .ok { builder with frames := frame :: builder.frames }

/-- Opens a collection, which is empty in the graph until it is closed. -/
def openFrame (builder : Builder) (empty : Properties → Node) (frame : NodeId → Frame) :
    Except Fault Builder := do
  let (properties, builder) ← builder.takeProperties
  let id := builder.graph.size
  ((builder.define properties.anchor id).add (empty properties)).push (frame id)

def openSequence (builder : Builder) (frame : NodeId → Frame) : Except Fault Builder :=
  builder.openFrame (fun properties => .sequence (properties.collectionTag .sequence) []) frame

def openMapping (builder : Builder) (frame : NodeId → Frame) : Except Fault Builder :=
  builder.openFrame (fun properties => .mapping (properties.collectionTag .mapping) []) frame

def close (builder : Builder) (id : NodeId) (node : Node) : Builder :=
  { builder with frames := builder.frames.tail, graph := builder.graph.set id node }.put id

def closeSequence (builder : Builder) (id : NodeId) (items : List NodeId) : Builder :=
  builder.close id (.sequence (builder.graph.tag id) items.reverse)

def closeMapping (builder : Builder) (id : NodeId) (entries : List (NodeId × NodeId)) : Builder :=
  builder.close id (.mapping (builder.graph.tag id) entries.reverse)

/-- Whether a token goes on with a node whose properties were read. -/
def continuesNode (builder : Builder) (token : Token) : Bool :=
  match token with
  | .anchor _ => builder.properties.anchor.isNone
  | .tag .. => builder.properties.tag.isNone
  | .scalar .. => true
  | .flowSequenceStart => true
  | .flowMappingStart => true
  | .blockSequenceStart => builder.awaited ≠ .flow
  | .blockMappingStart => builder.awaited ≠ .flow
  | .blockEntry => builder.awaited = .blockOrEntry
  | _ => false

/-- Properties that no node follows belong to an empty scalar. -/
def settleProperties (builder : Builder) (token : Token) : Except Fault Builder :=
  if builder.properties.isEmpty || builder.continuesNode token then .ok builder
  else builder.putScalar Properties.emptyScalar

/-- Whether the document was begun by a mark; it may be empty then. -/
def isExplicitRoot (builder : Builder) : Bool :=
  match builder.stage with
  | .root explicit => explicit
  | _ => false

/-- Whether a token shows that the awaited node is missing. -/
def leavesOut (builder : Builder) (token : Token) : Bool :=
  match builder.frames, token with
  | [], .directive _ => builder.isExplicitRoot
  | [], .documentStart => builder.isExplicitRoot
  | [], .documentEnd => builder.isExplicitRoot
  | [], .streamEnd => builder.isExplicitRoot
  | .blockSequence .. :: _, .blockEntry => true
  | .blockSequence .. :: _, .blockEnd => true
  | .looseSequence .. :: _, .blockEntry => true
  | .looseSequence .. :: _, .key => true
  | .looseSequence .. :: _, .value => true
  | .looseSequence .. :: _, .blockEnd => true
  | .blockMapping .. :: _, .key => true
  | .blockMapping .. :: _, .value => true
  | .blockMapping .. :: _, .blockEnd => true
  | .flowMapping _ _ .key :: _, .value => true
  | .flowMapping _ _ .key :: _, .flowEntry => true
  | .flowMapping _ _ .key :: _, .flowMappingEnd => true
  | .flowMapping _ _ (.value _) :: _, .flowEntry => true
  | .flowMapping _ _ (.value _) :: _, .flowMappingEnd => true
  | .flowPair .key :: _, .value => true
  | .flowPair _ :: _, .flowEntry => true
  | .flowPair _ :: _, .flowSequenceEnd => true
  | _, _ => false

/-- An empty scalar in the place of a missing node. -/
def settleNode (builder : Builder) (token : Token) : Builder :=
  if builder.awaited ≠ .nothing && builder.properties.isEmpty && builder.leavesOut token then
    builder.putNew emptyNode
  else builder

/-- A sequence that is not indented ends at any token that is not its next entry. -/
def settleSequence (builder : Builder) (token : Token) : Builder :=
  match builder.frames, token with
  | .looseSequence .. :: _, .blockEntry => builder
  | .looseSequence id items false :: _, _ => builder.closeSequence id items
  | _, _ => builder

/-- Changes the innermost frame, given those around it. -/
def move (builder : Builder) (frame : Frame) (outer : List Frame) : Builder :=
  { builder with frames := frame :: outer }

/-- An empty scalar in the place of a missing value. -/
def settleValue (builder : Builder) (token : Token) : Builder :=
  match builder.frames, token with
  | _, .value => builder
  | .blockMapping id entries (.afterKey key) :: outer, _ =>
      (builder.move (.blockMapping id entries (.value key)) outer).putNew emptyNode
  | .flowMapping id entries (.afterKey key) :: outer, _ =>
      (builder.move (.flowMapping id entries (.value key)) outer).putNew emptyNode
  | .flowPair (.afterKey key) :: outer, _ =>
      (builder.move (.flowPair (.value key)) outer).putNew emptyNode
  | _, _ => builder

def tagName (builder : Builder) (handle : Option Text) (suffix : Text) : Except Fault Text :=
  match handle with
  | none => .ok suffix
  | some handle =>
      match builder.handles.lookup handle with
      | some start => .ok (start ++ suffix)
      | none => .error .undefinedHandle

/-- A token where a node may begin. -/
def takeNode (builder : Builder) (token : Token) : Except Fault Builder := do
  let isBlock := builder.awaited ≠ .flow
  match token with
  | .alias name =>
      match builder.anchors.lookup name with
      | some id => return builder.put id
      | none => throw .undefinedAlias
  | .anchor name =>
      return { builder with properties := { builder.properties with anchor := some name } }
  | .tag handle suffix =>
      let name ← builder.tagName handle suffix
      return { builder with properties := { builder.properties with tag := some name } }
  | .scalar text plain =>
      builder.putScalar fun properties => .scalar (properties.scalarTag text plain) text
  | .flowSequenceStart => builder.openSequence fun id => .flowSequence id [] .start
  | .flowMappingStart => builder.openMapping fun id => .flowMapping id [] .start
  | .blockSequenceStart =>
      if isBlock then builder.openSequence fun id => .blockSequence id [] false
      else throw .unexpectedToken
  | .blockMappingStart =>
      if isBlock then builder.openMapping fun id => .blockMapping id [] .beforeKey
      else throw .unexpectedToken
  | .blockEntry =>
      if builder.awaited = .blockOrEntry then
        builder.openSequence fun id => .looseSequence id [] true
      else throw .unexpectedToken
  | _ => throw .unexpectedToken

/-- The handles that need no directive. -/
def standardHandles : List (Text × Text) := [("!", "!"), ("!!", Tag.standard)]

def takeDirective (builder : Builder) (handles : List (Text × Text)) (versioned : Bool)
    (directive : Directive) : Except Fault Builder :=
  match directive with
  | .version major _ =>
      if versioned || major ≠ 1 then .error .invalidDirective
      else .ok { builder with stage := .directives handles true }
  | .handle handle start =>
      if (handles.lookup handle).isSome then .error .invalidDirective
      else .ok { builder with stage := .directives ((handle, start) :: handles) versioned }
  | .other => .ok { builder with stage := .directives handles versioned }

/-- Begins the root, with the handles of the directives before it. -/
def begin (builder : Builder) (explicit : Bool) (handles : List (Text × Text)) : Builder :=
  { builder with stage := .root explicit, handles := handles ++ standardHandles }

def takeOutside (builder : Builder) (token : Token) : Except Fault Builder :=
  match builder.stage, token with
  | .start, .streamEnd => .ok { builder with stage := .finished none }
  | .start, .documentStart => .ok (builder.begin true [])
  | .start, .directive directive => builder.takeDirective [] false directive
  | .start, token => (builder.begin false []).takeNode token
  | .directives handles _, .documentStart => .ok (builder.begin true handles)
  | .directives handles versioned, .directive directive =>
      builder.takeDirective handles versioned directive
  | .directives .., _ => .error .unexpectedToken
  | .root _, token => builder.takeNode token
  | .done _, .documentEnd => .ok builder
  | .done root, .streamEnd => .ok { builder with stage := .finished (some root) }
  | .done _, .documentStart => .error .anotherDocument
  | .done _, _ => .error .unexpectedToken
  | .finished _, _ => .error .unexpectedToken

def takeInside (builder : Builder) (frame : Frame) (outer : List Frame) (token : Token) :
    Except Fault Builder :=
  match frame, token with
  | .blockSequence id items false, .blockEntry =>
      .ok (builder.move (.blockSequence id items true) outer)
  | .blockSequence id items false, .blockEnd => .ok (builder.closeSequence id items)
  | .looseSequence id items false, .blockEntry =>
      .ok (builder.move (.looseSequence id items true) outer)
  | .blockMapping id entries .beforeKey, .key =>
      .ok (builder.move (.blockMapping id entries .key) outer)
  | .blockMapping id entries .beforeKey, .blockEnd => .ok (builder.closeMapping id entries)
  | .blockMapping id entries (.afterKey key), .value =>
      .ok (builder.move (.blockMapping id entries (.value key)) outer)
  | .flowSequence id items .afterItem, .flowEntry =>
      .ok (builder.move (.flowSequence id items .afterComma) outer)
  | .flowSequence id items _, .flowSequenceEnd => .ok (builder.closeSequence id items)
  | .flowSequence _ _ .start, .key => builder.push (.flowPair .key)
  | .flowSequence _ _ .afterComma, .key => builder.push (.flowPair .key)
  | .flowMapping id entries .afterItem, .flowEntry =>
      .ok (builder.move (.flowMapping id entries .afterComma) outer)
  | .flowMapping id entries .start, .key => .ok (builder.move (.flowMapping id entries .key) outer)
  | .flowMapping id entries .afterComma, .key =>
      .ok (builder.move (.flowMapping id entries .key) outer)
  | .flowMapping id entries .start, .flowMappingEnd => .ok (builder.closeMapping id entries)
  | .flowMapping id entries .afterComma, .flowMappingEnd => .ok (builder.closeMapping id entries)
  | .flowMapping id entries .afterItem, .flowMappingEnd => .ok (builder.closeMapping id entries)
  | .flowMapping id entries (.afterKey key), .value =>
      .ok (builder.move (.flowMapping id entries (.value key)) outer)
  | .flowPair (.afterKey key), .value => .ok (builder.move (.flowPair (.value key)) outer)
  | _, token =>
      if builder.awaited = .nothing then .error .unexpectedToken else builder.takeNode token

def take (builder : Builder) (token : Token) : Except Fault Builder := do
  match token with
  | .fault fault => throw fault
  | token =>
      let builder ← builder.settleProperties token
      let builder := (builder.settleNode token).settleSequence token
      let builder := builder.settleValue token
      match builder.frames with
      | [] => builder.takeOutside token
      | frame :: outer => builder.takeInside frame outer token

end Builder

/-- The nodes of the only document among tokens, if there is one, and its root. -/
def Graph.ofTokens (tokens : List Token) : Except Fault (Option (Graph × NodeId)) := do
  let builder ← tokens.foldlM Builder.take {}
  match builder.stage with
  | .finished root => return root.map fun root => (builder.graph, root)
  | _ => throw .unexpectedToken

end RichText.Yaml
