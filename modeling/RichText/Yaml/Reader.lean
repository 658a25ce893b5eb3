import RichText.Text.Lines
import RichText.Yaml.Builder
import RichText.Yaml.Content
import RichText.Yaml.TokenReader

/-!
The value of YAML text. A node that is met again inside of itself becomes its label there; all nodes on
such a circle are written with their labels, whichever of them is met first.
-/

namespace RichText.Yaml

def Content.shape : Content → Shape
  | .map _ => .map
  | .pair .. => .pair
  | _ => .list

/-- A value, and the labels in it that stand for collections around it. -/
structure Part where
  value : Value
  labels : List NodeId := []

/-- What is known of the nodes that were read so far. -/
structure Progress where
  /-- Values that hold no label of a collection around them. -/
  values : Array (Option Value)
  /-- Whether a node is inside of itself. -/
  circular : Array Bool

namespace Progress

def empty (size : Nat) : Progress := ⟨Array.replicate size none, Array.replicate size false⟩

def value? (progress : Progress) (id : NodeId) : Option Value := progress.values.getD id none

/-- Keeps the value of a collection whose parts hold some labels. A node that is inside of itself shows
that when it is read for the first time, since nothing that leads to it is kept by then. -/
def finish (progress : Progress) (id : NodeId) (value : Value) (labels : List NodeId) :
    Part × Progress :=
  match progress with
  | ⟨values, circular⟩ =>
      let isCircular := !labels.isEmpty || circular.getD id false
      let value := if isCircular then .loop id value else value
      let labels := (labels.filter (· ≠ id)).eraseDups
      let values := if labels.isEmpty then values.setIfInBounds id (some value) else values
      (⟨value, labels⟩, ⟨values, circular.setIfInBounds id isCircular⟩)

end Progress

namespace Contents

/-- The value of a node inside of the nodes of a path. -/
def partAt (contents : Contents) : Nat → List NodeId → NodeId → StateM Progress Part
  | 0, _, _ => return ⟨.null, []⟩
  | fuel + 1, path, id => do
      match (← get).value? id, (contents.content? id).getD (.scalar .null) with
      | some value, _ => return ⟨value, []⟩
      | none, .scalar value => return ⟨value, []⟩
      | none, .set items => return ⟨.set items, []⟩
      | none, content =>
          if path.contains id then return ⟨.again id content.shape, [id]⟩
          let partIn := partAt contents fuel (id :: path)
          match content with
          | .map entries =>
              let parts ← entries.mapM fun (key, value) => do return (key, ← partIn value)
              modifyGet fun progress =>
                progress.finish id (.map (parts.map fun (key, part) => (key, part.value)))
                  (parts.flatMap fun (_, part) => part.labels)
          | .pair first second =>
              let first ← partIn first
              let second ← partIn second
              modifyGet fun progress =>
                progress.finish id (.pair first.value second.value) (first.labels ++ second.labels)
          | .list items =>
              let parts ← items.mapM partIn
              modifyGet fun progress =>
                progress.finish id (.list (parts.map (·.value))) (parts.flatMap (·.labels))
          | _ => return ⟨.null, []⟩

def valueAt (contents : Contents) (id : NodeId) : Value :=
  let size := contents.known.size
  ((contents.partAt (size + 1) [] id).run (.empty size)).1.value

end Contents

/-- Whether a character may stand in YAML text. -/
def isPrintable (char : Char) : Bool :=
  char = '\t' || char = '\n' || char = '\r' || (' ' ≤ char && char ≤ '~') || char = '\u0085' ||
    ('\u00a0' ≤ char && char ≠ '\ufffe' && char ≠ '\uffff')

/-- The value of the only document of a text; null if there is none. -/
def read (text : Text) : Except Fault Value := do
  if !text.all isPrintable then throw .unprintable
  match ← Graph.ofTokens (tokens (Text.withLineFeeds text)) with
  | none => return .null
  | some (graph, root) => return (← Contents.ofGraph graph root).valueAt root

end RichText.Yaml
