import RichText.Node.Build
import RichText.Text.Blank
import RichText.Traced

/-!
Markdown as tokens, and the rich text that they stand for. Emphasis becomes marks on the text inside,
the outermost first; images, raw markup and unknown tokens have no counterpart and are passed over.
-/

namespace RichText.Markdown

inductive Inline
  | text (raw : Text)
  | emphasis (content : List Inline)
  | strong (content : List Inline)
  | code (raw : Text)
  | link (url : Text) (content : List Inline)
  | softBreak
  | hardBreak
  /-- A token without a counterpart. -/
  | other (kind : Text)

inductive Block
  | paragraph (content : List Inline)
  | heading (level : Int) (content : List Inline)
  | code (raw : Text)
  | list (ordered : Bool) (items : List (List Block))
  | quote (content : List Block)
  | rule
  | blank
  | other (kind : Text)

def boldMark : Text := "bold"

def italicMark : Text := "italic"

def codeMark : Text := "code"

mutual

/-- The nodes of an inline token under the marks of the tokens around it. -/
def Inline.nodes (marks : List Text) : Inline → Noted (List Node)
  | .text raw => pure (if raw.isEmpty then [] else [Node.text raw marks])
  | .emphasis content => inlineNodes (marks ++ [italicMark]) content
  | .strong content => inlineNodes (marks ++ [boldMark]) content
  | .code raw => pure [Node.text raw (marks ++ [codeMark])]
  | .link url content => do
      let children ← inlineNodes marks content
      return [Node.hyperlink (some url) (children.map .node)]
  | .softBreak => pure [Node.text " " marks]
  | .hardBreak => pure [Node.text " " marks]
  | .other kind => do
      Noted.note (.inlineTokenSkipped kind)
      return []

def inlineNodes (marks : List Text) : List Inline → Noted (List Node)
  | [] => pure []
  | token :: tokens => do
      let first ← token.nodes marks
      let others ← inlineNodes marks tokens
      return first ++ others

end

/-- The nearest heading level to a number. -/
def clampedLevel (level : Int) : HeadingLevel :=
  ⟨(max 1 (min level 6)).toNat, by omega⟩

mutual

def Block.nodes : Block → Noted (List Node)
  | .paragraph content => do
      let children ← inlineNodes [] content
      return [Node.paragraph (children.map .node)]
  | .heading level content => do
      let children ← inlineNodes [] content
      return [Node.heading (clampedLevel level) (children.map .node)]
  | .code raw => pure [Node.paragraph [.node (Node.text (Text.trimEnd raw) [codeMark])]]
  | .list ordered items => do
      let nodes ← itemNodes items
      let items := nodes.map .node
      return [if ordered then Node.orderedList items else Node.unorderedList items]
  | .quote content => do
      let children ← blockNodes content
      return [Node.blockquote (children.map .node)]
  | .rule => pure [Node.rule]
  | .blank => pure []
  | .other kind => do
      Noted.note (.blockTokenSkipped kind)
      return []

def itemNodes : List (List Block) → Noted (List Node)
  | [] => pure []
  | item :: items => do
      let children ← blockNodes item
      let others ← itemNodes items
      return Node.listItem (children.map .node) :: others

def blockNodes : List Block → Noted (List Node)
  | [] => pure []
  | token :: tokens => do
      let first ← token.nodes
      let others ← blockNodes tokens
      return first ++ others

end

end RichText.Markdown
