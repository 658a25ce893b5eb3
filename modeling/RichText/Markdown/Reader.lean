import RichText.Markdown.InlineReader
import RichText.Markdown.Outline

/-!
Reading Markdown: the block structure first, and then the text of every block, when all link
definitions are known.
-/

namespace RichText.Markdown

mutual

def Outline.block (definitions : Link.Definitions) : Outline → Block
  | .paragraph text => .paragraph (inlinesOf definitions text)
  | .heading level text => .heading level (inlinesOf definitions text)
  | .code raw => .code raw
  | .list ordered items => .list ordered (outlineItems definitions items)
  | .quote content => .quote (outlineBlocks definitions content)
  | .rule => .rule
  | .markup => .other "block_html"

def outlineItems (definitions : Link.Definitions) : List (List Outline) → List (List Block)
  | [] => []
  | item :: items => outlineBlocks definitions item :: outlineItems definitions items

def outlineBlocks (definitions : Link.Definitions) : List Outline → List Block
  | [] => []
  | block :: blocks => block.block definitions :: outlineBlocks definitions blocks

end

def read (text : Text) : List Block :=
  let (blocks, definitions) := outline text
  outlineBlocks definitions blocks

end RichText.Markdown
