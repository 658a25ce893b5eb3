import RichText.Proofs.Markdown.Described
import RichText.Proofs.Node.Order
import RichText.Proofs.Traced

/-!
The text of Markdown in rich text. A tree has its text in leaves, with marks. The leaves made of tokens
are those of the tokens in their order: what a token stands for itself does not depend on the tokens
beside it, and its marks are those of the emphasis around it, the outermost first.
-/

namespace RichText

namespace Node

/-- A text with its marks, the outermost first. -/
structure Leaf where
  value : Text
  marks : List Text
  deriving DecidableEq

def leaf? (given : Node) : Option Leaf :=
  if given.kind? = some .text then some ⟨given.value, given.marks⟩ else none

/-- The leaves of a document, in its order. -/
def leaves (siblings : List Node) : List Leaf := (within siblings).filterMap leaf?

theorem leaves_append (left right : List Node) : leaves (left ++ right) = leaves left ++ leaves right := by
  unfold leaves within
  simp only [in_order_among_eq, List.flatMap_append, List.filterMap_append]

theorem leaves_cons (given : Node) (siblings : List Node) :
    leaves (given :: siblings) = leaves [given] ++ leaves siblings := leaves_append [given] siblings

/-- A node that is no leaf has the leaves of its children. -/
theorem leaves_of_kind {kind : Kind} (inner : kind ≠ .text) (children : List Node) (payload : Payload) :
    leaves [ofKind kind (children.map .node) payload] = leaves children := by
  have notLeaf : leaf? (ofKind kind (children.map .node) payload) = none :=
    if_neg fun isText => inner (Option.some.inj isText)
  unfold leaves within
  rw [inOrderAmong, inOrderAmong, List.append_nil, filter_map_in_order, notLeaf, of_kind_children,
    in_order_among_eq, List.filterMap_flatMap]
  rfl

end Node

namespace Markdown

open Node (leaves)

/-! ## Inline tokens -/

/-- The mark that a token puts on the text inside. -/
def Inline.mark? : Inline → Option Text
  | .emphasis _ => some italicMark
  | .strong _ => some boldMark
  | _ => none

/-- The leaf that a token stands for itself, under marks. -/
def Inline.leaf? (marks : List Text) : Inline → Option Node.Leaf
  | .text raw => if raw = [] then none else some ⟨raw, marks⟩
  | .code raw => some ⟨raw, marks ++ [codeMark]⟩
  | .softBreak | .hardBreak => some ⟨" ", marks⟩
  | _ => none

mutual

/-- A token and the tokens inside of it in their order, each with the tokens around it, the outermost
first. -/
def Inline.inOrder (around : List Inline) : Inline → List (List Inline × Inline)
  | .emphasis content =>
      (around, .emphasis content) :: inlinesInOrder (around ++ [.emphasis content]) content
  | .strong content => (around, .strong content) :: inlinesInOrder (around ++ [.strong content]) content
  | .link url content =>
      (around, .link url content) :: inlinesInOrder (around ++ [.link url content]) content
  | token => [(around, token)]

def inlinesInOrder (around : List Inline) : List Inline → List (List Inline × Inline)
  | [] => []
  | token :: tokens => token.inOrder around ++ inlinesInOrder around tokens

end

/-- The leaf of a token under the marks of the tokens around it. -/
def leafUnder? (marks : List Text) : List Inline × Inline → Option Node.Leaf
  | (around, token) => token.leaf? (marks ++ around.filterMap Inline.mark?)

def inlineLeaves (marks : List Text) (tokens : List Inline) : List Node.Leaf :=
  (inlinesInOrder [] tokens).filterMap (leafUnder? marks)

theorem marks_under (marks : List Text) (around : List Inline) (token : Inline) :
    marks ++ (around ++ [token]).filterMap Inline.mark? =
      marks ++ around.filterMap Inline.mark? ++ token.mark?.toList := by
  rw [List.filterMap_append, List.append_assoc]
  cases token with
  | _ => rfl

-- The marks that are handed down are those of the tokens around, so emphasis adds to both alike, and a
-- link to neither.
mutual

theorem inline_leaves (marks : List Text) (around : List Inline) : (token : Inline) →
    leaves (token.nodes (marks ++ around.filterMap Inline.mark?)).value =
      (token.inOrder around).filterMap (leafUnder? marks)
  | .text [] => rfl
  | .text (char :: rest) => rfl
  | .emphasis content => by
      rw [Inline.inOrder, List.filterMap_cons_none rfl, ← inlines_leaves, marks_under]
      rfl
  | .strong content => by
      rw [Inline.inOrder, List.filterMap_cons_none rfl, ← inlines_leaves, marks_under]
      rfl
  | .code raw => rfl
  | .link url content => by
      rw [Inline.inOrder, List.filterMap_cons_none rfl, ← inlines_leaves, marks_under]
      have inside : (Inline.link url content).mark?.toList = [] := rfl
      rw [inside, List.append_nil]
      exact Node.leaves_of_kind (by decide) _ _
  | .softBreak => rfl
  | .hardBreak => rfl
  | .other kind => rfl

theorem inlines_leaves (marks : List Text) (around : List Inline) : (tokens : List Inline) →
    leaves (inlineNodes (marks ++ around.filterMap Inline.mark?) tokens).value =
      (inlinesInOrder around tokens).filterMap (leafUnder? marks)
  | [] => rfl
  | token :: tokens => by
      rw [inlineNodes, inlinesInOrder, List.filterMap_append, ← inline_leaves marks around token,
        ← inlines_leaves marks around tokens, ← Node.leaves_append]
      rfl

end

/-- The marks that are handed down to tokens stand before their own. -/
theorem inline_nodes_leaves (marks : List Text) (tokens : List Inline) :
    leaves (inlineNodes marks tokens).value = inlineLeaves marks tokens := by
  have found := inlines_leaves marks [] tokens
  rw [List.filterMap_nil, List.append_nil] at found
  exact found

/-! ## Block tokens -/

mutual

/-- A token and the tokens inside of it in their order. -/
def Block.inOrder : Block → List Block
  | .list ordered items => .list ordered items :: itemsInOrder items
  | .quote content => .quote content :: blocksInOrder content
  | token => [token]

def itemsInOrder : List (List Block) → List Block
  | [] => []
  | item :: items => blocksInOrder item ++ itemsInOrder items

def blocksInOrder : List Block → List Block
  | [] => []
  | token :: tokens => token.inOrder ++ blocksInOrder tokens

end

/-- The leaves that a token stands for itself. Code is one leaf, without the space at its end. -/
def Block.leaves : Block → List Node.Leaf
  | .paragraph content | .heading _ content => inlineLeaves [] content
  | .code raw => [⟨Text.trimEnd raw, [codeMark]⟩]
  | _ => []

def blockLeaves (tokens : List Block) : List Node.Leaf := (blocksInOrder tokens).flatMap Block.leaves

mutual

theorem block_leaves : (token : Block) →
    leaves token.nodes.value = token.inOrder.flatMap Block.leaves
  | .paragraph content => by
      have own : (Block.paragraph content).inOrder.flatMap Block.leaves = inlineLeaves [] content :=
        List.append_nil _
      rw [own, ← inline_nodes_leaves]
      exact @Node.leaves_of_kind .paragraph (by decide) _ _
  | .heading level content => by
      have own : (Block.heading level content).inOrder.flatMap Block.leaves = inlineLeaves [] content :=
        List.append_nil _
      rw [own, ← inline_nodes_leaves]
      exact @Node.leaves_of_kind (.heading (clampedLevel level)) nofun _ _
  | .code raw => rfl
  | .list ordered items => by
      have inside : (Block.list ordered items).inOrder.flatMap Block.leaves =
          (itemsInOrder items).flatMap Block.leaves := rfl
      rw [inside, ← items_leaves items]
      cases ordered with
      | false => exact Node.leaves_of_kind (by decide) _ _
      | true => exact Node.leaves_of_kind (by decide) _ _
  | .quote content => by
      have inside : (Block.quote content).inOrder.flatMap Block.leaves =
          (blocksInOrder content).flatMap Block.leaves := rfl
      rw [inside, ← blocks_leaves content]
      exact Node.leaves_of_kind (by decide) _ _
  | .rule => rfl
  | .blank => rfl
  | .other kind => rfl

theorem items_leaves : (items : List (List Block)) →
    leaves (itemNodes items).value = (itemsInOrder items).flatMap Block.leaves
  | [] => rfl
  | item :: items => by
      have first : (itemNodes (item :: items)).value =
          Node.listItem ((blockNodes item).value.map .node) :: (itemNodes items).value := rfl
      rw [first, Node.leaves_cons, Node.list_item_of_nodes, Node.leaves_of_kind (by decide),
        blocks_leaves item, items_leaves items, itemsInOrder, List.flatMap_append]

theorem blocks_leaves : (tokens : List Block) →
    leaves (blockNodes tokens).value = (blocksInOrder tokens).flatMap Block.leaves
  | [] => rfl
  | token :: tokens => by
      rw [blockNodes, blocksInOrder, List.flatMap_append, ← block_leaves token, ← blocks_leaves tokens,
        ← Node.leaves_append]
      rfl

end

/-! ## Described tokens -/

open Token (IsInline IsBlock AreInlines AreBlocks AreItems)

/-- The leaves made of tokens are those of the tokens in their order, with the marks of the emphasis
around them. Tokens are read from their descriptions without a fault. -/
theorem leaves_in_order :
    (∀ marks tokens, leaves (inlineNodes marks tokens).value = inlineLeaves marks tokens) ∧
      (∀ tokens, leaves (blockNodes tokens).value = blockLeaves tokens) ∧
      (∀ values tokens, AreInlines values tokens → Token.inlinesOf values = ⟨tokens, none⟩) ∧
      ∀ values tokens, AreBlocks values tokens →
        ∃ nodes, (Token.nodesOf values).outcome = .ok nodes ∧ leaves nodes = blockLeaves tokens := by
  refine ⟨inline_nodes_leaves, blocks_leaves, ?_, ?_⟩
  · intro values tokens described
    exact Token.inlines_of_described described
  · intro values tokens described
    rw [Token.nodes_of_described described]
    exact ⟨_, rfl, blocks_leaves tokens⟩

/-- An inline token of a kind, with its other parts. -/
def described (kind : Text) (parts : List (Value × Value)) : Value :=
  .map (parts ++ [(.text "type", .text kind)])

def nestedInlines : List Value := [
  described "strong" [(.text "children", .list [
    described "text" [(.text "raw", .text "a")],
    described "emphasis" [(.text "children", .list [
      described "link" [(.text "attrs", .map [(.text "url", .text "u")]),
        (.text "children", .list [described "codespan" [(.text "raw", .text "b")]])],
      described "text" [(.text "raw", .text [])],
      described "image" []])],
    described "softbreak" []])]]

def nestedBlocks : List Value := [
  described "list" [(.text "attrs", .map [(.text "ordered", .bool false)]),
    (.text "children", .list [
      described "blank_line" [],
      described "list_item" [(.text "children", .list [
        described "block_text" [(.text "children", .list nestedInlines)],
        described "block_quote" [(.text "children", .list [
          described "block_code" [(.text "raw", .text "c \n")]])]])]])],
  described "heading" [(.text "attrs", .map [(.text "level", .int 9)]),
    (.text "children", .list [described "text" [(.text "raw", .text "d")]])]]

theorem nested_leaves_in_order : ∃ tokens nodes, AreBlocks nestedBlocks tokens ∧
    (Token.nodesOf nestedBlocks).outcome = .ok nodes ∧
    leaves nodes = [⟨"a", ["bold"]⟩, ⟨"b", ["bold", "italic", "code"]⟩, ⟨" ", ["bold"]⟩,
      ⟨"c", ["code"]⟩, ⟨"d", []⟩] := by
  have inlines : AreInlines nestedInlines
      [.strong [.text "a", .emphasis [.link "u" [.code "b"], .text [], .other "image"], .softBreak]] :=
    .cons (.strong rfl rfl (.cons (.text rfl rfl) (.cons
      (.emphasis rfl rfl (.cons (.link rfl rfl (.cons (.code rfl rfl) .nil) ⟨_, rfl, rfl⟩)
        (.cons (.text rfl rfl) (.cons (.other rfl (by decide)) .nil))))
      (.cons (.softBreak rfl) .nil)))) .nil
  have blocks : AreBlocks nestedBlocks
      [.list (Value.isTruthy (.bool false)) [[.paragraph _, .quote [.code "c \n"]]], .heading 9 [.text "d"]] :=
    .cons (.list rfl rfl (.between rfl (by decide) (.item rfl rfl
      (.cons (.paragraph rfl (.inr rfl) rfl inlines) (.cons
        (.quote rfl rfl (.cons (.code rfl rfl) .nil)) .nil)) .nil)) ⟨_, rfl, rfl⟩)
      (.cons (.heading rfl ⟨_, rfl, rfl⟩ rfl rfl (.cons (.text rfl rfl) .nil)) .nil)
  obtain ⟨nodes, returned, found⟩ := leaves_in_order.2.2.2 _ _ blocks
  refine ⟨_, nodes, blocks, returned, ?_⟩
  rw [found]
  decide

end Markdown

end RichText
