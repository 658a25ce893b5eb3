import RichText.Proofs.Render.Tree

/-!
One step of rendering. A node renders the children that it shows, and then puts its own markup around
them; only an embedded entry looks at its place, at the trail, or at documents nested in it. What holds
of whole trees follows from this step by induction over the shown children.
-/

namespace RichText

namespace Node

/-- Whether a node shows no children: text and rules have none of their own, and an embedding stands for
what it refers to. -/
def isLeaf (given : Node) : Bool :=
  match given.kind? with
  | some .text | some .rule | some .embeddedEntry | some .embeddedEntryInline
  | some .embeddedAsset => true
  | _ => false

/-- The children that are rendered inside of a node. -/
def shownChildren (given : Node) : List Node := if given.isLeaf then [] else given.children

def unwrapsParagraphs (given : Node) : Bool :=
  match given.kind? with
  | some .listItem | some .tableCell | some .tableHeaderCell => true
  | _ => false

theorem tag_of_kind {given : Node} {kind : Kind} (same : given.kind? = some kind) :
    given.tag = .known kind := by
  obtain ⟨tag, children, value, marks, payload⟩ := given
  cases tag with
  | other name unknown => exact absurd same nofun
  | known other => exact congrArg Tag.known (Option.some.inj same)

theorem mem_children_of_shown {given child : Node} (shown : child ∈ given.shownChildren) :
    child ∈ given.children := by
  unfold shownChildren at shown
  split at shown
  · exact absurd shown List.not_mem_nil
  · exact shown

end Node

namespace Render

theorem shown_induction {holds : Node → Prop}
    (step : ∀ given : Node, (∀ child ∈ given.shownChildren, holds child) → holds given)
    (given : Node) : holds given := by
  have everywhere := everywhere_of_forall (fun _ => trivial) given
  induction everywhere with
  | node here below induction =>
      apply step
      intro child shown
      exact induction child (Node.mem_children_of_shown shown)

/-! ## The step -/

def announced (given : Node) : Noted Unit :=
  match given.tag with
  | .known _ => pure ()
  | .other name _ => Noted.note (.unknownNode name)

/-- What a node makes of its rendered children. Embedded entries are left out. -/
def enclosed (setting : Setting) (unwrap : Bool) (given : Node) (parts : List Text) : Rendered :=
  match given.kind? with
  | none => pure parts.flatten
  | some .document => pure (joinBlocks parts)
  | some .paragraph => pure (if unwrap then parts.flatten else paragraph parts.flatten)
  | some (.heading level) =>
      pure (Markup.heading level.number parts.flatten (Text.slug given.plainText))
  | some .unorderedList => pure (Markup.listBlock parts false)
  | some .orderedList => pure (Markup.listBlock parts true)
  | some .listItem => pure (Markup.listItem parts.flatten)
  | some .blockquote => pure (Markup.blockquote (Text.join "\n" parts))
  | some .rule => pure Markup.rule
  | some .hyperlink => Traced.ofNoted (hyperlink setting given.payload parts.flatten)
  | some .entryHyperlink => Traced.ofNoted (entryHyperlink setting given.targetId parts.flatten)
  | some .assetHyperlink => Traced.ofNoted (assetHyperlink setting given.targetId parts.flatten)
  | some .embeddedEntry => pure []
  | some .embeddedEntryInline => Embed.inlineEntry setting { id := given.targetId }
  | some .embeddedAsset => Embed.renderAsset setting given.targetId
  | some .text => Traced.ofNoted (leaf given.value given.marks)
  | some .table => pure (Markup.table parts)
  | some .tableRow => pure (Markup.tableRow parts)
  | some .tableCell =>
      pure (Markup.tableCell parts.flatten false given.payload.colspan given.payload.rowspan)
  | some .tableHeaderCell =>
      pure (Markup.tableCell parts.flatten true given.payload.colspan given.payload.rowspan)

def finished (setting : Setting) (nested : Embed.Nested) (trail : Trail) (place : Place)
    (unwrap : Bool) (given : Node) (parts : List Text) : Rendered :=
  if given.kind? = some .embeddedEntry then
    embeddedEntry setting nested { id := given.targetId, place, inline := false, trail }
  else enclosed setting unwrap given parts

section Step

variable (setting : Setting) (nested : Embed.Nested) (trail : Trail) (place : Place) (unwrap : Bool)

theorem embedded_inline_eq (id : Option Text) :
    embeddedEntry setting nested { id, place, inline := true, trail } =
      Embed.inlineEntry setting { id } := by
  unfold embeddedEntry
  cases id.filter fun id => !id.isEmpty with
  | none => rfl
  | some id => rfl

theorem node_step (given : Node) :
    node setting nested trail place unwrap given = (do
      (announced given : Noted Unit)
      let parts ← nodes setting nested trail [] given.unwrapsParagraphs given.shownChildren
      finished setting nested trail place unwrap given parts) := by
  obtain ⟨tag, children, value, marks, payload⟩ := given
  cases tag with
  | other name unknown => rfl
  | known kind =>
      cases kind with
      | embeddedEntryInline => exact embedded_inline_eq setting nested trail place _
      | _ => rfl

theorem nodes_cons (before : List Node) (child : Node) (siblings : List Node) :
    nodes setting nested trail before unwrap (child :: siblings) = (do
      let first ← node setting nested trail ⟨before, before.length⟩ unwrap child
      let others ← nodes setting nested trail (child :: before) unwrap siblings
      return first :: others) := by
  rfl

theorem document_eq {setting : Setting} {root : Node} (isDocument : root.kind? = some .document) :
    document setting root = blocks setting root.children [] := by
  rw [document, isDocument]

theorem document_with_children {setting : Setting} {root : Node}
    (isDocument : root.kind? = some .document) (children : List Node) :
    document setting { root with children } = blocks setting children [] :=
  @document_eq setting { root with children } isDocument

end Step

end Render

end RichText
