import RichText.Proofs.Markdown.Described
import RichText.Proofs.Render.Nesting

/-!
Documents of Markdown. Their nodes are prose: text with known marks, in paragraphs, headings, lists, quotes
and links to addresses. Prose refers to no entry and no asset, so what it renders to depends on the
configuration alone: not on what is stored, nor on the hooks of the caller, nor on the rich text around.
-/

namespace RichText

open Render (Everywhere)

namespace Node

def Kind.isProse : Kind → Bool
  | .paragraph | .heading _ | .unorderedList | .orderedList | .listItem | .blockquote | .rule
  | .hyperlink | .text => true
  | _ => false

end Node

namespace Markdown

/-- The marks that Markdown puts on text. -/
def proseMarks : List Text := [boldMark, italicMark, codeMark]

structure IsProse (given : Node) : Prop where
  kind : given.kind?.any Node.Kind.isProse = true
  marks : given.marks ⊆ proseMarks

/-! ## The nodes of tokens -/

theorem prose_text (value : Text) {marks : List Text} (known : marks ⊆ proseMarks) :
    Everywhere IsProse (Node.text value marks) :=
  .node ⟨rfl, known⟩ nofun

theorem prose_of_kind {kind : Node.Kind} (isProse : kind.isProse = true) {children : List Node}
    (each : ∀ child ∈ children, Everywhere IsProse child) (payload : Node.Payload) :
    Everywhere IsProse (Node.ofKind kind (children.map .node) payload) := by
  apply Everywhere.node
  · exact ⟨isProse, List.nil_subset _⟩
  · rw [Node.of_kind_children]
    exact each

theorem marks_with {marks : List Text} {mark : Text} (known : marks ⊆ proseMarks)
    (isKnown : mark ∈ proseMarks) : marks ++ [mark] ⊆ proseMarks :=
  List.append_subset.mpr ⟨known, List.cons_subset.mpr ⟨isKnown, List.nil_subset _⟩⟩

-- The inductions below are on the tokens. Emphasis adds a mark of prose to those that are handed down.
mutual

theorem inline_prose {marks : List Text} (known : marks ⊆ proseMarks) (token : Inline) :
    ∀ given ∈ (token.nodes marks).value, Everywhere IsProse given := by
  cases token with
  | text raw =>
      cases raw with
      | nil => exact List.forall_mem_nil _
      | cons char rest =>
          have leaf := prose_text (char :: rest) known
          exact List.forall_mem_singleton.mpr leaf
  | emphasis content =>
      have italic : marks ++ [italicMark] ⊆ proseMarks := marks_with known (by decide)
      exact inlines_prose italic content
  | strong content =>
      have bold : marks ++ [boldMark] ⊆ proseMarks := marks_with known (by decide)
      exact inlines_prose bold content
  | code raw =>
      have code : marks ++ [codeMark] ⊆ proseMarks := marks_with known (by decide)
      have leaf := prose_text raw code
      exact List.forall_mem_singleton.mpr leaf
  | link url content =>
      have inside := inlines_prose known content
      have anchor := @prose_of_kind .hyperlink rfl _ inside { uri := some url }
      exact List.forall_mem_singleton.mpr anchor
  | softBreak =>
      have blank := prose_text " " known
      exact List.forall_mem_singleton.mpr blank
  | hardBreak =>
      have blank := prose_text " " known
      exact List.forall_mem_singleton.mpr blank
  | other kind => exact List.forall_mem_nil _

theorem inlines_prose {marks : List Text} (known : marks ⊆ proseMarks) (tokens : List Inline) :
    ∀ given ∈ (inlineNodes marks tokens).value, Everywhere IsProse given := by
  cases tokens with
  | nil => exact List.forall_mem_nil _
  | cons token tokens =>
      have first := inline_prose known token
      have others := inlines_prose known tokens
      exact List.forall_mem_append.mpr ⟨first, others⟩

end

mutual

theorem block_prose (token : Block) : ∀ given ∈ token.nodes.value, Everywhere IsProse given := by
  have unmarked : [] ⊆ proseMarks := List.nil_subset _
  cases token with
  | paragraph content =>
      have inside := inlines_prose unmarked content
      have paragraph := @prose_of_kind .paragraph rfl _ inside {}
      exact List.forall_mem_singleton.mpr paragraph
  | heading level content =>
      have inside := inlines_prose unmarked content
      have heading := @prose_of_kind (.heading (clampedLevel level)) rfl _ inside {}
      exact List.forall_mem_singleton.mpr heading
  | code raw =>
      have code : [codeMark] ⊆ proseMarks := marks_with unmarked (by decide)
      have leaf := prose_text (Text.trimEnd raw) code
      have inside := List.forall_mem_singleton.mpr leaf
      have paragraph := @prose_of_kind .paragraph rfl [_] inside {}
      exact List.forall_mem_singleton.mpr paragraph
  | list ordered items =>
      have inside := items_prose items
      cases ordered with
      | false =>
          have bulleted := @prose_of_kind .unorderedList rfl _ inside {}
          exact List.forall_mem_singleton.mpr bulleted
      | true =>
          have numbered := @prose_of_kind .orderedList rfl _ inside {}
          exact List.forall_mem_singleton.mpr numbered
  | quote content =>
      have inside := blocks_prose content
      have blockquote := @prose_of_kind .blockquote rfl _ inside {}
      exact List.forall_mem_singleton.mpr blockquote
  | rule =>
      have rule := @prose_of_kind .rule rfl [] (List.forall_mem_nil _) {}
      exact List.forall_mem_singleton.mpr rule
  | blank => exact List.forall_mem_nil _
  | other kind => exact List.forall_mem_nil _

theorem items_prose (items : List (List Block)) :
    ∀ given ∈ (itemNodes items).value, Everywhere IsProse given := by
  cases items with
  | nil => exact List.forall_mem_nil _
  | cons item items =>
      have inside := blocks_prose item
      have first : Everywhere IsProse (Node.listItem ((blockNodes item).value.map .node)) := by
        rw [Node.list_item_of_nodes]
        exact prose_of_kind rfl inside {}
      have others := items_prose items
      exact List.forall_mem_cons.mpr ⟨first, others⟩

theorem blocks_prose (tokens : List Block) :
    ∀ given ∈ (blockNodes tokens).value, Everywhere IsProse given := by
  cases tokens with
  | nil => exact List.forall_mem_nil _
  | cons token tokens =>
      have first := block_prose token
      have others := blocks_prose tokens
      exact List.forall_mem_append.mpr ⟨first, others⟩

end

/-- The document that tokens stand for. -/
def documentOf (tokens : List Block) : Node := Node.document ((blockNodes tokens).value.map .node)

theorem document_children (tokens : List Block) :
    (documentOf tokens).children = (blockNodes tokens).value :=
  Node.of_kind_children .document _ {}

end Markdown

namespace Render

open Markdown (IsProse proseMarks)

/-! ## Prose refers to nothing -/

theorem prose_of_shown {given other : Node} (shown : Shown given other)
    (everywhere : Everywhere IsProse given) : IsProse other := by
  induction shown with
  | self given => exact everywhere.at_root
  | child member below induction =>
      exact induction (everywhere.at_children _ (Node.mem_children_of_shown member))

theorem prose_not_embedded {given : Node} (prose : IsProse given) :
    given.kind? ≠ some .embeddedEntry := by
  intro embeds
  have isProse := prose.kind
  rw [embeds] at isProse
  exact absurd isProse Bool.false_ne_true

/-- Prose expands no entry, so nothing is nested in it and nothing is added to a trail. -/
theorem prose_asks_nothing {siblings : List Node} (prose : ∀ given ∈ siblings, Everywhere IsProse given)
    (setting : Setting) (trail : Trail) (content : List Node) (inner : Trail) :
    ¬Asks setting siblings trail content inner := by
  rintro ⟨⟨top, member, shown⟩, expands, contains⟩
  exact prose_not_embedded (prose_of_shown shown (prose top member)) expands.embeds

/-! ## Renderings that are settled by the configuration -/

/-- All notices are about addresses that cannot be read. -/
def OnlyAddresses (notices : List Notice) : Prop :=
  ∀ notice ∈ notices, ∃ url reason, notice = .malformedUrl url reason

/-- A rendering against settings, nested documents and a trail. -/
abbrev Rendering (α : Type) := Setting → Embed.Nested → Trail → Traced Fault α

/-- A rendering has one result under all settings with a configuration, whatever is nested and whatever is
around it, and it reports addresses only. -/
def Settled {α : Type} (config : Config) (rendering : Rendering α) : Prop :=
  ∃ noted : Noted α, OnlyAddresses noted.notices ∧ ∀ setting, setting.config = config →
    ∀ nested trail, rendering setting nested trail = Traced.ofNoted noted

section Settled

variable {α β : Type} {config : Config}

theorem settled_noted {noted : Setting → Noted α} (only : OnlyAddresses (noted { config }).notices)
    (same : ∀ setting, noted setting = noted { config := setting.config }) :
    Settled config fun setting _ _ => Traced.ofNoted (noted setting) := by
  refine ⟨noted { config }, only, ?_⟩
  rintro setting rfl nested trail
  exact congrArg Traced.ofNoted (same setting)

theorem settled_pure (value : α) : Settled config fun _ _ _ => pure value :=
  ⟨pure value, List.forall_mem_nil _, fun _ _ _ _ => rfl⟩

theorem settled_bind {first : Rendering α} {next : α → Rendering β} (before : Settled config first)
    (after : ∀ value, Settled config (next value)) : Settled config fun setting nested trail =>
      first setting nested trail >>= fun value => next value setting nested trail := by
  obtain ⟨noted, only, same⟩ := before
  obtain ⟨further, onlyFurther, sameFurther⟩ := after noted.value
  refine ⟨⟨noted.notices ++ further.notices, further.value⟩,
    List.forall_mem_append.mpr ⟨only, onlyFurther⟩, ?_⟩
  intro setting isConfig nested trail
  have joined : (Traced.ofNoted noted >>= fun value => next value setting nested trail) =
      Traced.ofNoted ⟨noted.notices ++ further.notices, further.value⟩ := by
    rw [Traced.of_noted_bind, sameFurther setting isConfig]
    rfl
  rw [← joined, ← same setting isConfig nested trail]

theorem settled_congr {first second : Rendering α} (settled : Settled config second)
    (same : ∀ setting nested trail, first setting nested trail = second setting nested trail) :
    Settled config first := by
  obtain ⟨noted, only, result⟩ := settled
  refine ⟨noted, only, ?_⟩
  intro setting isConfig nested trail
  rw [same, result setting isConfig]

end Settled

/-! ## Prose -/

section Prose

variable {config : Config}

theorem hyperlink_settled (payload : Node.Payload) (content : Text) :
    Settled config fun setting _ _ => Traced.ofNoted (hyperlink setting payload content) := by
  have external (url : Text) (siteDomain : Option Text) :
      OnlyAddresses (Url.isExternal url siteDomain).notices := by
    unfold Url.isExternal
    split
    · exact List.forall_mem_nil _
    · exact List.forall_mem_singleton.mpr ⟨_, _, rfl⟩
  apply settled_noted
  · unfold hyperlink
    simp only
    split
    · exact List.forall_mem_append.mpr ⟨external _ _, List.forall_mem_nil _⟩
    · exact List.forall_mem_nil _
  · intro setting
    rfl

theorem marked_notices (content : Text) {marks : List Text} (known : marks ⊆ proseMarks) :
    (markedText content marks).notices = [] := by
  induction marks with
  | nil => rfl
  | cons mark marks induction =>
      obtain ⟨isKnown, others⟩ := List.cons_subset.mp known
      have tagged : ∀ mark ∈ proseMarks, Markup.markTag? mark ≠ none := by decide
      rw [markedText, Noted.bind_notices, induction others]
      split
      · rfl
      · rename_i unmarked
        exact absurd (Option.map_eq_none_iff.mp unmarked) (tagged mark isKnown)

theorem leaf_settled (value : Text) {marks : List Text} (known : marks ⊆ proseMarks) :
    Settled config fun _ _ _ => Traced.ofNoted (leaf value marks) := by
  apply @settled_noted _ _ fun _ => leaf value marks
  · rw [leaf, marked_notices _ known]
    exact List.forall_mem_nil _
  · intro setting
    rfl

variable {given : Node}

theorem enclosed_settled (prose : IsProse given) (unwrap : Bool) (parts : List Text) :
    Settled config fun setting _ _ => enclosed setting unwrap given parts := by
  have isProse := prose.kind
  unfold enclosed
  cases found : given.kind? with
  | none => exact settled_pure _
  | some kind =>
      rw [found] at isProse
      cases kind with
      -- Of all prose, links alone look at the settings: at those for links to other sites.
      | hyperlink => exact hyperlink_settled given.payload parts.flatten
      | text => exact leaf_settled given.value prose.marks
      | entryHyperlink | assetHyperlink | embeddedEntryInline | embeddedAsset =>
          exact absurd isProse Bool.false_ne_true
      | _ => exact settled_pure _

theorem prose_unannounced (prose : IsProse given) : announced given = pure () := by
  have isProse := prose.kind
  unfold announced
  split
  · rfl
  · rename_i name unknown same
    rw [Node.kind?, same] at isProse
    exact absurd isProse Bool.false_ne_true

theorem nodes_settled {siblings : List Node} {unwrap : Bool}
    (each : ∀ child ∈ siblings, ∀ place, Settled config fun setting nested trail =>
      node setting nested trail place unwrap child) (before : List Node) :
    Settled config fun setting nested trail => nodes setting nested trail before unwrap siblings := by
  induction siblings generalizing before with
  | nil => exact settled_pure []
  | cons child siblings induction =>
      have others := induction fun other member => each other (List.mem_cons_of_mem _ member)
      exact settled_bind (each child List.mem_cons_self _) fun first =>
        settled_bind (others _) fun rest => settled_pure _

/-- The induction is on the tree. Nested documents and the trail are handed down, but no node of prose
asks for them. -/
theorem node_settled (everywhere : Everywhere IsProse given) :
    ∀ place unwrap, Settled config fun setting nested trail =>
      node setting nested trail place unwrap given := by
  induction everywhere with
  | @node given prose below induction =>
      intro place unwrap
      have inside := nodes_settled (fun child member place =>
        induction child (Node.mem_children_of_shown member) place given.unwrapsParagraphs) []
      apply settled_congr (settled_bind inside fun parts => enclosed_settled prose unwrap parts)
      intro setting nested trail
      rw [node_step, prose_unannounced prose]
      simp only [finished, if_neg (prose_not_embedded prose)]
      rfl

end Prose

/-- A document of prose renders to one text under all settings with a configuration. -/
theorem document_settled (config : Config) {root : Node} (isDocument : root.kind? = some .document)
    (prose : ∀ given ∈ root.children, Everywhere IsProse given) :
    ∃ noted : Noted Text, OnlyAddresses noted.notices ∧
      ∀ setting, setting.config = config → document setting root = Traced.ofNoted noted := by
  have settled := nodes_settled (fun child member place =>
    @node_settled config child (prose child member) place false) []
  obtain ⟨noted, only, same⟩ := settled_bind settled fun parts => settled_pure (joinBlocks parts)
  refine ⟨noted, only, ?_⟩
  intro setting isConfig
  rw [document_eq isDocument, ← same setting isConfig (blocks setting) []]
  exact blocks_eq trail_nil_known

/-! ## Markdown -/

open Markdown (Block documentOf)

/-- The document of any tokens is prose. It renders to the same, with the same notices, whatever is stored
and whatever hooks the caller has; nothing is nested in it, and no marker and no unknown tag or mark is
reported. -/
theorem markdown_renders_alone (tokens : List Block) :
    (∀ given ∈ (documentOf tokens).children, Everywhere IsProse given) ∧
      (∀ first second : Setting, first.config = second.config →
        document first (documentOf tokens) = document second (documentOf tokens)) ∧
      (∀ setting, Returns (document setting (documentOf tokens)).outcome ∧
        OnlyAddresses (document setting (documentOf tokens)).notices) ∧
      (∀ setting trail content inner,
        ¬Asks setting (documentOf tokens).children trail content inner) ∧
      ∀ values, Markdown.Token.AreBlocks values tokens →
        (Markdown.Token.nodesOf values).outcome = .ok (documentOf tokens).children := by
  have prose : ∀ given ∈ (documentOf tokens).children, Everywhere IsProse given := by
    rw [Markdown.document_children]
    exact Markdown.blocks_prose tokens
  refine ⟨prose, ?_, ?_, ?_, ?_⟩
  · intro first second config
    obtain ⟨noted, only, same⟩ := document_settled second.config rfl prose
    rw [same first config, same second rfl]
  · intro setting
    obtain ⟨noted, only, same⟩ := document_settled setting.config rfl prose
    rw [same setting rfl]
    exact ⟨returns_ok noted.value, only⟩
  · exact prose_asks_nothing prose
  · intro values described
    rw [Markdown.Token.nodes_of_described described, Markdown.document_children]
    rfl

def hostileTokens : List Block := [
  .heading 9 [.text "[richdoc_table id=\"t\"]"],
  .list true [[.quote [.paragraph [.link "/t" [.strong [.code "t"]], .softBreak, .other "image"]]]],
  .other "block_html"]

/-- A table with an id, and hooks that answer with that id. -/
def storedSetting : Setting where
  store := { entries := [{ id := "t", contentType := "dataTable" }] }
  entryUrl := some fun id _ => some id
  entryMarkup := some fun id _ => some id

theorem hostile_markdown_renders_alone :
    storedSetting.config = ({} : Setting).config ∧
      document storedSetting (documentOf hostileTokens) = document {} (documentOf hostileTokens) ∧
      (document storedSetting (documentOf hostileTokens)).outcome =
        .ok (("<h6 id=\"richdoctable-idt\">[richdoc_table id=&quot;t&quot;]</h6>\n\n" : Text) ++
          "<ol>\n<li><blockquote>\n<p><a href=\"/t\"><strong><code>t</code></strong></a> </p>\n" ++
          "</blockquote></li>\n</ol>") := by
  have same := (markdown_renders_alone hostileTokens).2.1 storedSetting {} rfl
  exact ⟨rfl, same, rfl⟩

end Render

end RichText
