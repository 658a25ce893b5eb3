import RichText.Proofs.Node.Order
import RichText.Proofs.Page.Opening
import RichText.Proofs.Render.Embed
import RichText.Proofs.Render.Step

/-!
The headings of a document and those of its rendering. Every node writes its children into markup of its
own, in their order, and only a heading writes a heading; a scan of the whole finds those of the tree.
-/

namespace RichText

namespace Node

def embedsEntry (given : Node) : Bool := given.kind? = some .embeddedEntry

theorem plain_text_of_eq (siblings : List Node) :
    plainTextOf siblings = siblings.flatMap plainText := by
  induction siblings with
  | nil => rfl
  | cons given siblings induction => rw [plainTextOf, induction, List.flatMap_cons]

end Node

/-- The heading that a node is, unless its text is blank. -/
def Page.Heading.ofNode? (given : Node) : Option Page.Heading :=
  given.headingLevel?.bind fun level => Page.Heading.ofText? level.number given.plainText

namespace Render

open Page (Heading)
open Page.Heading (Scanned ScannedAll Marked Linked)

/-! ## Headings of a tree -/

def shownHeadings (given : Node) : List Heading :=
  (given.inOrder Node.embedsEntry).filterMap Heading.ofNode?

def shownHeadingsAmong (siblings : List Node) : List Heading :=
  (Node.inOrderAmong Node.embedsEntry siblings).filterMap Heading.ofNode?

theorem shown_headings_among_eq (siblings : List Node) :
    shownHeadingsAmong siblings = siblings.flatMap shownHeadings := by
  rw [shownHeadingsAmong, Node.in_order_among_eq, List.filterMap_flatMap]
  rfl

theorem shown_headings_cons (given : Node) (siblings : List Node) :
    shownHeadingsAmong (given :: siblings) = shownHeadings given ++ shownHeadingsAmong siblings := by
  rw [shown_headings_among_eq, shown_headings_among_eq, List.flatMap_cons]

theorem shown_headings_eq (given : Node) : shownHeadings given =
    (Heading.ofNode? given).toList ++
      if given.embedsEntry then [] else shownHeadingsAmong given.children := by
  rw [shown_headings_among_eq]
  exact Node.filter_map_in_order Node.embedsEntry Heading.ofNode? given

theorem container_headings {given : Node} (notHeading : given.headingLevel? = none)
    (notEmbedded : given.embedsEntry = false) :
    shownHeadings given = shownHeadingsAmong given.children := by
  rw [shown_headings_eq, Heading.ofNode?, notHeading, notEmbedded]
  rfl

/-! ## Text leaves -/

theorem ordinary_mark {mark tag : Text} (known : Markup.markTag? mark = some tag) :
    Heading.isOrdinary tag = true := by
  unfold Markup.markTag? at known
  split_ifs at known
  all_goals
    obtain rfl := Option.some.inj known
    decide

theorem marked_element {tag content text : Text} (ordinary : Heading.isOrdinary tag = true)
    (marked : Marked content text) : Marked (Markup.element tag [] content) text := by
  have whole := ((Marked.opening ordinary).append marked).append (.closing ordinary)
  rw [List.nil_append, List.append_nil] at whole
  have written : Markup.element tag [] content =
      '<' :: tag ++ [('>' : Char)] ++ content ++ ('<' :: '/' :: tag ++ [('>' : Char)]) := by
    simp [Markup.element, Markup.attributesText]
  rwa [written]

theorem leaf_marked (value : Text) (marks : List Text) :
    Marked (leaf value marks).value (Text.escape value) := by
  unfold leaf
  induction marks with
  | nil => exact .plain (Markup.escape_free (.inr (.inl rfl)) value)
  | cons mark marks induction =>
      rw [markedText, Noted.bind_value]
      split
      · rename_i wrapped found
        obtain ⟨tag, known, rfl⟩ := Option.map_eq_some_iff.mp found
        exact marked_element (ordinary_mark known) induction
      · exact induction

section Trees

variable {setting : Setting} {nested : Embed.Nested} {trail : Trail}

theorem text_linked {given : Node} (isText : given.kind? = some .text) (noChildren : given.children = [])
    (place : Place) (unwrap : Bool) :
    Yields (node setting nested trail place unwrap given)
      fun text => Linked text (Text.escape given.plainText) := by
  have tag := Node.tag_of_kind isText
  obtain ⟨_, _, value, marks, payload⟩ := given
  obtain rfl := tag
  obtain rfl := noChildren
  have plain : Node.plainText ⟨.known .text, [], value, marks, payload⟩ = value := by
    rw [Node.plainText]
    split
    · rename_i empty
      exact (List.isEmpty_iff.mp empty).symm
    · rfl
  refine ⟨_, rfl, ?_⟩
  rw [plain]
  exact .marked (leaf_marked value marks)

/-- If each of some nodes renders to a text with marks and links in it, they render to their texts in a
row. -/
theorem nodes_linked {siblings : List Node} {unwrap : Bool} (shown : Node → Text)
    (each : ∀ child ∈ siblings, ∀ place, Yields (node setting nested trail place unwrap child)
      fun text => Linked text (Text.escape (shown child)))
    (before : List Node) :
    Yields (nodes setting nested trail before unwrap siblings)
      fun parts => Linked parts.flatten (Text.escape (siblings.flatMap shown)) := by
  induction siblings generalizing before with
  | nil => exact yields_pure (.marked (.plain List.not_mem_nil))
  | cons child siblings induction =>
      obtain ⟨first, others⟩ := List.forall_mem_cons.mp each
      have together : Text.escape ((child :: siblings).flatMap shown) =
          Text.escape (shown child) ++ Text.escape (siblings.flatMap shown) := by
        rw [List.flatMap_cons, Text.escape, List.flatMap_append]
        rfl
      rw [nodes_cons]
      apply yields_bind (first _)
      intro text linked
      apply yields_bind (induction others (child :: before))
      intro parts further
      apply yields_pure
      rw [together]
      exact linked.append further

/-! ## Blocks -/

theorem span_unopened {name : Text} (nameFree : '<' ∉ name) (span : Option Int) :
    Heading.AllUnopened (Markup.spanAttribute name span) := by
  unfold Markup.spanAttribute
  split
  · rename_i size
    split
    · have free : '<' ∉ Text.ofInt size := Text.of_int_free (by decide) rfl size
      exact List.forall_mem_singleton.mpr ⟨nameFree, Heading.unopened_plain free⟩
    · exact List.forall_mem_nil _
  · exact List.forall_mem_nil _

section Blocks

variable {content : Text} {parts : List Text} {headings : List Heading}

theorem scanned_lines (inside : Scanned content headings) :
    Scanned (Markup.lines content) headings := by
  have ends : Scanned ("\n" : Text) [] := Heading.scanned_plain (by decide)
  have whole := Heading.scanned_append (Heading.scanned_append ends inside) ends
  rwa [List.nil_append, List.append_nil] at whole

theorem scanned_bare {tag : Text} (ordinary : Heading.isOrdinary tag = true)
    (inside : Scanned content headings) : Scanned (Markup.element tag [] content) headings :=
  Heading.scanned_element ordinary List.not_mem_nil inside

theorem scanned_paragraph (inside : Scanned content headings) :
    Scanned (paragraph content) headings := by
  unfold paragraph
  split
  · rename_i blank
    have free : '<' ∉ content := by
      intro member
      have visible := Text.mem_trim member (by decide)
      rw [List.isEmpty_iff.mp blank] at visible
      exact absurd visible List.not_mem_nil
    obtain rfl := Heading.scanned_unique inside (Heading.scanned_plain free)
    exact Heading.scanned_nil
  · exact scanned_bare (by decide) inside

theorem scanned_cell (isHeader : Bool) (colspan rowspan : Option Int)
    (inside : Scanned content headings) :
    Scanned (Markup.tableCell content isHeader colspan rowspan) headings := by
  have ordinary : Heading.isOrdinary (if isHeader then "th" else "td") = true := by
    cases isHeader
    · decide
    · decide
  apply Heading.scanned_tagged ordinary ?_ inside
  apply Heading.scanned_attributes
  intro pair member
  rcases List.mem_append.mp member with column | row
  · exact span_unopened (by decide) colspan pair column
  · exact span_unopened (by decide) rowspan pair row

variable (all : ScannedAll parts headings)

include all

theorem scanned_list (ordered : Bool) : Scanned (Markup.listBlock parts ordered) headings := by
  have ordinary : Heading.isOrdinary (if ordered then "ol" else "ul") = true := by
    cases ordered
    · decide
    · decide
  exact scanned_bare ordinary (scanned_lines (Heading.scanned_join all (by decide)))

theorem scanned_table : Scanned (Markup.table parts) headings := by
  apply Heading.scanned_element (by decide) (by decide)
  apply scanned_lines
  apply scanned_bare (by decide)
  exact scanned_lines (Heading.scanned_join all (by decide))

theorem scanned_join_blocks : Scanned (joinBlocks parts) headings :=
  Heading.scanned_join (Heading.scanned_filter all) (by decide)

end Blocks

/-! ## Embedded entries -/

/-- A node embeds a table of contents or a data table whose id does not open a tag. -/
structure EmbedsMarker (setting : Setting) (given : Node) (entry : Entry) : Prop where
  target : given.targetId = some entry.id
  found : setting.store.entry? entry.id = some entry
  noMarkup : hookResult setting.entryMarkup entry.id (some entry) = none
  kind : setting.kindOf entry = .tableOfContents ∨ setting.kindOf entry = .dataTable
  free : '<' ∉ entry.id

/-- A marker of an id and perhaps a key, as those of tables and of tables of contents are. -/
theorem plain_marker_scanned {kind : Marker.Kind} {id : Text} {key : Option Text} (idFree : '<' ∉ id)
    (keyFree : ∀ hint, key = some hint → '<' ∉ hint) :
    Scanned ({ kind, id, key } : Marker).toText [] := by
  apply Heading.scanned_marker
  intro pair member
  unfold Marker.written at member
  rw [List.filter_nil, List.append_nil] at member
  rcases List.mem_append.mp member with isId | isKey
  · obtain rfl := List.mem_singleton.mp isId
    have nameFree : '<' ∉ ("id" : Text) := by decide
    exact ⟨nameFree, Heading.unopened_plain idFree⟩
  · obtain ⟨hint, inside, rfl⟩ := List.mem_map.mp isKey
    have nameFree : '<' ∉ ("key" : Text) := by decide
    have kept : Option.filter (fun key => !key.isEmpty) key = some hint := Option.mem_toList.mp inside
    have hintFree := keyFree hint (Option.filter_eq_some_iff.mp kept).1
    exact ⟨nameFree, Heading.unopened_plain hintFree⟩

theorem embedded_scanned {given : Node} {entry : Entry} (embeds : EmbedsMarker setting given entry)
    (place : Place) :
    Yields (embeddedEntry setting nested { id := given.targetId, place, inline := false, trail })
      fun text => Scanned text [] := by
  have found := embeds.found
  rw [embeds.target]
  rcases embeds.kind with kind | kind
  · have block : Embed.block? setting nested { id := some entry.id, place, inline := false, trail }
        entry (setting.kindOf entry) = some (Embed.emit (Embed.contentsMarker entry)) := by
      rw [kind]
      rfl
    rw [embedded_found found embeds.noMarkup block]
    exact ⟨_, rfl, plain_marker_scanned embeds.free nofun⟩
  · have block : Embed.block? setting nested { id := some entry.id, place, inline := false, trail }
        entry (setting.kindOf entry) = some (do
          let marker ← (Embed.tableMarker entry place : Noted Marker)
          Embed.emit marker) := by
      rw [kind]
      rfl
    rw [embedded_found found embeds.noMarkup block]
    refine ⟨_, rfl, plain_marker_scanned embeds.free ?_⟩
    intro hint same
    obtain ⟨-, text, rfl⟩ := hint_before_slug place.index place.before hint same
    exact Text.slug_free (by decide) (by decide) Text.isBlank text

/-! ## Whole documents -/

/-- A node of a document whose headings hold text only, and whose embeddings are tables and tables of
contents. Nothing but text has a value. -/
def Outlined (setting : Setting) (given : Node) : Prop :=
  match given.kind? with
  | some .text => given.children = []
  | some .rule => given.value = [] ∧ given.children = []
  | some (.heading _) => given.value = [] ∧ ∀ child ∈ given.children, child.kind? = some .text
  | some .embeddedEntry => given.value = [] ∧ ∃ entry, EmbedsMarker setting given entry
  | some .hyperlink | some .entryHyperlink | some .assetHyperlink | some .embeddedEntryInline
  | some .embeddedAsset => False
  | _ => given.value = []

/-- If each of some nodes renders to a text with certain headings, they have these headings in a row. -/
theorem nodes_scanned_each {siblings : List Node} {unwrap : Bool} (found : Node → List Heading)
    (each : ∀ child ∈ siblings, ∀ place, Yields (node setting nested trail place unwrap child)
      fun text => Scanned text (found child))
    (before : List Node) :
    Yields (nodes setting nested trail before unwrap siblings)
      fun parts => ScannedAll parts (siblings.flatMap found) := by
  induction siblings generalizing before with
  | nil => exact yields_pure .nil
  | cons child siblings induction =>
      obtain ⟨first, others⟩ := List.forall_mem_cons.mp each
      rw [nodes_cons, List.flatMap_cons]
      apply yields_bind (first _)
      intro text scanned
      apply yields_bind (induction others (child :: before))
      intro parts all
      exact yields_pure (.cons scanned all)

theorem nodes_scanned {siblings : List Node} {unwrap : Bool}
    (each : ∀ child ∈ siblings, ∀ place, Yields (node setting nested trail place unwrap child)
      fun text => Scanned text (shownHeadings child))
    (before : List Node) :
    Yields (nodes setting nested trail before unwrap siblings)
      fun parts => ScannedAll parts (shownHeadingsAmong siblings) := by
  rw [shown_headings_among_eq]
  exact nodes_scanned_each shownHeadings each before

theorem leaf_headings {siblings : List Node}
    (leaves : ∀ child ∈ siblings, child.kind? = some .text ∧ child.children = []) :
    shownHeadingsAmong siblings = [] := by
  induction siblings with
  | nil => rfl
  | cons child siblings induction =>
      obtain ⟨⟨isText, noChildren⟩, others⟩ := List.forall_mem_cons.mp leaves
      have tag := Node.tag_of_kind isText
      rw [shown_headings_cons, shown_headings_eq, induction others, noChildren]
      simp [Heading.ofNode?, Node.headingLevel?, Node.Tag.headingLevel?, tag,
        shownHeadingsAmong, Node.inOrderAmong]

theorem heading_scanned {given : Node} {level : HeadingLevel}
    (isHeading : given.tag = .known (.heading level)) (noValue : given.value = [])
    (leaves : ∀ child ∈ given.children, child.kind? = some .text ∧ child.children = [])
    (place : Place) (unwrap : Bool) :
    Yields (node setting nested trail place unwrap given)
      fun text => Scanned text (shownHeadings given) := by
  have found : shownHeadings given =
      (Heading.ofText? level.number given.plainText).toList := by
    rw [shown_headings_eq, leaf_headings leaves, ite_self, List.append_nil, Heading.ofNode?]
    simp [Node.headingLevel?, Node.Tag.headingLevel?, isHeading]
  have plain : given.plainText = given.children.flatMap Node.plainText := by
    obtain ⟨tag, children, value, marks, payload⟩ := given
    obtain rfl := noValue
    exact Node.plain_text_of_eq children
  have inside := @nodes_linked setting nested trail given.children false Node.plainText
    (fun child member place => text_linked (leaves child member).1 (leaves child member).2 place false) []
  rw [found]
  obtain ⟨tag, children, value, marks, payload⟩ := given
  obtain rfl := isHeading
  apply yields_map inside
  intro parts linked
  rw [← plain] at linked
  exact Heading.scanned_linked level _ linked

theorem node_scanned {given : Node} (outlined : Everywhere (Outlined setting) given) :
    ∀ place unwrap, Yields (node setting nested trail place unwrap given)
      fun text => Scanned text (shownHeadings given) := by
  induction outlined with
  | @node given here below induction =>
      intro place unwrap
      have inside (unwrap : Bool) := @nodes_scanned setting nested trail given.children unwrap
        (fun child member place => induction child member place unwrap) []
      obtain ⟨tag, children, value, marks, payload⟩ := given
      cases tag with
      | other name unknown =>
          rw [container_headings rfl rfl]
          apply yields_bind (yields_note _)
          intro _ _
          exact yields_map (inside false) fun _ all => Heading.scanned_flatten all
      | known kind =>
          cases kind with
          | document =>
              rw [container_headings rfl rfl]
              exact yields_map (inside false) fun _ all => scanned_join_blocks all
          | paragraph =>
              rw [container_headings rfl rfl]
              apply yields_map (inside false)
              intro parts all
              cases unwrap
              · exact scanned_paragraph (Heading.scanned_flatten all)
              · exact Heading.scanned_flatten all
          | heading level =>
              obtain ⟨noValue, texts⟩ := here
              apply heading_scanned rfl noValue
              intro child member
              have isText := texts child member
              have outlinedChild := (below child member).at_root
              unfold Outlined at outlinedChild
              rw [isText] at outlinedChild
              exact ⟨isText, outlinedChild⟩
          | unorderedList =>
              rw [container_headings rfl rfl]
              exact yields_map (inside false) fun _ all => scanned_list all false
          | orderedList =>
              rw [container_headings rfl rfl]
              exact yields_map (inside false) fun _ all => scanned_list all true
          | listItem =>
              rw [container_headings rfl rfl]
              exact yields_map (inside true) fun _ all =>
                scanned_bare (by decide) (Heading.scanned_flatten all)
          | blockquote =>
              rw [container_headings rfl rfl]
              exact yields_map (inside false) fun _ all =>
                scanned_bare (by decide) (scanned_lines (Heading.scanned_join all (by decide)))
          | rule =>
              obtain ⟨-, noChildren⟩ := here
              rw [container_headings rfl rfl, noChildren]
              exact yields_pure Heading.scanned_rule
          | embeddedEntry =>
              obtain ⟨-, entry, embeds⟩ := here
              exact embedded_scanned embeds place
          | text =>
              have noChildren : children = [] := here
              have noHeading : shownHeadings ⟨.known .text, children, value, marks, payload⟩ = [] := by
                rw [container_headings rfl rfl, noChildren]
                rfl
              rw [noHeading]
              exact ⟨_, rfl, Heading.scanned_marked (leaf_marked value marks)⟩
          | table =>
              rw [container_headings rfl rfl]
              exact yields_map (inside false) fun _ all => scanned_table all
          | tableRow =>
              rw [container_headings rfl rfl]
              exact yields_map (inside false) fun _ all =>
                scanned_bare (by decide) (Heading.scanned_flatten all)
          | tableCell =>
              rw [container_headings rfl rfl]
              exact yields_map (inside true) fun _ all =>
                scanned_cell false payload.colspan payload.rowspan (Heading.scanned_flatten all)
          | tableHeaderCell =>
              rw [container_headings rfl rfl]
              exact yields_map (inside true) fun _ all =>
                scanned_cell true payload.colspan payload.rowspan (Heading.scanned_flatten all)
          | hyperlink | entryHyperlink | assetHyperlink | embeddedEntryInline | embeddedAsset =>
              exact absurd here id

end Trees

/-- A scan of the rendering finds the headings that are shown in the document: with their levels, the
slugs of their texts, and their texts. -/
theorem document_headings_found (setting : Setting) (root : Node)
    (isDocument : root.kind? = some .document) (outlined : Everywhere (Outlined setting) root) :
    ∃ fragment, (document setting root).outcome = .ok fragment ∧
      Heading.scan fragment = .ok ((root.inOrder Node.embedsEntry).filterMap Heading.ofNode?) := by
  have inside := @nodes_scanned setting (blocksWithin setting setting.store.entries.length) []
    root.children false (fun child member place =>
      node_scanned (outlined.at_children child member) place false) []
  have tag := Node.tag_of_kind isDocument
  have among : shownHeadings root = shownHeadingsAmong root.children := by
    apply container_headings
    · rw [Node.headingLevel?, tag]
      rfl
    · rw [Node.embedsEntry, isDocument]
      rfl
  have rendered : document setting root = (do
      let parts ← nodes setting (blocksWithin setting setting.store.entries.length) [] [] false
        root.children
      return joinBlocks parts) := document_eq isDocument
  have joined : Yields (document setting root) fun text => Scanned text (shownHeadings root) := by
    rw [rendered, among]
    exact yields_map inside fun _ all => scanned_join_blocks all
  obtain ⟨fragment, outcome, scanned⟩ := joined
  exact ⟨fragment, outcome, Page.Heading.scan_of_scanned scanned⟩

/-- A table of contents that documents embed. -/
def contentsSetting : Setting where
  store := { entries := [{ id := "t", contentType := "tableOfContents" }] }

theorem contents_outlined {given : Node} (embeds : given.kind? = some .embeddedEntry)
    (target : given.targetId = some "t".toList) (noValue : given.value = []) :
    Outlined contentsSetting given := by
  unfold Outlined
  rw [embeds]
  exact ⟨noValue, { id := "t", contentType := "tableOfContents" },
    target, rfl, rfl, .inl rfl, by decide⟩

theorem text_outlined (value : Text) (marks : List Text) :
    Everywhere (Outlined contentsSetting) (Node.text value marks) :=
  .node rfl (List.forall_mem_nil _)

/-- A heading with a reference that only its two texts together spell. -/
def spelledHeading : Node :=
  Node.heading ⟨2, two_is_level⟩ [
    .node (Node.text "a &am" []), .node (Node.text "p; <b>" ["bold"])]

def headingList : Node := Node.unorderedList [.node (Node.listItem [spelledHeading])]

theorem listed_heading_found :
    (Node.document [headingList, Node.embeddedEntry "t" false]).kind? = some .document ∧
      Everywhere (Outlined contentsSetting)
        (Node.document [headingList, Node.embeddedEntry "t" false]) ∧
      ∃ fragment, (document contentsSetting
          (Node.document [headingList, Node.embeddedEntry "t" false])).outcome = .ok fragment ∧
        Heading.scan fragment = .ok [⟨2, "a-amp-b", "a &amp; <b>"⟩] := by
  have heading : Everywhere (Outlined contentsSetting) spelledHeading := by
    have last := List.forall_mem_singleton.mpr (text_outlined "p; <b>" ["bold"])
    refine .node ⟨rfl, List.forall_mem_cons.mpr ⟨rfl, List.forall_mem_singleton.mpr rfl⟩⟩ ?_
    exact List.forall_mem_cons.mpr ⟨text_outlined _ _, last⟩
  have item : Everywhere (Outlined contentsSetting) (Node.listItem [spelledHeading]) :=
    .node rfl (List.forall_mem_singleton.mpr heading)
  have list : Everywhere (Outlined contentsSetting) headingList :=
    .node rfl (List.forall_mem_singleton.mpr item)
  have contents : Everywhere (Outlined contentsSetting) (Node.embeddedEntry "t" false) :=
    .node (contents_outlined rfl rfl rfl) (List.forall_mem_nil _)
  have outlined : Everywhere (Outlined contentsSetting)
      (Node.document [headingList, Node.embeddedEntry "t" false]) :=
    .node rfl (List.forall_mem_cons.mpr ⟨list, List.forall_mem_singleton.mpr contents⟩)
  obtain ⟨fragment, outcome, found⟩ := document_headings_found contentsSetting _ rfl outlined
  exact ⟨rfl, outlined, fragment, outcome, found.trans (congrArg Except.ok (by decide +kernel))⟩

/-- A table of contents that is embedded with a heading inside. -/
def contentsWithHeading : Node :=
  { Node.embeddedEntry "t" false with children := [Node.heading ⟨2, two_is_level⟩ [.words "X"]] }

/-- The heading is one of the document, but it is not shown, so it is not found. -/
theorem hidden_heading_not_found :
    (Node.document [contentsWithHeading]).kind? = some .document ∧
      Everywhere (Outlined contentsSetting) (Node.document [contentsWithHeading]) ∧
      ((Node.document [contentsWithHeading]).inOrder fun _ => false).filterMap Heading.ofNode? =
        [⟨2, "x", "X"⟩] ∧
      ∃ fragment, (document contentsSetting (Node.document [contentsWithHeading])).outcome =
          .ok fragment ∧
        Heading.scan fragment = .ok [] := by
  have heading : Everywhere (Outlined contentsSetting) (Node.heading ⟨2, two_is_level⟩ [.words "X"]) :=
    .node ⟨rfl, List.forall_mem_singleton.mpr rfl⟩ (List.forall_mem_singleton.mpr (text_outlined _ _))
  have contents : Everywhere (Outlined contentsSetting) contentsWithHeading :=
    .node (contents_outlined rfl rfl rfl) (List.forall_mem_singleton.mpr heading)
  exact ⟨rfl, .node rfl (List.forall_mem_singleton.mpr contents), by decide +kernel, _, rfl, rfl⟩

end Render

end RichText
