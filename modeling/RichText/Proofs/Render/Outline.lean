import RichText.Proofs.Render.Headings

/-!
Addresses of links and titles of components in the scan for headings. They are attribute values, which
are no part of the outline of a page; but the scan does not tell them from markup. It finds the outline
as long as no heading opens in a value between the headings, and no address inside of a heading ends a
tag. Then the headings of a page are the same whatever else the addresses and titles are.
-/

namespace RichText

open Page (Heading)

namespace Node

mutual

/-- The text that is shown under a node: that of its leaves. -/
def shownText : Node → Text
  | ⟨tag, children, value, _, _⟩ => if tag = .known .text then value else shownTextAmong children

def shownTextAmong : List Node → Text
  | [] => []
  | given :: siblings => shownText given ++ shownTextAmong siblings

end

theorem shown_text_among_eq (siblings : List Node) :
    shownTextAmong siblings = siblings.flatMap shownText := by
  induction siblings with
  | nil => rfl
  | cons given siblings induction => rw [shownTextAmong, induction, List.flatMap_cons]

/-- Texts and embedded entries do not show what stands under them. -/
def isClosed (given : Node) : Bool :=
  given.tag = .known .text || given.tag = .known .embeddedEntry

/-- The heading that a node is, unless it shows no text. -/
def shownHeading? (given : Node) : Option Heading :=
  given.headingLevel?.bind fun level =>
    Heading.ofTexts? level.number given.plainText given.shownText

/-- The headings of a tree, in order. -/
def outline (given : Node) : List Heading := (given.inOrder isClosed).filterMap shownHeading?

theorem outline_eq (given : Node) : given.outline = given.shownHeading?.toList ++
    if given.isClosed then [] else given.children.flatMap outline :=
  filter_map_in_order isClosed shownHeading? given

/-! ## Trees without addresses -/

mutual

/-- The tree with all addresses left out. -/
def withoutUris : Node → Node
  | ⟨tag, children, value, marks, payload⟩ =>
      ⟨tag, withoutUrisAmong children, value, marks, { payload with uri := none }⟩

def withoutUrisAmong : List Node → List Node
  | [] => []
  | given :: siblings => withoutUris given :: withoutUrisAmong siblings

end

mutual

theorem plain_text_without_uris (given : Node) : given.withoutUris.plainText = given.plainText := by
  obtain ⟨tag, children, value, marks, payload⟩ := given
  rw [withoutUris, plainText, plainText, plain_text_of_without_uris children]

theorem plain_text_of_without_uris (siblings : List Node) :
    plainTextOf (withoutUrisAmong siblings) = plainTextOf siblings := by
  cases siblings with
  | nil => rfl
  | cons given siblings =>
      rw [withoutUrisAmong, plainTextOf, plainTextOf, plain_text_without_uris given,
        plain_text_of_without_uris siblings]

end

mutual

theorem shown_text_without_uris (given : Node) : given.withoutUris.shownText = given.shownText := by
  obtain ⟨tag, children, value, marks, payload⟩ := given
  rw [withoutUris, shownText, shownText, shown_text_among_without_uris children]

theorem shown_text_among_without_uris (siblings : List Node) :
    shownTextAmong (withoutUrisAmong siblings) = shownTextAmong siblings := by
  cases siblings with
  | nil => rfl
  | cons given siblings =>
      rw [withoutUrisAmong, shownTextAmong, shownTextAmong, shown_text_without_uris given,
        shown_text_among_without_uris siblings]

end

theorem tag_without_uris (given : Node) : given.withoutUris.tag = given.tag := by
  obtain ⟨tag, children, value, marks, payload⟩ := given
  rfl

theorem shown_heading_without_uris (given : Node) :
    given.withoutUris.shownHeading? = given.shownHeading? := by
  rw [shownHeading?, shownHeading?, headingLevel?, headingLevel?, tag_without_uris,
    plain_text_without_uris, shown_text_without_uris]

mutual

theorem outline_without_uris (given : Node) : given.withoutUris.outline = given.outline := by
  have own := shown_heading_without_uris given
  have closed : given.withoutUris.isClosed = given.isClosed := by
    rw [isClosed, isClosed, tag_without_uris]
  obtain ⟨tag, children, value, marks, payload⟩ := given
  rw [outline_eq, outline_eq, own, closed, withoutUris, outline_among_without_uris children]

theorem outline_among_without_uris (siblings : List Node) :
    (withoutUrisAmong siblings).flatMap outline = siblings.flatMap outline := by
  cases siblings with
  | nil => rfl
  | cons given siblings =>
      rw [withoutUrisAmong, List.flatMap_cons, List.flatMap_cons, outline_without_uris given,
        outline_among_without_uris siblings]

end

end Node

namespace Render

open Page.Heading (Scanned Linked Unopened)

/-! ## Documents with links and components -/

/-- The marker of a chart, of cards or of a form. -/
def titledMarker? (setting : Setting) (entry : Entry) : Option Marker :=
  match setting.kindOf entry with
  | .chart => some (Embed.chartMarker entry)
  | .cards => some (Embed.cardsMarker entry)
  | .form => some (Embed.formMarker entry)
  | _ => none

/-- What a heading holds: texts and links, with a condition on the addresses. -/
inductive Inline (address : Text → Prop) : Node → Prop
  | text {given : Node} (isText : given.tag = .known .text) : Inline address given
  | hyperlink {given : Node} (isLink : given.tag = .known .hyperlink)
      (here : address (given.payload.uri.getD []))
      (below : ∀ child ∈ given.children, Inline address child) : Inline address given

/-- Documents of texts, paragraphs, headings, links, and components with a title, with a condition on the
attribute values between headings and another one on the addresses inside of them. -/
inductive Paged (setting : Setting) (between inside : Text → Prop) : Node → Prop
  | text {given : Node} (isText : given.tag = .known .text) : Paged setting between inside given
  | block {given : Node}
      (isBlock : given.tag = .known .document ∨ given.tag = .known .paragraph)
      (below : ∀ child ∈ given.children, Paged setting between inside child) :
      Paged setting between inside given
  | heading {given : Node} {level : HeadingLevel} (isHeading : given.tag = .known (.heading level))
      (below : ∀ child ∈ given.children, Inline inside child) : Paged setting between inside given
  | hyperlink {given : Node} (isLink : given.tag = .known .hyperlink)
      (here : between (given.payload.uri.getD []))
      (below : ∀ child ∈ given.children, Paged setting between inside child) :
      Paged setting between inside given
  | component {given : Node} {id : Text} {entry : Entry} {marker : Marker}
      (embeds : given.tag = .known .embeddedEntry) (target : given.targetId = some id)
      (found : setting.store.entry? id = some entry)
      (noMarkup : hookResult setting.entryMarkup id (some entry) = none)
      (titled : titledMarker? setting entry = some marker)
      (values : ∀ pair ∈ marker.written, between pair.2) : Paged setting between inside given

section Trees

variable {setting : Setting} {nested : Embed.Nested} {trail : Trail}

/-- A link is an element around its content; its address decides whether it opens a new tab. -/
theorem hyperlink_yields {holds : Text → Prop} {payload : Node.Payload} {content : Text}
    (each : ∀ newTab,
      holds (Markup.link (Embed.firstText (payload.uri.getD []) "#") content newTab)) :
    Yields (Traced.ofNoted (hyperlink setting payload content) : Rendered) holds := by
  refine ⟨_, rfl, ?_⟩
  unfold hyperlink
  simp only
  split
  · exact each _
  · exact each _

theorem first_text_cases {holds : Text → Prop} {first second : Text} (one : holds first)
    (other : holds second) : holds (Embed.firstText first second) := by
  unfold Embed.firstText
  split
  · exact other
  · exact one

/-! ## Headings -/

theorem inline_linked {given : Node} (inline : Inline ('>' ∉ ·) given) :
    ∀ place unwrap, Yields (node setting nested trail place unwrap given)
      fun text => Linked text (Text.escape given.shownText) := by
  induction inline with
  | @text given isText =>
      intro place unwrap
      obtain ⟨tag, children, value, marks, payload⟩ := given
      obtain rfl := isText
      exact ⟨_, rfl, .marked (leaf_marked value marks)⟩
  | @hyperlink given isLink here below induction =>
      intro place unwrap
      have inside := @nodes_linked setting nested trail given.children false Node.shownText
        (fun child member place => induction child member place false) []
      rw [← Node.shown_text_among_eq] at inside
      obtain ⟨tag, children, value, marks, payload⟩ := given
      obtain rfl := isLink
      apply yields_bind inside
      intro parts linked
      have noEnd : '>' ∉ Embed.firstText (payload.uri.getD []) "#" :=
        @first_text_cases ('>' ∉ ·) _ _ here (by decide)
      apply hyperlink_yields
      intro newTab
      exact Page.Heading.linked_link noEnd newTab linked

theorem inline_outline {address : Text → Prop} {given : Node} (inline : Inline address given) :
    given.outline = [] := by
  induction inline with
  | @text given isText =>
      rw [Node.outline_eq]
      simp [Node.shownHeading?, Node.headingLevel?, Node.Tag.headingLevel?, Node.isClosed, isText]
  | @hyperlink given isLink here below induction =>
      rw [Node.outline_eq, List.flatMap_eq_nil_iff.mpr induction]
      simp [Node.shownHeading?, Node.headingLevel?, Node.Tag.headingLevel?, isLink]

/-! ## Components -/

theorem titled_cases {entry : Entry} {marker : Marker}
    (titled : titledMarker? setting entry = some marker) :
    setting.kindOf entry = .chart ∧ marker = Embed.chartMarker entry ∨
      setting.kindOf entry = .cards ∧ marker = Embed.cardsMarker entry ∨
        setting.kindOf entry = .form ∧ marker = Embed.formMarker entry := by
  unfold titledMarker? at titled
  split at titled
  · exact .inl ⟨‹_›, (Option.some.inj titled).symm⟩
  · exact .inr (.inl ⟨‹_›, (Option.some.inj titled).symm⟩)
  · exact .inr (.inr ⟨‹_›, (Option.some.inj titled).symm⟩)
  · exact absurd titled nofun

theorem titled_name_free {entry : Entry} {marker : Marker}
    (titled : titledMarker? setting entry = some marker) :
    ∀ pair ∈ marker.written, '<' ∉ pair.1 := by
  rcases titled_cases titled with ⟨-, rfl⟩ | ⟨-, rfl⟩ | ⟨-, rfl⟩
  · simp [Embed.chartMarker, Marker.written, Marker.keyHint?]
  · simp [Embed.cardsMarker, Marker.written, Marker.keyHint?]
  · simp [Embed.formMarker, Marker.written, Marker.keyHint?]

theorem titled_embedded {given : Node} {id : Text} {entry : Entry} {marker : Marker}
    (target : given.targetId = some id) (found : setting.store.entry? id = some entry)
    (noMarkup : hookResult setting.entryMarkup id (some entry) = none)
    (titled : titledMarker? setting entry = some marker) (place : Place) :
    Yields (embeddedEntry setting nested { id := given.targetId, place, inline := false, trail })
      fun text => text = marker.toText := by
  have block : Embed.block? setting nested { id := some id, place, inline := false, trail } entry
      (setting.kindOf entry) = some (Embed.emit marker) := by
    rcases titled_cases titled with ⟨kind, rfl⟩ | ⟨kind, rfl⟩ | ⟨kind, rfl⟩
    all_goals
      rw [kind]
      rfl
  rw [target, embedded_found found noMarkup block]
  exact ⟨_, rfl, rfl⟩

/-! ## Whole documents -/

theorem paged_scanned {given : Node} (paged : Paged setting Unopened ('>' ∉ ·) given) :
    ∀ place unwrap, Yields (node setting nested trail place unwrap given)
      fun text => Scanned text given.outline := by
  induction paged with
  | @text given isText =>
      intro place unwrap
      rw [@inline_outline (fun _ => True) given (.text isText)]
      obtain ⟨tag, children, value, marks, payload⟩ := given
      obtain rfl := isText
      exact ⟨_, rfl, Page.Heading.scanned_marked (leaf_marked value marks)⟩
  | @block given isBlock below induction =>
      intro place unwrap
      have inside := @nodes_scanned_each setting nested trail given.children false Node.outline
        (fun child member place => induction child member place false) []
      have outline := Node.outline_eq given
      obtain ⟨tag, children, value, marks, payload⟩ := given
      rw [outline]
      rcases isBlock with isDocument | isParagraph
      · obtain rfl := isDocument
        exact yields_map inside fun _ all => scanned_join_blocks all
      · obtain rfl := isParagraph
        apply yields_map inside
        intro parts all
        cases unwrap
        · exact scanned_paragraph (Page.Heading.scanned_flatten all)
        · exact Page.Heading.scanned_flatten all
  | @heading given level isHeading below =>
      intro place unwrap
      have none : given.children.flatMap Node.outline = [] :=
        List.flatMap_eq_nil_iff.mpr fun child member => inline_outline (below child member)
      have inside := @nodes_linked setting nested trail given.children false Node.shownText
        (fun child member place => inline_linked (below child member) place false) []
      rw [← Node.shown_text_among_eq] at inside
      rw [Node.outline_eq, none, ite_self, List.append_nil]
      obtain ⟨tag, children, value, marks, payload⟩ := given
      obtain rfl := isHeading
      exact yields_map inside fun parts linked => Page.Heading.scanned_linked level _ linked
  | @hyperlink given isLink here below induction =>
      intro place unwrap
      have inside := @nodes_scanned_each setting nested trail given.children false Node.outline
        (fun child member place => induction child member place false) []
      have outline := Node.outline_eq given
      obtain ⟨tag, children, value, marks, payload⟩ := given
      obtain rfl := isLink
      rw [outline]
      apply yields_bind inside
      intro parts all
      have unopened : Unopened (Embed.firstText (payload.uri.getD []) "#") :=
        first_text_cases here (Page.Heading.unopened_plain (by decide))
      apply hyperlink_yields
      intro newTab
      exact Page.Heading.scanned_link unopened newTab (Page.Heading.scanned_flatten all)
  | @component given id entry marker embeds target found noMarkup titled values =>
      intro place unwrap
      have names := titled_name_free titled
      obtain ⟨text, outcome, rfl⟩ :=
        @titled_embedded setting nested trail given id entry marker target found noMarkup titled place
      have outline := Node.outline_eq given
      obtain ⟨tag, children, value, marks, payload⟩ := given
      obtain rfl := embeds
      rw [outline]
      refine ⟨_, outcome, Page.Heading.scanned_marker ?_⟩
      exact fun pair member => ⟨names pair member, values pair member⟩

end Trees

/-- A scan of the rendering finds the outline of the document. -/
theorem outline_found {setting : Setting} {root : Node} (isDocument : root.tag = .known .document)
    (paged : Paged setting Unopened ('>' ∉ ·) root) :
    ∃ fragment, (document setting root).outcome = .ok fragment ∧
      Heading.scan fragment = .ok root.outline := by
  have atRoot : document setting root =
      node setting (blocksWithin setting setting.store.entries.length) [] ⟨[], 0⟩ false root := by
    obtain ⟨tag, children, value, marks, payload⟩ := root
    obtain rfl := isDocument
    rfl
  obtain ⟨fragment, outcome, scanned⟩ := paged_scanned paged ⟨[], 0⟩ false
  exact ⟨fragment, atRoot ▸ outcome, Page.Heading.scan_of_scanned scanned⟩

/-- Two documents that differ in the addresses of their links only have the same headings on their pages,
those of their outline, whatever the titles of charts, cards and forms are; provided that no heading opens
in an address or a marker between the headings and no address inside of a heading ends a tag. -/
theorem headings_apart_from_values (setting other : Setting) (root changed : Node)
    (isDocument : root.tag = .known .document) (sameTree : changed.withoutUris = root.withoutUris)
    (paged : Paged setting Unopened ('>' ∉ ·) root)
    (pagedThere : Paged other Unopened ('>' ∉ ·) changed) :
    ∃ fragment changedFragment, (document setting root).outcome = .ok fragment ∧
      (document other changed).outcome = .ok changedFragment ∧
        Heading.scan fragment = .ok root.outline ∧
          Heading.scan changedFragment = Heading.scan fragment := by
  have sameOutline : changed.outline = root.outline := by
    rw [← Node.outline_without_uris, sameTree, Node.outline_without_uris]
  have sameTag : changed.tag = .known .document := by
    rw [← Node.tag_without_uris, sameTree, Node.tag_without_uris, isDocument]
  obtain ⟨fragment, outcome, found⟩ := outline_found isDocument paged
  obtain ⟨changedFragment, outcomeThere, foundThere⟩ := outline_found sameTag pagedThere
  refine ⟨fragment, changedFragment, outcome, outcomeThere, found, ?_⟩
  rw [foundThere, sameOutline, found]

/-- A store with a chart that has a title. -/
def chartSetting (title : Text) : Setting where
  store := {
    entries := [
      { id := "c", contentType := "dataVisualizationCharts", fields := [("title", .text title)] }] }

/-- A heading with a link in it, a paragraph with another link, and the chart. -/
def linkedPage (inside between : Text) : Node :=
  Node.document [
    .node (Node.heading ⟨2, two_is_level⟩ [
      .words "Plan ", .node (Node.hyperlink (some inside) [.words "B"])]),
    .node (Node.paragraph [.node (Node.hyperlink (some between) [.words "L"])]),
    .node (Node.embeddedEntry "c" false)]

theorem linked_page_paged {inside between title : Text} (noEnd : '>' ∉ inside)
    (addressUnopened : Unopened between) (titleUnopened : Unopened title) :
    Paged (chartSetting title) Unopened ('>' ∉ ·) (linkedPage inside between) := by
  have link : Inline ('>' ∉ ·) (Node.hyperlink (some inside) [.words "B"]) :=
    .hyperlink rfl noEnd (List.forall_mem_singleton.mpr (.text rfl))
  have heading : Paged (chartSetting title) Unopened ('>' ∉ ·)
      (Node.heading ⟨2, two_is_level⟩ [
        .words "Plan ", .node (Node.hyperlink (some inside) [.words "B"])]) :=
    .heading rfl (List.forall_mem_cons.mpr ⟨.text rfl, List.forall_mem_singleton.mpr link⟩)
  have paragraph : Paged (chartSetting title) Unopened ('>' ∉ ·)
      (Node.paragraph [.node (Node.hyperlink (some between) [.words "L"])]) := by
    refine .block (.inr rfl) (List.forall_mem_singleton.mpr ?_)
    exact .hyperlink rfl addressUnopened (List.forall_mem_singleton.mpr (.text rfl))
  have chart : Paged (chartSetting title) Unopened ('>' ∉ ·) (Node.embeddedEntry "c" false) := by
    have fixed : Unopened "c" ∧ Unopened "Bar Chart" := by decide
    refine .component rfl rfl rfl rfl rfl (List.forall_mem_cons.mpr ⟨fixed.1, ?_⟩)
    refine List.forall_mem_cons.mpr ⟨fixed.2, List.forall_mem_singleton.mpr ?_⟩
    cases title
    all_goals exact titleUnopened
  refine .block (.inl rfl) (List.forall_mem_cons.mpr ⟨heading, ?_⟩)
  exact List.forall_mem_cons.mpr ⟨paragraph, List.forall_mem_singleton.mpr chart⟩

/-- Angle brackets in the addresses and in the title do not change the headings of the page; an address
between the headings that holds a heading does. -/
theorem linked_page_headings :
    (linkedPage "/b" "/l").tag = .known .document ∧
      (linkedPage "x<h2" "</h2>").withoutUris = (linkedPage "/b" "/l").withoutUris ∧
      Paged (chartSetting "T") Unopened ('>' ∉ ·) (linkedPage "/b" "/l") ∧
      Paged (chartSetting "<hr>") Unopened ('>' ∉ ·) (linkedPage "x<h2" "</h2>") ∧
      (∃ fragment changedFragment,
        (document (chartSetting "T") (linkedPage "/b" "/l")).outcome = .ok fragment ∧
        (document (chartSetting "<hr>") (linkedPage "x<h2" "</h2>")).outcome = .ok changedFragment ∧
        Heading.scan fragment = .ok [⟨2, "plan-b", "Plan B"⟩] ∧
        Heading.scan changedFragment = Heading.scan fragment) ∧
      ∃ fragment,
        (document (chartSetting "T") (linkedPage "/b" "<h2>x</h2>")).outcome = .ok fragment ∧
        Heading.scan fragment = .ok [⟨2, "plan-b", "Plan B"⟩, ⟨2, "x", "x"⟩] := by
  have paged : Paged (chartSetting "T") Unopened ('>' ∉ ·) (linkedPage "/b" "/l") :=
    linked_page_paged (by decide) (by decide) (by decide)
  have pagedThere : Paged (chartSetting "<hr>") Unopened ('>' ∉ ·) (linkedPage "x<h2" "</h2>") :=
    linked_page_paged (by decide) (by decide) (by decide)
  obtain ⟨fragment, changedFragment, outcome, outcomeThere, found, same⟩ :=
    headings_apart_from_values (chartSetting "T") (chartSetting "<hr>") (linkedPage "/b" "/l")
      (linkedPage "x<h2" "</h2>") rfl rfl paged pagedThere
  have outline : (linkedPage "/b" "/l").outline = [⟨2, "plan-b", "Plan B"⟩] := by decide +kernel
  refine ⟨rfl, rfl, paged, pagedThere, ?_, _, rfl, rfl⟩
  exact ⟨fragment, changedFragment, outcome, outcomeThere, found.trans (congrArg Except.ok outline),
    same⟩

end Render

end RichText
