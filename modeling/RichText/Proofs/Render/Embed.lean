import RichText.Proofs.HeadingScope
import RichText.Proofs.Render.Tree

/-!
Rendering of embedded entries of every kind. Data components emit a marker; all others write markup of
their own, or a comment that says what is missing. Where every token is allowed, whole documents are
covered.
-/

namespace RichText.Render

open Markup (Token Composed ComposedAll)

/-! ## Entries that are found -/

theorem entry_of_id {store : Store} {id : Text} {entry : Entry}
    (found : store.entry? id = some entry) : id ≠ [] ∧ entry ∈ store.entries ∧ entry.id = id := by
  unfold Store.entry? Store.find? at found
  split at found
  · exact absurd found (by simp)
  · rename_i present
    have named := List.find?_some found
    exact ⟨by simpa using present, List.mem_of_find?_eq_some found, of_decide_eq_true named⟩

theorem embedded_found {setting : Setting} {nested : Embed.Nested} {id : Text} {entry : Entry}
    {place : Place} {trail : Trail} {rendered : Rendered}
    (found : setting.store.entry? id = some entry)
    (noMarkup : hookResult setting.entryMarkup id (some entry) = none)
    (block : Embed.block? setting nested { id := some id, place, inline := false, trail } entry
      (setting.kindOf entry) = some rendered) :
    embeddedEntry setting nested { id := some id, place, inline := false, trail } =
      (Traced.note (.renderingEntry entry.id (setting.kindOf entry).name) >>= fun _ => rendered) := by
  have present : (some id).filter (fun id => !id.isEmpty) = some id := by
    simp [Option.filter, (entry_of_id found).1]
  simp only [embeddedEntry, Embed.render, Embed.block, present, found, noMarkup, block,
    Bool.false_eq_true, if_false]

/-! ## Markdown leaves no marker among its notices -/

mutual

theorem inline_quiet (marks : List Text) (token : Markdown.Inline) : Quiet (token.nodes marks) := by
  cases token with
  | text raw => exact quiet_pure _
  | emphasis content => exact inline_nodes_quiet _ content
  | strong content => exact inline_nodes_quiet _ content
  | code raw => exact quiet_pure _
  | link url content => exact quiet_bind (inline_nodes_quiet _ content) fun _ => quiet_pure _
  | softBreak => exact quiet_pure _
  | hardBreak => exact quiet_pure _
  | other kind => exact quiet_bind (quiet_note rfl) fun _ => quiet_pure _

theorem inline_nodes_quiet (marks : List Text) (tokens : List Markdown.Inline) :
    Quiet (Markdown.inlineNodes marks tokens) := by
  cases tokens with
  | nil => exact quiet_pure _
  | cons token tokens =>
      exact quiet_bind (inline_quiet marks token) fun _ =>
        quiet_bind (inline_nodes_quiet marks tokens) fun _ => quiet_pure _

end

mutual

theorem block_quiet (token : Markdown.Block) : Quiet token.nodes := by
  cases token with
  | paragraph content => exact quiet_bind (inline_nodes_quiet _ content) fun _ => quiet_pure _
  | heading level content => exact quiet_bind (inline_nodes_quiet _ content) fun _ => quiet_pure _
  | code raw => exact quiet_pure _
  | list ordered items => exact quiet_bind (item_nodes_quiet items) fun _ => quiet_pure _
  | quote content => exact quiet_bind (block_nodes_quiet content) fun _ => quiet_pure _
  | rule => exact quiet_pure _
  | blank => exact quiet_pure _
  | other kind => exact quiet_bind (quiet_note rfl) fun _ => quiet_pure _

theorem item_nodes_quiet (items : List (List Markdown.Block)) : Quiet (Markdown.itemNodes items) := by
  cases items with
  | nil => exact quiet_pure _
  | cons item items =>
      exact quiet_bind (block_nodes_quiet item) fun _ =>
        quiet_bind (item_nodes_quiet items) fun _ => quiet_pure _

theorem block_nodes_quiet (tokens : List Markdown.Block) : Quiet (Markdown.blockNodes tokens) := by
  cases tokens with
  | nil => exact quiet_pure _
  | cons token tokens =>
      exact quiet_bind (block_quiet token) fun _ =>
        quiet_bind (block_nodes_quiet tokens) fun _ => quiet_pure _

end

/-! ## Markers of tables -/

theorem hint_before_quiet (index : Int) (before : List Node) :
    Quiet (HeadingScope.hintBefore index before) := by
  induction before with
  | nil => exact quiet_pure none
  | cons given before induction =>
      unfold HeadingScope.hintBefore
      simp only
      split
      · split
        · exact induction
        · exact quiet_bind (quiet_note rfl) fun _ => quiet_pure _
      · split
        · exact quiet_bind (quiet_note rfl) fun _ => quiet_pure _
        · exact induction

/-- Every hint is a slug with at least one character. -/
theorem hint_before_slug (index : Int) (before : List Node) :
    ∀ hint, (HeadingScope.hintBefore index before).value = some hint →
      hint ≠ [] ∧ ∃ text, hint = Text.hintSlug text := by
  intro hint found
  rw [HeadingScope.hint_before_value, Option.bind_eq_some_iff] at found
  obtain ⟨heading, -, given⟩ := found
  obtain ⟨-, slug, present⟩ := HeadingScope.hint_of_heading given
  exact ⟨present, _, slug⟩

theorem table_marker_quiet (entry : Entry) (place : Place) : Quiet (Embed.tableMarker entry place) :=
  quiet_bind (hint_before_quiet _ _) fun _ => quiet_pure _

section Entries

variable {allows : Token → Prop} {fails : Prop} {markers : List Marker}
  (free : ∀ token, allows token)

include free

/-! ## Links -/

theorem composed_back_to_top (setting : Setting) (text : Text) :
    Composed allows [] (Embed.backToTop setting text) :=
  composed_link free _ _ _
    (Markup.composed_append (Markup.composed_plain (by decide)) (Markup.composed_escape text))

theorem block_link_drawn (setting : Setting) (entry : Entry) :
    DrawnText allows fails (Embed.blockLink setting entry) := by
  have button (target text : Text) : Composed allows []
      (Markup.paragraph (Markup.link target (Text.escape text) false Embed.buttonClass)) :=
    composed_block_paragraph free _ (composed_link free _ _ _ (Markup.composed_escape text))
  unfold Embed.blockLink
  simp only
  split
  · exact drawn_pure (composed_block_paragraph free _ (composed_back_to_top free setting _))
  · split
    · exact drawn_pure (button _ _)
    · split
      · exact drawn_pure (button _ _)
      · exact drawn_unresolved rfl (free _)

theorem composed_inline_link (setting : Setting) (entry : Entry) :
    Composed allows [] (Embed.inlineLink setting entry) := by
  unfold Embed.inlineLink
  simp only
  split
  · exact composed_back_to_top free setting _
  · split
    · exact composed_link free _ _ _ (Markup.composed_escape _)
    · split
      · exact composed_link free _ _ _ (Markup.composed_escape _)
      · exact Markup.composed_escape _

theorem link_items_drawn (setting : Setting) (collection : Text) (references : List Value) :
    Quiet (Embed.linkItems setting collection references) ∧
      ComposedAll allows [] (Embed.linkItems setting collection references).value := by
  induction references with
  | nil => exact ⟨quiet_pure [], .nil⟩
  | cons reference references induction =>
      obtain ⟨quiet, composed⟩ := induction
      rw [Embed.linkItems]
      split
      · exact ⟨quiet_bind (quiet_note rfl) fun _ => quiet, composed⟩
      · rename_i linked found
        have item : Composed allows [] (Markup.listItem (Markup.link
            (Url.normalized (linked.fieldText "url" "#")) (Text.escape (Embed.linkText linked "Link")))) :=
          Markup.composed_element (by decide) Markup.attributed_nil
            (composed_link free _ _ _ (Markup.composed_escape _))
        exact ⟨quiet_bind quiet fun _ => quiet_pure _, .cons item composed⟩

theorem composed_titled_list {texts : List Text} (title : Text) (cssClass : Text)
    (all : ComposedAll allows [] texts) :
    Composed allows [] (Text.join "\n"
      [Markup.heading 3 (Text.escape title), Markup.listBlock texts false cssClass]) := by
  have heading : Composed allows [] (Markup.heading 3 (Text.escape title)) :=
    Markup.composed_element (by decide)
      (Markup.attributed_append Markup.attributed_nil
        (Markup.attributed_optional (by decide) (free _))) (Markup.composed_escape title)
  have list : Composed allows [] (Markup.listBlock texts false cssClass) :=
    Markup.composed_element (by decide) (Markup.attributed_optional (by decide) (free _))
      (Markup.composed_lines (Markup.composed_join (by decide) all))
  exact Markup.composed_join (by decide) (.cons heading (.cons list .nil))

theorem link_collection_drawn (setting : Setting) (entry : Entry) :
    DrawnText allows fails (Traced.ofNoted (Embed.linkCollection setting entry)) := by
  obtain ⟨quiet, all⟩ :=
    link_items_drawn free setting entry.id (Embed.listOf (entry.field "links"))
  apply drawn_of_quiet
  · apply quiet_bind quiet
    intro _
    split
    · exact quiet_pure _
    · exact quiet_pure _
  · unfold Embed.linkCollection
    rw [Noted.bind_value]
    split
    · exact Markup.composed_comment (free _)
    · change Composed allows [] (if _ then _ else _)
      split
      · exact Markup.composed_element (by decide) (Markup.attributed_optional (by decide) (free _))
          (Markup.composed_lines (Markup.composed_join (by decide) all))
      · exact composed_titled_list free _ _ all

theorem composed_call_to_action (entry : Entry) : Composed allows [] (Embed.callToAction entry) :=
  composed_link free _ _ _ (Markup.composed_escape _)

theorem composed_division {content : Text} (cssClass : Text)
    (inside : Composed allows markers content) :
    Composed allows markers (Markup.division content cssClass) :=
  Markup.composed_element (by decide)
    (Markup.attributed_append (Markup.attributed_optional (by decide) (free _))
      (Markup.attributed_optional (by decide) (free _))) (Markup.composed_lines inside)

/-! ## Content -/

variable {setting : Setting} {nested : Embed.Nested} (mayFail : fails)
  (within : ∀ children trail, DrawnText allows fails (nested children trail))

include within

theorem rich_text_of_text_drawn (entry : Entry) (trail : Trail) :
    DrawnText allows fails (Embed.richTextOfText setting nested entry trail) := by
  unfold Embed.richTextOfText
  simp only
  split
  · exact drawn_pure (Markup.composed_comment (free _))
  · split
    · have read : Drawn (fun markers _ => markers = []) fails
          (Traced.ofNoted (Markdown.blockNodes (Markdown.read
            (Embed.firstText (entry.fieldText "text") (entry.fieldText "content"))))) :=
        drawn_of_quiet (block_nodes_quiet _) rfl
      refine drawn_bind read ?_
      rintro markers nodes rfl
      exact drawn_map (within nodes trail) fun _ _ inside => composed_division free _ inside
    · exact drawn_pure (composed_division free _ (Markup.composed_escape _))

include mayFail

theorem rich_text_drawn (entry : Entry) (trail : Trail) :
    DrawnText allows fails (Embed.richText setting nested entry trail) := by
  unfold Embed.richText
  split
  · exact drawn_unresolved rfl (free _)
  · simp only
    split
    · exact rich_text_of_text_drawn free within entry _
    · exact drawn_map (within _ _) fun _ _ inside => composed_division free _ inside
    · split
      · exact drawn_unresolved rfl (free _)
      · exact mayFail

omit mayFail within in
theorem image_drawn (entry : Entry) : DrawnText allows fails (Embed.image setting entry) := by
  unfold Embed.image
  simp only
  split
  · exact drawn_unresolved rfl (free _)
  · exact drawn_pure (composed_figure free _ _ _)

/-! ## Entries -/

theorem component_drawn (embed : Embed) (entry : Entry) (kind : Component.Kind) :
    ∀ rendered ∈ Embed.block? setting nested embed entry kind, DrawnText allows fails rendered := by
  rintro rendered found
  cases kind with
  | unknown => exact absurd found (by simp [Embed.block?])
  | dataTable =>
      obtain rfl := Option.some.inj found
      have made : Drawn (fun markers _ => markers = []) fails
          (Traced.ofNoted (Embed.tableMarker entry embed.place)) :=
        drawn_of_quiet (table_marker_quiet entry embed.place) rfl
      refine drawn_bind made ?_
      rintro markers given rfl
      exact drawn_emit (free _)
  | tableOfContents | chart | cards | form =>
      obtain rfl := Option.some.inj found
      exact drawn_emit (free _)
  | link =>
      obtain rfl := Option.some.inj found
      exact block_link_drawn free setting entry
  | linkCollection =>
      obtain rfl := Option.some.inj found
      exact link_collection_drawn free setting entry
  | navigation =>
      obtain rfl := Option.some.inj found
      exact drawn_pure (Markup.composed_comment (free _))
  | modalForm =>
      obtain rfl := Option.some.inj found
      exact drawn_pure (composed_division free _ (composed_call_to_action free entry))
  | richText =>
      obtain rfl := Option.some.inj found
      exact rich_text_drawn free mayFail within entry embed.trail
  | image =>
      obtain rfl := Option.some.inj found
      exact image_drawn free entry

theorem block_drawn (embed : Embed) : DrawnText allows fails (Embed.block setting nested embed) := by
  unfold Embed.block
  split
  · exact drawn_unresolved rfl (free _)
  · split
    · exact drawn_unresolved rfl (free _)
    · simp only
      split
      · exact drawn_unresolved rfl (free _)
      · rename_i rendered found
        exact drawn_note rfl (component_drawn free mayFail within embed _ _ rendered found)

omit mayFail within in
theorem inline_drawn (embed : Embed) : DrawnText allows fails (Embed.inlineEntry setting embed) := by
  unfold Embed.inlineEntry
  split
  · exact drawn_unresolved rfl (free _)
  · split
    · exact drawn_unresolved rfl (free _)
    · split
      · exact drawn_pure (composed_inline_link free setting _)
      · exact drawn_pure (composed_call_to_action free _)
      · exact drawn_unresolved rfl (free _)

theorem embedded_entry_drawn (noHook : setting.entryMarkup = none) (embed : Embed) :
    DrawnText allows fails (embeddedEntry setting nested embed) := by
  have hook (id : Text) (entry : Option Entry) : hookResult setting.entryMarkup id entry = none := by
    rw [hookResult, noHook]
    rfl
  have none : embeddedEntry setting nested embed = embed.render setting nested := by
    unfold embeddedEntry
    simp only [hook, ite_self]
    split
    · rename_i markup custom
      split at custom
      · exact absurd custom (by simp)
      · exact absurd custom (by simp)
    · rfl
  rw [none]
  unfold Embed.render
  split
  · exact inline_drawn free embed
  · exact block_drawn free mayFail within embed

/-! ## Whole documents -/

omit mayFail within in
theorem free_fits (noHook : setting.entryMarkup = none) (mayFail : fails)
    (within : ∀ children trail, DrawnText allows fails (nested children trail)) (trail : Trail)
    (given : Node) : Fits allows fails setting nested trail given := by
  unfold Fits
  cases given.kind? with
  | none => trivial
  | some own =>
      cases own with
      | hyperlink | entryHyperlink | assetHyperlink | embeddedAsset => exact free
      | embeddedEntry | embeddedEntryInline =>
          intro place
          exact embedded_entry_drawn free mayFail within noHook _
      | _ => trivial

omit within in
theorem blocks_within_drawn (noHook : setting.entryMarkup = none) (depth : Nat)
    (children : List Node) (trail : Trail) :
    DrawnText allows fails (blocksWithin setting depth children trail) := by
  induction depth generalizing children trail with
  | zero => exact drawn_pure Markup.composed_nil
  | succ depth induction =>
      have fits := free_fits free noHook mayFail induction trail
      have inside := nodes_drawn (fun value _ => free (.value value)) children
        (everywhere_among_of_forall fits children) [] false
      exact drawn_map inside fun _ _ all => composed_join_blocks all

omit within in
/-- Where all tokens are allowed, every document is the text of a tree with the emitted markers. -/
theorem any_document_drawn (noHook : setting.entryMarkup = none) (root : Node) :
    DrawnText allows fails (document setting root) := by
  unfold document
  split
  · exact blocks_within_drawn free mayFail noHook _ _ _
  · exact drawn_note rfl (drawn_pure Markup.composed_nil)

end Entries

end RichText.Render
