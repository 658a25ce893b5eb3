import RichText.Proofs.Markup.Nondecimal
import RichText.Proofs.Page.Readable
import RichText.Proofs.Render.Embed

/-!
Documents whose only embeddings are data components. Every component becomes a marker, and the display
stage finds those markers again: as they were emitted, in their order, and nothing else, whatever the
text around them looks like.
-/

namespace RichText

namespace Component.Kind

/-- The kinds of components that the display stage fills in. -/
def isData : Kind → Bool
  | .tableOfContents | .dataTable | .chart | .cards | .form => true
  | _ => false

end Component.Kind

namespace Render

open Markup (Token Composed)

/-! ## Emitted markers -/

/-- A key hint is a slug: it is not empty, and no blanks are around it. -/
theorem hint_before_trimmed (index : Int) (before : List Node) :
    ∀ hint, (HeadingScope.hintBefore index before).value = some hint →
      hint ≠ [] ∧ Text.trim hint = hint := by
  intro hint found
  obtain ⟨present, text, rfl⟩ := hint_before_slug index before hint found
  exact ⟨present, Text.trim_slug _ text⟩

/-- An id that a marker can carry. -/
def IdFits (id : Text) : Prop := id ≠ [] ∧ Text.trim id = id

theorem writable_of_id {kind : Marker.Kind} {id : Text} {attributes : List (Text × Text)}
    (names : List Text) (fits : IdFits id) (same : attributes.map Prod.fst = names)
    (distinct : names.Nodup) (valid : ∀ name ∈ names,
      (name ≠ "id" ∧ name ≠ "key") ∧ Marker.isName name = true ∧ Text.lower name = name) :
    Marker.Writable { kind, id, attributes } where
  idPresent := fits.1
  idTrimmed := fits.2
  keyPresent := by rintro key ⟨⟩
  keyTrimmed := by rintro key ⟨⟩
  namesDistinct := same ▸ distinct
  namesFree := fun pair member => (valid pair.1 (same ▸ List.mem_map_of_mem member)).1
  namesValid := fun pair member => (valid pair.1 (same ▸ List.mem_map_of_mem member)).2.1
  namesSmall := fun pair member => (valid pair.1 (same ▸ List.mem_map_of_mem member)).2.2

theorem table_marker_writable {entry : Entry} (fits : IdFits entry.id) (place : Place) :
    Quiet (Embed.tableMarker entry place) ∧ (Embed.tableMarker entry place).value.Writable := by
  constructor
  · exact table_marker_quiet entry place
  · have trimmed := hint_before_trimmed place.index place.before
    exact {
      idPresent := fits.1
      idTrimmed := fits.2
      keyPresent := fun key found => (trimmed key found).1
      keyTrimmed := fun key found => (trimmed key found).2
      namesDistinct := List.nodup_nil
      namesFree := fun pair member => absurd member List.not_mem_nil
      namesValid := fun pair member => absurd member List.not_mem_nil
      namesSmall := fun pair member => absurd member List.not_mem_nil }

/-! ## Embedded data components -/

/-- A data component is rendered as its marker, the notices apart. -/
theorem data_component_drawn {setting : Setting} {nested : Embed.Nested} {embed : Embed} {entry : Entry}
    {kind : Component.Kind} (data : kind.isData = true) (fits : IdFits entry.id) :
    ∃ rendered, Embed.block? setting nested embed entry kind = some rendered ∧
      DrawnText Token.Tame False rendered := by
  cases kind with
  | tableOfContents =>
      exact ⟨_, rfl, drawn_emit (writable_of_id [] fits rfl (by decide) (by decide))⟩
  | dataTable =>
      obtain ⟨quiet, writable⟩ := table_marker_writable fits embed.place
      have made : Drawn (fun markers given => markers = [] ∧ given.Writable) False
          (Traced.ofNoted (Embed.tableMarker entry embed.place)) :=
        drawn_of_quiet quiet ⟨rfl, writable⟩
      refine ⟨_, rfl, drawn_bind made ?_⟩
      rintro markers given ⟨rfl, writable⟩
      exact drawn_emit writable
  | chart =>
      exact ⟨_, rfl, drawn_emit
        (writable_of_id ["type", "title"] fits rfl (by decide) (by decide))⟩
  | cards =>
      exact ⟨_, rfl, drawn_emit
        (writable_of_id ["type", "title"] fits rfl (by decide) (by decide))⟩
  | form =>
      exact ⟨_, rfl, drawn_emit
        (writable_of_id ["title", "submit"] fits rfl (by decide) (by decide))⟩
  | link | linkCollection | navigation | modalForm | richText | image | unknown =>
      exact absurd data (by decide)

theorem data_entry_drawn {setting : Setting} {nested : Embed.Nested} {id : Text} {entry : Entry}
    {place : Place} {trail : Trail} (noHook : setting.entryMarkup = none)
    (found : setting.store.entry? id = some entry) (data : (setting.kindOf entry).isData = true)
    (fits : IdFits entry.id) :
    DrawnText Token.Tame False
      (embeddedEntry setting nested { id := some id, place, inline := false, trail }) := by
  have noMarkup : hookResult setting.entryMarkup id (some entry) = none := by
    rw [noHook]
    rfl
  obtain ⟨rendered, block, drawn⟩ :=
    @data_component_drawn setting nested ⟨some id, place, false, trail⟩ entry _ data fits
  rw [embedded_found found noMarkup block]
  exact drawn_note rfl drawn

/-! ## Whole documents -/

/-- Whether a node embeds nothing but a data component, and is no link. -/
def Direct (setting : Setting) (given : Node) : Prop :=
  match given.kind? with
  | some .embeddedEntry => ∃ id entry, given.targetId = some id ∧
      setting.store.entry? id = some entry ∧ (setting.kindOf entry).isData = true
  | some .embeddedEntryInline | some .embeddedAsset | some .hyperlink | some .entryHyperlink
  | some .assetHyperlink => False
  | _ => True

theorem direct_fits {setting : Setting} {nested : Embed.Nested} {trail : Trail}
    (noHook : setting.entryMarkup = none)
    (ids : ∀ entry ∈ setting.store.entries, entry.id ≠ [] ∧ Text.trim entry.id = entry.id)
    {given : Node} (direct : Direct setting given) :
    Fits Token.Tame False setting nested trail given := by
  unfold Direct at direct
  unfold Fits
  cases kind : given.kind? with
  | none => trivial
  | some own =>
      rw [kind] at direct
      cases own with
      | embeddedEntry =>
          obtain ⟨id, entry, target, found, data⟩ := direct
          intro place
          rw [target]
          exact data_entry_drawn noHook found data (ids entry (entry_of_id found).2.1)
      | embeddedEntryInline | embeddedAsset | hyperlink | entryHyperlink | assetHyperlink =>
          exact direct.elim
      | _ => trivial

theorem document_drawn {setting : Setting} (noHook : setting.entryMarkup = none)
    (ids : ∀ entry ∈ setting.store.entries, entry.id ≠ [] ∧ Text.trim entry.id = entry.id)
    {root : Node} (isDocument : root.kind? = some .document)
    (direct : Everywhere (Direct setting) root) :
    DrawnText Token.Tame False (document setting root) := by
  have fits : ∀ child ∈ root.children,
      Everywhere (Fits Token.Tame False setting
        (blocksWithin setting setting.store.entries.length) []) child := by
    intro child member
    exact (direct.at_children child member).imp fun _ here => direct_fits noHook ids here
  have inside := nodes_drawn (fun _ noBracket => noBracket) root.children fits [] false
  unfold document
  rw [isDocument]
  exact drawn_map inside fun _ _ all => composed_join_blocks all

/-- The display stage finds the emitted markers and no others. It puts a view in the place of each and
leaves every other character where it is. -/
theorem document_markers_found (setting : Setting) (noHook : setting.entryMarkup = none)
    (ids : ∀ entry ∈ setting.store.entries, entry.id ≠ [] ∧ Text.trim entry.id = entry.id)
    (root : Node) (isDocument : root.kind? = some .document)
    (direct : Everywhere (Direct setting) root) (fragment : Text)
    (rendered : (document setting root).outcome = .ok fragment) :
    ∃ found headings, Marker.scan fragment = .ok found ∧
      found.filterMap (·.marker) = emitted (document setting root).notices ∧
      Page.Heading.scan fragment = .ok headings ∧
      ∃ (sections : List (Text × Marker)) (last : Text),
        fragment = (sections.flatMap fun (before, marker) => before ++ marker.toText) ++ last ∧
        sections.map Prod.snd = emitted (document setting root).notices ∧
        ∀ config store, (Page.expand config store fragment).outcome = do
          let views ← sections.mapM fun (before, marker) => (before ++ ·) <$>
            (Page.view config store headings marker).outcome
          return views.flatten ++ last := by
  have drawn := document_drawn noHook ids isDocument direct
  unfold DrawnText Drawn at drawn
  rw [rendered] at drawn
  obtain ⟨items, text, markers, tame⟩ := drawn
  have finished := Markup.items_finished items fun token member =>
    Markup.tame_nondecimal (tame token member)
  rw [text] at finished
  obtain ⟨headings, readable⟩ := Page.readable_of_nondecimal (Text.nondecimal_of_finished finished)
  have woven := Markup.woven_text items
  rw [text] at woven
  obtain ⟨found, canonical⟩ := Markup.slots_woven woven tame
  have emittedMarkers : (Marker.slots fragment).filterMap Marker.Slot.marker? =
      emitted (document setting root).notices := found.trans markers
  obtain ⟨sections, last, split, inOrder, page⟩ :=
    Marker.exists_sections (Marker.slots fragment) canonical
  refine ⟨_, headings, Marker.scan_ok readable.markers, ?_, readable.headings, sections, last, ?_,
    inOrder.trans emittedMarkers, ?_⟩
  · exact (Marker.standing_eq fragment).trans emittedMarkers
  · rw [← split, Marker.slots_raw]
  · intro config store
    rw [Page.expand_outcome config store readable, page]

/-- A table and cards whose id and title look like the end and the start of markers. -/
def crowdedSetting : Setting where
  store := {
    entries := [
      { id := "t", contentType := "dataVisualizationTables" },
      { id := "a\"]", contentType := "dataVisualizationCards",
        fields := [("title", .text "[richdoc_toc id=\"x\"]\n")] }] }

/-- The components between texts that look like parts of markers. -/
def crowded : Node :=
  Node.document [
    .node (Node.heading ⟨2, two_is_level⟩ [.words "[richdoc_table key="]),
    .node (Node.embeddedEntry "t" false),
    .node (Node.paragraph [.words "[richdoc_toc", .node (Node.embeddedEntry "a\"]" false), .words "]"])]

theorem crowded_markers_found :
    crowdedSetting.entryMarkup = none ∧
      (∀ entry ∈ crowdedSetting.store.entries, entry.id ≠ [] ∧ Text.trim entry.id = entry.id) ∧
      crowded.kind? = some .document ∧ Everywhere (Direct crowdedSetting) crowded ∧
      ∃ fragment found, (document crowdedSetting crowded).outcome = .ok fragment ∧
        Marker.scan fragment = .ok found ∧ found.filterMap (·.marker) = [
          { kind := .table, id := "t", key := some "richdoctable-key" },
          { kind := .cards, id := "a\"]",
            attributes := [("type", "Summary"), ("title", "[richdoc_toc id=\"x\"]\n")] }] := by
  have ids : ∀ entry ∈ crowdedSetting.store.entries,
      entry.id ≠ [] ∧ Text.trim entry.id = entry.id := by
    simp only [crowdedSetting, List.forall_mem_cons]
    decide
  have leaf (given : Node) (noChildren : given.children = []) (here : Direct crowdedSetting given) :
      Everywhere (Direct crowdedSetting) given :=
    .node here fun child member => absurd (noChildren ▸ member) List.not_mem_nil
  have words (value : Text) : Everywhere (Direct crowdedSetting) (Node.text value []) :=
    leaf _ rfl trivial
  have table : Everywhere (Direct crowdedSetting) (Node.embeddedEntry "t" false) :=
    leaf _ rfl ⟨_, _, rfl, rfl, by decide⟩
  have cards : Everywhere (Direct crowdedSetting) (Node.embeddedEntry "a\"]" false) :=
    leaf _ rfl ⟨_, _, rfl, rfl, by decide⟩
  have heading : Everywhere (Direct crowdedSetting)
      (Node.heading ⟨2, two_is_level⟩ [.words "[richdoc_table key="]) := by
    apply Everywhere.node trivial
    intro child member
    obtain rfl := List.mem_singleton.mp member
    exact words _
  have paragraph : Everywhere (Direct crowdedSetting) (Node.paragraph
      [.words "[richdoc_toc", .node (Node.embeddedEntry "a\"]" false), .words "]"]) := by
    refine .node trivial (List.forall_mem_cons.mpr ⟨words _, ?_⟩)
    refine List.forall_mem_cons.mpr ⟨cards, ?_⟩
    intro child member
    obtain rfl := List.mem_singleton.mp member
    exact words _
  have direct : Everywhere (Direct crowdedSetting) crowded := by
    refine .node trivial (List.forall_mem_cons.mpr ⟨heading, ?_⟩)
    refine List.forall_mem_cons.mpr ⟨table, ?_⟩
    intro child member
    obtain rfl := List.mem_singleton.mp member
    exact paragraph
  obtain ⟨fragment, rendered⟩ : ∃ fragment, (document crowdedSetting crowded).outcome = .ok fragment :=
    ⟨_, rfl⟩
  obtain ⟨found, -, scanned, markers, -⟩ :=
    document_markers_found crowdedSetting rfl ids crowded rfl direct fragment rendered
  exact ⟨rfl, ids, rfl, direct, fragment, found, rendered, scanned, markers.trans (by decide +kernel)⟩

end Render

end RichText
