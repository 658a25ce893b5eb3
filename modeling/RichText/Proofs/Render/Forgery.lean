import RichText.Proofs.Markup.Exposed
import RichText.Proofs.Render.Embed

/-!
What content can do to the display stage. Where a document reaches no data component, all markers of its
rendering are forged. Attribute values and comments can forge them, also several of them together;
nothing else can.
-/

namespace RichText.Render

section Readable

variable {fragment : Text} {headings : List Page.Heading} (readable : Page.Readable fragment headings)

include readable

/-- The scan of a fragment without markers that stand for views. -/
theorem scan_of_standing_nil (unmarked : Marker.standing fragment = []) :
    ∃ found, Marker.scan fragment = .ok found ∧ ∀ one ∈ found, one.marker = none :=
  ⟨_, Marker.scan_ok readable.markers, List.filterMap_eq_nil_iff.mp unmarked⟩

theorem expand_of_standing_nil (unmarked : Marker.standing fragment = []) (config : Config)
    (store : Store) : (Page.expand config store fragment).outcome = .ok fragment := by
  rw [Marker.standing_eq] at unmarked
  rw [Page.expand_outcome config store readable, Marker.filled_unmarked _ unmarked, Marker.slots_raw]

end Readable

/-- A document that emits no marker is left alone by the display stage exactly if its attribute values and
comments hold no marker with an id when they stand next to each other, and its rendering can be read: no
reference in a marker without an id or in a heading has too many digits. -/
theorem unmarked_document_inert_iff (setting : Setting) (noHook : setting.entryMarkup = none)
    (root : Node) (noComponent : emitted (document setting root).notices = []) (fragment : Text)
    (rendered : (document setting root).outcome = .ok fragment) :
    ((∃ found, Marker.scan fragment = .ok found ∧ ∀ one ∈ found, one.marker = none) ∧
        ∀ config store, (Page.expand config store fragment).outcome = .ok fragment) ↔
      (∀ found ∈ Marker.occurrences (Markup.exposed fragment), found.marker = none) ∧
        ∃ headings, Page.Readable fragment headings := by
  have drawn : DrawnText (fun _ => True) True (document setting root) :=
    any_document_drawn (fun _ => trivial) trivial noHook root
  unfold DrawnText Drawn at drawn
  rw [rendered, noComponent] at drawn
  obtain ⟨items, rfl, markers, -⟩ := drawn
  have exposed := Markup.standing_exposed_iff items markers
  have unforged : (∀ found ∈ Marker.occurrences (Markup.exposed (Markup.textOf items)),
      found.marker = none) ↔ Marker.standing (Markup.exposed (Markup.textOf items)) = [] :=
    List.filterMap_eq_nil_iff.symm
  rw [unforged, ← exposed]
  constructor
  · rintro ⟨⟨found, scanned, none⟩, inert⟩
    obtain ⟨-, rfl⟩ := Marker.scan_ok_iff.mp scanned
    exact ⟨List.filterMap_eq_nil_iff.mpr none,
      Page.readable_of_expanded setting.config setting.store ⟨_, inert _ _⟩⟩
  · rintro ⟨none, headings, readable⟩
    exact ⟨scan_of_standing_nil readable none, expand_of_standing_nil readable none⟩

/-- Two links, of which the first opens a marker and the second closes it. -/
def linked : Node :=
  Node.document [
    .node (Node.paragraph [
      .node (Node.hyperlink (some "[richdoc_table id=") [.words "X"]),
      .node (Node.hyperlink (some "]") [.words "Y"])])]

theorem linked_not_inert :
    ({} : Setting).entryMarkup = none ∧ emitted (document {} linked).notices = [] ∧
      ∃ fragment, (document {} linked).outcome = .ok fragment ∧
        ¬((∃ found, Marker.scan fragment = .ok found ∧ ∀ one ∈ found, one.marker = none) ∧
          ∀ config store, (Page.expand config store fragment).outcome = .ok fragment) := by
  have none : emitted (document {} linked).notices = [] := by decide +kernel
  have rendered : (document {} linked).outcome =
      .ok "<p><a href=\"[richdoc_table id=\">X</a><a href=\"]\">Y</a></p>".toList := by
    rfl
  refine ⟨rfl, none, _, rendered, ?_⟩
  rw [unmarked_document_inert_iff {} rfl linked none _ rendered]
  rintro ⟨unforged, -⟩
  exact absurd unforged (by decide +kernel)

end RichText.Render
