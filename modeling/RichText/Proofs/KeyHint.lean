import RichText.Page.View
import RichText.Proofs.Dataset.Keys
import RichText.Proofs.HeadingScope
import RichText.Proofs.Marker.Scan
import RichText.Proofs.Render.Markers
import RichText.Proofs.Text.SlugWords

/-!
The way of a key hint, from the heading above a table to the keys of the dataset. The hint is the slug of
the heading. Writing it into a marker, reading the marker, cutting the hint at commas and bringing it into
normal form do not change it; so the keys are matched with the slug itself, word by word.
-/

namespace RichText

/-! ## Hints with single hyphens between their words -/

section Hyphenated

variable {parts : List Text} {hint : Text} (hyphenated : Text.Hyphenated parts hint)

include hyphenated

theorem KeyMatch.normal_of_hyphenated : normal hint = hint := by
  rw [normal, Text.trim_of_no_blank hyphenated.not_blank, hyphenated.lower_eq]

theorem Dataset.hint_values_of_hyphenated (present : hint ≠ []) : hintValues hint = [hint] := by
  have alone : hint = Text.join "," [hint] := by
    rw [Text.join_cons, List.flatMap_nil, List.append_nil]
  have noComma : ',' ∉ hint := by
    intro comma
    exact absurd (hyphenated.mem_cases ',' comma) (by decide)
  have values := hint_values_join (List.cons_ne_nil hint []) (List.forall_mem_singleton.mpr noComma)
    (List.forall_mem_singleton.mpr (KeyMatch.normal_of_hyphenated hyphenated))
    (List.forall_mem_singleton.mpr present)
  rwa [← alone] at values

end Hyphenated

/-- A dataset that is asked for a single value looks for the key that this value means. -/
theorem Dataset.resolve_keys_single {dataset : Dataset} {hint value : Text}
    (single : hintValues hint = [value]) :
    (dataset.resolveKeys hint).value = (KeyMatch.resolve value dataset.knownKeys).value.toList := by
  rw [resolveKeys, single, Noted.bind_value, resolveValues, Noted.bind_value]
  cases (KeyMatch.resolve value dataset.knownKeys).value with
  | none => rfl
  | some key => rfl

namespace HeadingScope

variable {siblings : List Node} {index : Int} {hint : Text}

/-- A hint is given by the last decisive sibling, which is a heading then. -/
theorem heading_of_hint (derived : hintAt siblings index = some hint) :
    ∃ heading, lastDecisive? siblings index = some heading ∧ heading.isHeading = true ∧
      hint = Text.hintSlug (Text.trim heading.plainText) ∧ hint ≠ [] := by
  rw [hint_at_eq, Option.bind_eq_some_iff] at derived
  obtain ⟨heading, last, given⟩ := derived
  exact ⟨heading, last, hint_of_heading given⟩

/-- The marker of a table below a heading is read back with the hint that was put into it, alone and at the
start of any fragment, and this is the hint that selects the rows. -/
theorem table_marker_of_hint (derived : hintAt siblings index = some hint) (entry : Entry)
    (present : entry.id ≠ []) (trimmed : Text.trim entry.id = entry.id) :
    let marker := (Embed.tableMarker entry (.ofSiblings siblings index)).value
    marker = { kind := .table, id := entry.id, key := some hint } ∧
      Marker.ofText marker.toText = .ok marker ∧
      (∀ rest, Marker.pieces (marker.toText ++ rest) =
        .marker marker.toText (some marker) :: Marker.pieces rest) ∧
      Page.filterHint marker = some hint := by
  intro marker
  obtain ⟨-, writable⟩ :=
    Render.table_marker_writable ⟨present, trimmed⟩ (.ofSiblings siblings index)
  have keyed : marker.key = some hint := derived
  have unfiltered : Text.trim (marker.attributeOf "filters") = [] := rfl
  refine ⟨?_, Marker.of_text_to_text marker writable, ?_, ?_⟩
  · rw [← keyed]
    rfl
  · intro rest
    rw [Marker.pieces_read (Marker.to_text_spelled writable.names_valid),
      writable.of_written_escaped]
  · rw [Page.filterHint, unfiltered, ← keyed, ← writable.key_hint_eq]
    rfl

/-- A derived hint travels unchanged. It is the slug of the heading above the place, with a word at least
and with single hyphens between its words. The marker of a table with any id that a marker can carry is read
back with this hint, alone and out of a fragment; the display stage takes the hint of that marker as its
only value, and the keys of a dataset are matched with it and its words. -/
theorem derived_hint_unchanged (siblings : List Node) (index : Int) (hint : Text)
    (derived : hintAt siblings index = some hint) :
    ∃ heading parts,
      (lastDecisive? siblings index = some heading ∧ heading.isHeading = true ∧
        hint = Text.hintSlug (Text.trim heading.plainText)) ∧
      (parts ≠ [] ∧ Text.Hyphenated parts hint ∧
        hint.head? ≠ some '-' ∧ hint.getLast? ≠ some '-' ∧ ¬"--".toList <:+: hint) ∧
      (∀ entry : Entry, entry.id ≠ [] → Text.trim entry.id = entry.id →
        let marker := (Embed.tableMarker entry (.ofSiblings siblings index)).value
        marker = { kind := .table, id := entry.id, key := some hint } ∧
          Marker.ofText marker.toText = .ok marker ∧
          (∀ rest, Marker.pieces (marker.toText ++ rest) =
            .marker marker.toText (some marker) :: Marker.pieces rest) ∧
          Page.filterHint marker = some hint) ∧
      (Dataset.hintValues hint = [hint] ∧ KeyMatch.normal hint = hint ∧
        ∀ dataset : Dataset, (dataset.resolveKeys hint).value =
          (KeyMatch.resolve hint dataset.knownKeys).value.toList) ∧
      Text.pieces (· = '-') hint = parts ∧ Text.words Text.isAnchorSeparator hint = parts := by
  obtain ⟨heading, last, isHeading, slug, present⟩ := heading_of_hint derived
  obtain ⟨parts, hyphenated⟩ : ∃ parts, Text.Hyphenated parts hint := by
    rw [slug]
    exact ⟨_, Text.slug_of_hyphenated Text.isBlank _⟩
  have worded : parts ≠ [] := by
    rintro rfl
    exact present hyphenated.joined
  have values := Dataset.hint_values_of_hyphenated hyphenated present
  exact ⟨heading, parts, ⟨last, isHeading, slug⟩,
    ⟨worded, hyphenated, hyphenated.no_stray_hyphen⟩, table_marker_of_hint derived,
    ⟨values, KeyMatch.normal_of_hyphenated hyphenated,
      fun _ => Dataset.resolve_keys_single values⟩,
    hyphenated.pieces_eq worded, hyphenated.words_eq⟩

/-- A heading with a final sigma, a dotted capital, a Kelvin sign and a hyphen, and an entry whose id has
a quote, a bracket and a reference in it. -/
theorem street_hint_unchanged :
    let siblings := [namedHeading " ΟΔΟΣ: Senior-Living,  İzmir 5 K ",
      Node.paragraph [.words "Intro"], Node.embeddedEntry "A" false]
    let hint : Text := "seniorliving-izmir-5-k"
    let entry : Entry := { id := "a\"] &amp; b", contentType := "dataTable" }
    let marker := (Embed.tableMarker entry (.ofSiblings siblings 2)).value
    hintAt siblings 2 = some hint ∧ entry.id ≠ [] ∧ Text.trim entry.id = entry.id ∧
      marker = { kind := .table, id := entry.id, key := some hint } ∧
      Marker.ofText marker.toText = .ok marker ∧ Dataset.hintValues hint = [hint] ∧
      Text.words Text.isAnchorSeparator hint = Text.pieces (· = '-') hint := by
  intro siblings hint entry marker
  have derived : hintAt siblings 2 = some hint := by
    rw [hint_at_eq]
    decide +kernel
  have present : entry.id ≠ [] := by decide
  have trimmed : Text.trim entry.id = entry.id := by decide
  obtain ⟨heading, parts, -, -, carried, ⟨values, -⟩, cut, words⟩ :=
    derived_hint_unchanged siblings 2 hint derived
  obtain ⟨made, read, -⟩ := carried entry present trimmed
  exact ⟨derived, present, trimmed, made, read, values, words.trans cut.symm⟩

end HeadingScope

end RichText
