import RichText.Proofs.Marker.RoundTrip
import RichText.Proofs.Marker.Scan

/-!
How a fragment is cut. The markers of a fragment and the gaps around them are all of it, in order; every
marker reads as it does on its own, and no part of a gap is a marker. Replacing the markers leaves the
gaps as they are. A reference with too many digits in a value stops the scan, the reading of its marker,
and the replacing where it comes to that marker.
-/

namespace RichText.Marker

/-- No part of a text is spelled like a marker, with or without an id. -/
def Bare (text : Text) : Prop :=
  ∀ part, part <:+: text → ∀ kind written, ¬Spelled kind written part

/-- A text as a piece; an empty one is none. -/
def plainPieces : Text → List Piece
  | [] => []
  | char :: text => [.plain (char :: text)]

/-- A fragment with its pieces, and the gaps before, between and behind its markers. -/
inductive Cut : Text → List Piece → List Text → Prop
  | last {text : Text} (bare : Bare text) : Cut text (plainPieces text) [text]
  | marker {gap raw rest : Text} {kind : Kind} {written : List (Text × Text)} {parts : List Piece}
      {gaps : List Text} (bare : Bare gap) (spelled : Spelled kind written raw)
      (further : Cut rest parts gaps) :
      Cut (gap ++ (raw ++ rest)) (plainPieces gap ++ .marker raw (ofWritten? kind written) :: parts)
        (gap :: gaps)

/-! ## Every fragment is cut -/

theorem bare_nil : Bare [] := by
  intro part inside kind written spelled
  obtain ⟨tail, rfl⟩ := spelled_cons spelled
  exact absurd (List.infix_nil.mp inside) (List.cons_ne_nil _ _)

theorem bare_cons {char : Char} {gap rest : Text} (bare : Bare gap)
    (unread : readWritten? (char :: (gap ++ rest)) = none) : Bare (char :: gap) := by
  intro part inside kind written spelled
  rcases List.infix_cons_iff.mp inside with ⟨more, same⟩ | later
  · have read := read_written_complete spelled (more ++ rest)
    rw [← List.append_assoc, same, List.cons_append, unread] at read
    exact absurd read nofun
  · exact bare part later kind written spelled

theorem cut_cons {char : Char} {rest : Text} {parts : List Piece} {gaps : List Text}
    (unread : readWritten? (char :: rest) = none) (cut : Cut rest parts gaps) :
    ∃ gaps, Cut (char :: rest) (consPlain char parts) gaps := by
  cases cut with
  | last bare =>
      have behind := @bare_cons char rest [] bare (by simpa using unread)
      refine ⟨[char :: rest], ?_⟩
      cases rest with
      | nil => exact .last behind
      | cons first rest => exact .last behind
  | @marker gap raw rest kind written parts gaps bare spelled further =>
      refine ⟨(char :: gap) :: gaps, ?_⟩
      have cut := Cut.marker (bare_cons bare unread) spelled further
      cases gap with
      | nil => exact cut
      | cons first gap => exact cut

theorem exists_cut (fragment : Text) : ∃ gaps, Cut fragment (pieces fragment) gaps := by
  induction fragment using scan_induction with
  | nil => exact ⟨[[]], .last bare_nil⟩
  | unread char rest unread induction =>
      obtain ⟨gaps, cut⟩ := induction
      rw [pieces_unread unread]
      exact cut_cons unread cut
  | read kind written raw rest spelled induction =>
      obtain ⟨gaps, cut⟩ := induction
      rw [pieces_read spelled]
      exact ⟨[] :: gaps, .marker bare_nil spelled cut⟩

/-! ## Markers and gaps by position -/

/-- What a marker of a fragment reads as on its own. -/
def Found.reading (found : Found) : Except Fault Marker :=
  if found.raw.isLegible then
    match found.marker with
    | some marker => .ok marker
    | none => .error (.withoutId found.raw)
  else .error (.reference .tooManyDigits)

/-- The gaps of a fragment from a position on, between markers that were found behind it. -/
def gapsFrom (fragment : Text) (position : Nat) : List Found → List Text
  | [] => [fragment.drop position]
  | found :: later => fragment.extract position found.start :: gapsFrom fragment found.stop later

/-- The gaps before, between and behind the markers of a fragment. -/
def gaps (fragment : Text) : List Text := gapsFrom fragment 0 (occurrences fragment)

/-- Gaps with a text between each two of them. -/
def weave : List Text → List Text → Text
  | gap :: gaps, view :: views => gap ++ (view ++ weave gaps views)
  | gaps, _ => gaps.flatten

theorem found_behind_plain (position : Nat) (text : Text) (parts : List Piece) :
    foundFrom position (plainPieces text ++ parts) = foundFrom (position + text.length) parts := by
  cases text with
  | nil => rfl
  | cons char text => rfl

theorem found_in_plain (position : Nat) (text : Text) : foundFrom position (plainPieces text) = [] := by
  cases text with
  | nil => rfl
  | cons char text => rfl

theorem extract_middle (front middle rest : Text) :
    (front ++ (middle ++ rest)).extract front.length (front.length + middle.length) = middle := by
  simp [List.extract]

theorem of_text_spelled {kind : Kind} {written : List (Text × Text)} {raw : Text}
    (spelled : Spelled kind written raw) (start stop : Nat) :
    ofText raw = (Found.mk (ofWritten? kind written) start stop raw).reading := by
  have read := read_written_complete spelled []
  rw [List.append_nil] at read
  have trimmed : Text.trim raw = raw := by
    obtain ⟨inner, rfl⟩ := spelled_bracketed spelled
    exact trim_bracketed inner
  cases found : ofWritten? kind written with
  | none => simp only [ofText, Found.reading, trimmed, read, found]
  | some marker => simp only [ofText, Found.reading, trimmed, read, found]

theorem of_text_bare {text part : Text} (bare : Bare text) (inside : part <:+: text) :
    ofText part = .error (.notAMarker part) := by
  have trimmed := (Text.trim_infix part).trans inside
  unfold ofText
  split
  · rename_i kind written read
    obtain ⟨raw, spelled, same⟩ := read_written_sound read
    rw [List.append_nil] at same
    exact absurd spelled (same ▸ bare _ trimmed kind written)
  · rfl

theorem replace_plain {ε : Type} (illegible : Text.Reference.Fault → ε)
    (replacement : Marker → Traced ε Text) (text : Text) (parts : List Piece) :
    Page.replacePieces illegible replacement (plainPieces text ++ parts) = do
      let rest ← Page.replacePieces illegible replacement parts
      return text ++ rest := by
  cases text with
  | nil => exact (bind_pure _).symm
  | cons char text => rfl

namespace Cut

variable {rest : Text} {parts : List Piece} {gaps : List Text} (cut : Cut rest parts gaps)

include cut

theorem gaps_bare : ∀ gap ∈ gaps, Bare gap := by
  induction cut with
  | last bare => exact List.forall_mem_singleton.mpr bare
  | marker bare spelled further induction => exact List.forall_mem_cons.mpr ⟨bare, induction⟩

theorem gaps_from (before : Text) :
    gapsFrom (before ++ rest) before.length (foundFrom before.length parts) = gaps := by
  induction cut generalizing before with
  | @last text bare =>
      rw [found_in_plain, gapsFrom, List.drop_left]
  | @marker gap raw rest kind written parts gaps bare spelled further induction =>
      have later := induction (before ++ (gap ++ raw))
      rw [List.length_append, List.length_append, ← Nat.add_assoc] at later
      rw [found_behind_plain, foundFrom, gapsFrom, extract_middle]
      simpa using later

theorem found_within (before : Text) : ∀ found ∈ foundFrom before.length parts,
    before.length ≤ found.start ∧ found.start < found.stop ∧ found.stop ≤ (before ++ rest).length ∧
      found.raw = (before ++ rest).extract found.start found.stop ∧
        ofText found.raw = found.reading := by
  induction cut generalizing before with
  | @last text bare =>
      rw [found_in_plain]
      exact List.forall_mem_nil _
  | @marker gap raw rest kind written parts gaps bare spelled further induction =>
      have regrouped : before ++ (gap ++ (raw ++ rest)) = (before ++ (gap ++ raw)) ++ rest := by simp
      have size : (before ++ (gap ++ raw)).length = before.length + gap.length + raw.length := by
        simp [Nat.add_assoc]
      have present : 0 < raw.length := by
        obtain ⟨tail, rfl⟩ := spelled_cons spelled
        simp
      rw [found_behind_plain, foundFrom, List.forall_mem_cons]
      refine ⟨⟨?_, ?_, ?_, ?_, of_text_spelled spelled _ _⟩, ?_⟩
      · simp
      · simpa using present
      · simp [Nat.add_assoc]
      · have middle := extract_middle (before ++ gap) raw rest
        rw [List.length_append, List.append_assoc] at middle
        exact middle.symm
      · have later := induction (before ++ (gap ++ raw))
        rw [size, ← regrouped] at later
        intro found member
        obtain ⟨behind, further⟩ := later found member
        exact ⟨by omega, further⟩

theorem found_ordered (before : Text) :
    (foundFrom before.length parts).Pairwise fun first second => first.stop ≤ second.start := by
  induction cut generalizing before with
  | @last text bare =>
      rw [found_in_plain]
      exact .nil
  | @marker gap raw rest kind written parts gaps bare spelled further induction =>
      have size : (before ++ (gap ++ raw)).length = before.length + gap.length + raw.length := by
        simp [Nat.add_assoc]
      have ordered := induction (before ++ (gap ++ raw))
      have within := further.found_within (before ++ (gap ++ raw))
      rw [size] at ordered within
      rw [found_behind_plain, foundFrom, List.pairwise_cons]
      exact ⟨fun found member => (within found member).1, ordered⟩

theorem weave_raw (position : Nat) :
    weave gaps ((foundFrom position parts).map Found.raw) = rest := by
  induction cut generalizing position with
  | @last text bare =>
      rw [found_in_plain]
      simp [weave]
  | @marker gap raw rest kind written parts gaps bare spelled further induction =>
      rw [found_behind_plain, foundFrom, List.map_cons, weave, induction]

theorem replace_pieces {ε : Type} (illegible : Text.Reference.Fault → ε)
    (replacement : Marker → Traced ε Text) (position : Nat) :
    Page.replacePieces illegible replacement parts = do
      let views ← (foundFrom position parts).mapM fun found =>
        Page.replaced illegible replacement found.raw found.marker
      return weave gaps views := by
  induction cut generalizing position with
  | @last text bare =>
      have whole := replace_plain illegible replacement text []
      rw [List.append_nil] at whole
      rw [whole, found_in_plain]
      simp [Page.replacePieces, weave]
  | @marker gap raw rest kind written parts gaps bare spelled further induction =>
      rw [replace_plain, Page.replacePieces, induction (position + gap.length + raw.length),
        found_behind_plain, foundFrom, List.mapM_cons]
      simp only [bind_assoc, pure_bind, weave]

end Cut

/-- The markers of a fragment stand behind each other, and no part of the gaps around them is a marker;
together they are the fragment. A scan finds all of them, each reads on its own as it was found, and
replacing them puts a text for each, in order, and keeps the gaps, as long as their values can be read: if
a value has a reference with too many digits, the scan, the reading of this marker and the replacing
fail. -/
theorem scan_cuts (fragment : Text) :
    ((occurrences fragment).Pairwise fun first second => first.stop ≤ second.start) ∧
      (∀ found ∈ occurrences fragment, found.start < found.stop ∧ found.stop ≤ fragment.length ∧
        found.raw = fragment.extract found.start found.stop ∧ ofText found.raw = found.reading) ∧
      (∀ gap ∈ gaps fragment, ∀ part, part <:+: gap → ofText part = .error (.notAMarker part)) ∧
      weave (gaps fragment) ((occurrences fragment).map Found.raw) = fragment ∧
      (scan fragment =
        if ∀ found ∈ occurrences fragment, found.raw.isLegible = true then .ok (occurrences fragment)
        else .error .tooManyDigits) ∧
      ∀ {ε : Type} (illegible : Text.Reference.Fault → ε) (replacement : Marker → Traced ε Text),
        Page.replaceMarkers illegible replacement fragment = do
          let views ← (occurrences fragment).mapM fun found =>
            Page.replaced illegible replacement found.raw found.marker
          return weave (gaps fragment) views := by
  obtain ⟨between, cut⟩ := exists_cut fragment
  have same : gaps fragment = between := cut.gaps_from []
  rw [same]
  refine ⟨cut.found_ordered [], ?_, ?_, cut.weave_raw 0, ?_, ?_⟩
  · intro found member
    exact (cut.found_within [] found member).2
  · intro gap member part inside
    exact of_text_bare (cut.gaps_bare gap member) inside
  · simp only [scan, List.all_eq_true]
  · intro ε illegible replacement
    exact cut.replace_pieces illegible replacement 0

/-- A value that no one reads stops the scan: this marker has no id. -/
example :
    scan ("[richdoc_toc x=\"&#" ++ List.replicate 4301 '1' ++ ";\"]") = .error .tooManyDigits := by
  decide +kernel

end RichText.Marker
