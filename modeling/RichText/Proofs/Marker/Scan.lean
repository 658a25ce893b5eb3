import RichText.Page.Expand
import RichText.Proofs.Marker.Legible
import RichText.Proofs.Traced

/-!
What a fragment holds, place by place: a character that stays, or a marker that a view is put for. A
marker without an id stays, so its characters are characters like others. All that the display stage
does with a fragment that can be read follows from its slots.
-/

namespace RichText.Marker

inductive Slot
  | kept (char : Char)
  | view (raw : Text) (marker : Marker)
  deriving DecidableEq

def Slot.raw : Slot → Text
  | .kept char => [char]
  | .view raw _ => raw

def Slot.marker? : Slot → Option Marker
  | .kept _ => none
  | .view _ marker => some marker

def Piece.slots : Piece → List Slot
  | .plain text => text.map .kept
  | .marker raw none => raw.map .kept
  | .marker raw (some given) => [.view raw given]

def slots (fragment : Text) : List Slot := (pieces fragment).flatMap Piece.slots

/-- The markers of a fragment that stand for views. -/
def standing (fragment : Text) : List Marker := (occurrences fragment).filterMap Found.marker

/-- Whether the values of a piece can be read. -/
def Piece.isLegible : Piece → Bool
  | .plain _ => true
  | .marker raw _ => raw.isLegible

/-- Whether all markers of a fragment can be read. -/
def isReadable (fragment : Text) : Bool := (pieces fragment).all Piece.isLegible

/-! ## One step of the scan -/

theorem pieces_after_pass (passed rest : Text) :
    piecesAfter passed.length (passed ++ rest) = pieces rest := by
  induction passed with
  | nil => rfl
  | cons char passed induction => simpa [piecesAfter] using induction

theorem slots_cons_plain (char : Char) (parts : List Piece) :
    (consPlain char parts).flatMap Piece.slots = .kept char :: parts.flatMap Piece.slots := by
  cases parts with
  | nil => rfl
  | cons piece parts =>
      cases piece with
      | plain text => rfl
      | marker raw marker => rfl

theorem pieces_unread {char : Char} {rest : Text} (unread : readWritten? (char :: rest) = none) :
    pieces (char :: rest) = consPlain char (pieces rest) := by
  rw [pieces, piecesAfter, unread]
  rfl

theorem slots_unread {char : Char} {rest : Text} (unread : readWritten? (char :: rest) = none) :
    slots (char :: rest) = .kept char :: slots rest := by
  rw [slots, pieces_unread unread]
  exact slots_cons_plain char (pieces rest)

/-- The tag of a marker between the bracket and the attributes. -/
def tagOf (mark : Char) (kind : Kind) : Text := "richdoc" ++ mark :: kind.label

theorem opening_eq (rest : Text) :
    "[richdoc".toList ++ rest = '[' :: ("richdoc".toList ++ rest) := rfl

theorem spelled_parts {kind : Kind} {written : List (Text × Text)} {raw : Text}
    (spelled : Spelled kind written raw) :
    ∃ mark attributes blanks, (mark = '_' ∨ mark = '-') ∧ SpelledAttributes written attributes ∧
      (∀ char ∈ blanks, Text.isBlank char = true) ∧
      raw = '[' :: (tagOf mark kind ++ (attributes ++ (blanks ++ [']']))) := by
  cases spelled with
  | @marker mark attributes blanks joined spelled blank =>
      refine ⟨mark, attributes, blanks, joined, spelled, blank, ?_⟩
      rw [opening_eq]
      unfold tagOf
      simp only [List.append_assoc, List.cons_append]

theorem spelled_of_parts (kind : Kind) {written : List (Text × Text)} {mark : Char}
    {attributes blanks : Text} (joined : mark = '_' ∨ mark = '-')
    (spelled : SpelledAttributes written attributes)
    (blank : ∀ char ∈ blanks, Text.isBlank char = true) :
    Spelled kind written ('[' :: (tagOf mark kind ++ (attributes ++ (blanks ++ [']'])))) := by
  have marker : Spelled kind written _ := .marker joined spelled blank
  rw [opening_eq] at marker
  unfold tagOf
  simpa only [List.append_assoc, List.cons_append] using marker

theorem spelled_cons {kind : Kind} {written : List (Text × Text)} {raw : Text}
    (spelled : Spelled kind written raw) : ∃ tail, raw = '[' :: tail := by
  obtain ⟨_, _, _, _, _, _, same⟩ := spelled_parts spelled
  exact ⟨_, same⟩

theorem spelled_bracketed {kind : Kind} {written : List (Text × Text)} {raw : Text}
    (spelled : Spelled kind written raw) : ∃ inner, raw = '[' :: (inner ++ [']']) := by
  obtain ⟨mark, attributes, blanks, -, -, -, same⟩ := spelled_parts spelled
  exact ⟨tagOf mark kind ++ (attributes ++ blanks), by simp [same]⟩

theorem pieces_read {kind : Kind} {written : List (Text × Text)} {raw : Text}
    (spelled : Spelled kind written raw) (rest : Text) :
    pieces (raw ++ rest) = .marker raw (ofWritten? kind written) :: pieces rest := by
  have read : readWritten? (raw ++ rest) = some (kind, written, rest) :=
    read_written_complete spelled rest
  obtain ⟨tail, rfl⟩ := spelled_cons spelled
  rw [List.cons_append] at read ⊢
  have size : (tail ++ rest).length - rest.length = tail.length := by simp
  have taken : ('[' :: (tail ++ rest)).take (tail.length + 1) = '[' :: tail := by simp
  rw [pieces, piecesAfter, read]
  simp only [size, taken, pieces_after_pass]

theorem slots_read {kind : Kind} {written : List (Text × Text)} {raw : Text}
    (spelled : Spelled kind written raw) (rest : Text) :
    slots (raw ++ rest) =
      (Piece.marker raw (ofWritten? kind written)).slots ++ slots rest := by
  rw [slots, pieces_read spelled, List.flatMap_cons]
  rfl

theorem readable_unread {char : Char} {rest : Text} (unread : readWritten? (char :: rest) = none) :
    isReadable (char :: rest) = isReadable rest := by
  rw [isReadable, pieces_unread unread, isReadable]
  cases pieces rest with
  | nil => rfl
  | cons piece parts =>
      cases piece with
      | plain text => rfl
      | marker raw given => rfl

theorem readable_read {kind : Kind} {written : List (Text × Text)} {raw : Text}
    (spelled : Spelled kind written raw) (rest : Text) :
    isReadable (raw ++ rest) = (raw.isLegible && isReadable rest) := by
  rw [isReadable, pieces_read spelled, List.all_cons]
  rfl

/-- A fragment is scanned from character to character, and over each marker as a whole. -/
theorem scan_induction {holds : Text → Prop} (nil : holds [])
    (unread : ∀ char rest, readWritten? (char :: rest) = none → holds rest → holds (char :: rest))
    (read : ∀ kind written raw rest, Spelled kind written raw → holds rest → holds (raw ++ rest))
    (fragment : Text) : holds fragment := by
  induction size : fragment.length using Nat.strong_induction_on generalizing fragment with
  | _ size induction =>
      subst size
      cases fragment with
      | nil => exact nil
      | cons char rest =>
          cases reading : readWritten? (char :: rest) with
          | none => exact unread char rest reading (induction rest.length (by simp) rest rfl)
          | some parts =>
              obtain ⟨kind, written, after⟩ := parts
              obtain ⟨raw, spelled, same⟩ := read_written_sound reading
              have shorter : after.length < (char :: rest).length := by
                obtain ⟨tail, rfl⟩ := spelled_cons spelled
                rw [same]
                simp only [List.length_append, List.length_cons]
                omega
              rw [same]
              exact read kind written raw after spelled (induction after.length shorter after rfl)

theorem readable_of_nondecimal {fragment : Text} (safe : Text.Nondecimal fragment) :
    isReadable fragment = true := by
  induction fragment using scan_induction with
  | nil => rfl
  | unread char rest unread induction =>
      rw [readable_unread unread]
      exact induction (@Text.nondecimal_behind [char] rest safe)
  | read kind written raw rest spelled induction =>
      rw [readable_read spelled, Text.legible_of_nondecimal (Text.nondecimal_front safe),
        induction (Text.nondecimal_behind safe)]
      rfl

theorem unread_of_not_bracket {char : Char} (other : char ≠ '[') (rest : Text) :
    readWritten? (char :: rest) = none := by
  cases read : readWritten? (char :: rest) with
  | none => rfl
  | some reading =>
      obtain ⟨kind, written, after⟩ := reading
      obtain ⟨raw, spelled, same⟩ := read_written_sound read
      obtain ⟨tail, rfl⟩ := spelled_cons spelled
      exact absurd (List.cons.inj same).1 other

theorem slots_run {text : Text} (noBracket : '[' ∉ text) (rest : Text) :
    slots (text ++ rest) = text.map .kept ++ slots rest := by
  induction text with
  | nil => rfl
  | cons char text induction =>
      simp only [List.mem_cons, not_or] at noBracket
      rw [List.cons_append, slots_unread (unread_of_not_bracket (Ne.symm noBracket.1) _),
        induction noBracket.2]
      rfl

/-! ## Markers that open in a text -/

/-- Characters that bound tags, attribute values and markers. Neither the tag of a marker nor the names
of its attributes nor the blanks in front of them hold one. -/
def bounds (char : Char) : Bool := char = '"' || char = '<' || char = '>' || char = '['

section Bounds

variable {char : Char} (bound : bounds char = true)

include bound

theorem bound_cases : char = '"' ∨ char = '<' ∨ char = '>' ∨ char = '[' := by
  simpa [bounds, or_assoc] using bound

theorem bound_not_mem_blanks {blanks : Text} (blank : ∀ char ∈ blanks, Text.isBlank char = true) :
    char ∉ blanks := by
  intro member
  have isBlank := blank char member
  rcases bound_cases bound with rfl | rfl | rfl | rfl
  all_goals exact absurd isBlank (by decide)

theorem bound_not_mem_name {name : Text} (named : isName name = true) : char ∉ name := by
  obtain ⟨first, rest, rfl, start, parts⟩ := is_name_cons named
  intro member
  rcases List.mem_cons.mp member with rfl | member
  · rcases bound_cases bound with rfl | rfl | rfl | rfl
    all_goals exact absurd start (by decide)
  · have part := parts char member
    rcases bound_cases bound with rfl | rfl | rfl | rfl
    all_goals exact absurd part (by decide)

theorem bound_not_mem_tag {mark : Char} (joined : mark = '_' ∨ mark = '-') (kind : Kind) :
    char ∉ tagOf mark kind := by
  rcases bound_cases bound with rfl | rfl | rfl | rfl
  all_goals rcases joined with rfl | rfl
  all_goals cases kind <;> decide

theorem bound_not_mem_opening {blanks name : Text}
    (blank : ∀ char ∈ blanks, Text.isBlank char = true) (named : isName name = true) :
    char ∉ blanks ++ (name ++ ['=']) := by
  have equals : char ≠ '=' := by
    rcases bound_cases bound with rfl | rfl | rfl | rfl
    all_goals decide
  simp [bound_not_mem_blanks bound blank, bound_not_mem_name bound named, equals]

end Bounds

/-- No quote comes before an angle bracket or another bracket. A marker that opens in front of such a
text has no attributes. -/
def Guarded (text : Text) : Prop :=
  ∀ before after, text = before ++ '"' :: after → '<' ∈ before ∨ '[' ∈ before

theorem spelled_guarded {kind : Kind} {written : List (Text × Text)} {tail after : Text}
    (spelled : Spelled kind written ('[' :: tail)) (guarded : Guarded (tail ++ after)) :
    written = [] ∧ '[' ∉ tail := by
  obtain ⟨mark, attributes, blanks, joined, parts, blank, same⟩ := spelled_parts spelled
  obtain rfl := (List.cons.inj same).2
  cases parts with
  | none =>
      have inTag := @bound_not_mem_tag '[' (by decide) mark joined kind
      have inBlanks := @bound_not_mem_blanks '[' (by decide) blanks blank
      simp [inTag, inBlanks]
  | @more gap name value written others present gapBlank named closed further =>
      exfalso
      have split : (tagOf mark kind ++ (gap ++ (name ++ '=' :: '"' :: (value ++ '"' :: others)) ++
            (blanks ++ [']']))) ++ after =
          (tagOf mark kind ++ (gap ++ (name ++ ['=']))) ++
            '"' :: (value ++ '"' :: (others ++ (blanks ++ ']' :: after))) := by simp
      have absent (char : Char) (bound : bounds char = true) :
          char ∉ tagOf mark kind ++ (gap ++ (name ++ ['='])) := by
        rw [List.mem_append, not_or]
        exact ⟨bound_not_mem_tag bound joined kind, bound_not_mem_opening bound gapBlank named⟩
      rcases guarded _ _ split with angle | bracket
      · exact absent '<' (by decide) angle
      · exact absent '[' (by decide) bracket

/-- A bracket in front of a guarded text stays, and what follows is scanned as if it stood alone. -/
theorem slots_guarded {rest : Text} (guarded : Guarded rest) :
    slots ('[' :: rest) = .kept '[' :: slots rest := by
  cases read : readWritten? ('[' :: rest) with
  | none => exact slots_unread read
  | some reading =>
      obtain ⟨kind, written, after⟩ := reading
      obtain ⟨raw, spelled, same⟩ := read_written_sound read
      obtain ⟨tail, rfl⟩ := spelled_cons spelled
      obtain rfl : rest = tail ++ after := (List.cons.inj same).2
      obtain ⟨rfl, noBracket⟩ := spelled_guarded spelled guarded
      have withoutId : ofWritten? kind [] = none := rfl
      rw [← List.cons_append, slots_read spelled, slots_run noBracket, withoutId]
      rfl

/-- No character is lost. -/
theorem slots_raw (fragment : Text) : (slots fragment).flatMap Slot.raw = fragment := by
  have chars (text : Text) : (text.map Slot.kept).flatMap Slot.raw = text := by
    simp [List.flatMap_map, Slot.raw]
  induction fragment using scan_induction with
  | nil => rfl
  | unread char rest unread induction =>
      rw [slots_unread unread, List.flatMap_cons, induction]
      rfl
  | read kind written raw rest spelled induction =>
      have whole : (Piece.marker raw (ofWritten? kind written)).slots.flatMap Slot.raw = raw := by
        cases ofWritten? kind written with
        | none => exact chars raw
        | some given => simp [Piece.slots, Slot.raw]
      rw [slots_read spelled, List.flatMap_append, whole, induction]

/-! ## What is read off the slots -/

theorem kept_markers (text : Text) : (text.map Slot.kept).filterMap Slot.marker? = [] := by
  simp [List.filterMap_map, Function.comp_def, Slot.marker?]

theorem found_from_markers (position : Nat) (parts : List Piece) :
    (foundFrom position parts).filterMap Found.marker =
      (parts.flatMap Piece.slots).filterMap Slot.marker? := by
  induction parts generalizing position with
  | nil => rfl
  | cons piece parts induction =>
      rw [List.flatMap_cons, List.filterMap_append]
      cases piece with
      | plain text => rw [foundFrom, Piece.slots, kept_markers, induction, List.nil_append]
      | marker raw marker =>
          cases marker with
          | none => rw [foundFrom, Piece.slots, kept_markers, List.filterMap_cons, induction]; rfl
          | some marker => rw [foundFrom, Piece.slots, List.filterMap_cons, induction]; rfl

theorem standing_eq (fragment : Text) :
    standing fragment = (slots fragment).filterMap Slot.marker? :=
  found_from_markers 0 (pieces fragment)

theorem found_from_legible (position : Nat) (parts : List Piece) :
    ((foundFrom position parts).all fun found => found.raw.isLegible) = parts.all Piece.isLegible := by
  induction parts generalizing position with
  | nil => rfl
  | cons piece parts induction =>
      cases piece with
      | plain text => exact induction _
      | marker raw given => rw [foundFrom, List.all_cons, List.all_cons, induction]; rfl

theorem scan_eq (fragment : Text) :
    scan fragment =
      if isReadable fragment then .ok (occurrences fragment) else .error .tooManyDigits := by
  rw [isReadable, ← found_from_legible 0]
  rfl

theorem scan_ok {fragment : Text} (readable : isReadable fragment = true) :
    scan fragment = .ok (occurrences fragment) := by
  rw [scan_eq, if_pos readable]

theorem scan_ok_iff {fragment : Text} {found : List Found} :
    scan fragment = .ok found ↔ isReadable fragment = true ∧ occurrences fragment = found := by
  rw [scan_eq]
  split_ifs with readable
  · rw [Except.ok.injEq]
    exact (and_iff_right readable).symm
  · exact iff_of_false nofun fun both => readable both.1

theorem markers_of_kept (char : Char) (given : List Slot) :
    (Slot.kept char :: given).filterMap Slot.marker? = given.filterMap Slot.marker? := rfl

theorem markers_of_view (raw : Text) (marker : Marker) (given : List Slot) :
    (Slot.view raw marker :: given).filterMap Slot.marker? =
      marker :: given.filterMap Slot.marker? := rfl

/-- Slots as a page, with a text for every marker. -/
def filled {ε : Type} (replacement : Marker → Except ε Text) : List Slot → Except ε Text
  | [] => .ok []
  | .kept char :: slots => do
      let rest ← filled replacement slots
      return char :: rest
  | .view _ marker :: slots => do
      let view ← replacement marker
      let rest ← filled replacement slots
      return view ++ rest

theorem filled_chars {ε : Type} (replacement : Marker → Except ε Text) (text : Text)
    (further : List Slot) :
    filled replacement (text.map .kept ++ further) = do
      let rest ← filled replacement further
      return text ++ rest := by
  induction text with
  | nil => cases outcome : filled replacement further <;> simp [outcome]
  | cons char text induction =>
      rw [List.map_cons, List.cons_append, filled, induction]
      cases filled replacement further <;> rfl

section Replaced

variable {ε : Type} (illegible : Text.Reference.Fault → ε) (replacement : Marker → Traced ε Text)
  {parts : List Piece}

theorem replaced_legible {raw : Text} (legible : raw.isLegible = true) (given : Option Marker) :
    (Page.replaced illegible replacement raw given).outcome =
      match given with
      | some marker => (replacement marker).outcome
      | none => .ok raw := by
  unfold Page.replaced
  rw [if_pos legible]
  cases given with
  | none => rfl
  | some marker => rfl

theorem replace_pieces_outcome (legible : parts.all Piece.isLegible = true) :
    (Page.replacePieces illegible replacement parts).outcome =
      filled (fun marker => (replacement marker).outcome) (parts.flatMap Piece.slots) := by
  induction parts with
  | nil => rfl
  | cons piece parts induction =>
      rw [List.all_cons, Bool.and_eq_true] at legible
      rw [List.flatMap_cons]
      have further := induction legible.2
      cases piece with
      | plain text =>
          rw [Page.replacePieces, Piece.slots, filled_chars, Traced.bind_outcome, further]
          rfl
      | marker raw given =>
          rw [Page.replacePieces, Traced.bind_outcome, replaced_legible illegible replacement legible.1]
          cases given with
          | none =>
              rw [Piece.slots, filled_chars, ← further]
              exact Traced.bind_outcome _ _
          | some marker =>
              rw [Piece.slots, List.singleton_append, filled]
              congr
              funext view
              rw [Traced.bind_outcome, further]
              rfl

/-- Pieces that are all replaced are all legible. -/
theorem legible_of_replaced
    (returns : Returns (Page.replacePieces illegible replacement parts).outcome) :
    parts.all Piece.isLegible = true := by
  induction parts with
  | nil => rfl
  | cons piece parts induction =>
      obtain ⟨page, outcome⟩ := returns
      rw [List.all_cons, Bool.and_eq_true]
      cases piece with
      | plain text =>
          obtain ⟨rest, further, -⟩ := Traced.ok_of_bind outcome
          exact ⟨rfl, induction ⟨rest, further⟩⟩
      | marker raw given =>
          obtain ⟨view, first, others⟩ := Traced.ok_of_bind outcome
          obtain ⟨rest, further, -⟩ := Traced.ok_of_bind others
          refine ⟨?_, induction ⟨rest, further⟩⟩
          rw [Piece.isLegible]
          by_contra overlong
          unfold Page.replaced at first
          rw [if_neg overlong] at first
          exact absurd first nofun

end Replaced

/-- A page has a result exactly if the text for every marker has one. -/
theorem filled_returns_iff {ε : Type} (replacement : Marker → Except ε Text) (given : List Slot) :
    Returns (filled replacement given) ↔
      ∀ marker ∈ given.filterMap Slot.marker?, Returns (replacement marker) := by
  induction given with
  | nil =>
      apply returns_ok_iff
      intro marker member
      exact absurd member List.not_mem_nil
  | cons slot given induction =>
      cases slot with
      | kept char =>
          rw [filled, returns_map_iff]
          exact induction
      | view raw marker =>
          rw [filled, markers_of_view, List.forall_mem_cons, ← induction, returns_bind_iff]
          constructor
          · rintro ⟨view, first, rest⟩
            exact ⟨⟨view, first⟩, (returns_map_iff _ _).mp rest⟩
          · rintro ⟨⟨view, first⟩, rest⟩
            exact ⟨view, first, (returns_map_iff _ _).mpr rest⟩

/-- The text in the place of a slot, given the views of the markers. -/
def Slot.shown (views : Marker → Text) : Slot → Text
  | .kept char => [char]
  | .view _ marker => views marker

theorem filled_of_views {ε : Type} (replacement : Marker → Except ε Text) (views : Marker → Text)
    {given : List Slot}
    (viewed : ∀ marker ∈ given.filterMap Slot.marker?, replacement marker = .ok (views marker)) :
    filled replacement given = .ok (given.flatMap (Slot.shown views)) := by
  induction given with
  | nil => rfl
  | cons slot given induction =>
      cases slot with
      | kept char =>
          rw [filled, induction viewed]
          rfl
      | view raw marker =>
          rw [markers_of_view, List.forall_mem_cons] at viewed
          rw [filled, viewed.1, induction viewed.2]
          rfl

/-- Without markers the page is the fragment. -/
theorem filled_unmarked {ε : Type} (replacement : Marker → Except ε Text) {given : List Slot}
    (unmarked : given.filterMap Slot.marker? = []) :
    filled replacement given = .ok (given.flatMap Slot.raw) := by
  induction given with
  | nil => rfl
  | cons slot given induction =>
      cases slot with
      | view raw marker => exact absurd unmarked (by simp [Slot.marker?])
      | kept char =>
          rw [filled, induction unmarked]
          rfl

/-- Slots whose markers are written as their writer writes them, cut before every marker. -/
theorem exists_sections (given : List Slot)
    (canonical : ∀ raw marker, .view raw marker ∈ given → raw = marker.toText) :
    ∃ (sections : List (Text × Marker)) (last : Text),
      given.flatMap Slot.raw =
        (sections.flatMap fun (before, marker) => before ++ marker.toText) ++ last ∧
      sections.map Prod.snd = given.filterMap Slot.marker? ∧
      ∀ {ε : Type} (replacement : Marker → Except ε Text), filled replacement given = do
        let views ← sections.mapM fun (before, marker) => (before ++ ·) <$> replacement marker
        return views.flatten ++ last := by
  induction given with
  | nil => exact ⟨[], [], rfl, rfl, fun replacement => rfl⟩
  | cons slot given induction =>
      obtain ⟨sections, last, text, markers, page⟩ :=
        induction fun raw marker member => canonical raw marker (List.mem_cons_of_mem _ member)
      cases slot with
      | kept char =>
          rw [markers_of_kept, ← markers, List.flatMap_cons, text]
          cases sections with
          | nil =>
              refine ⟨[], char :: last, rfl, rfl, ?_⟩
              intro ε replacement
              rw [filled, page replacement]
              rfl
          | cons first sections =>
              obtain ⟨before, marker⟩ := first
              refine ⟨(char :: before, marker) :: sections, last, rfl, rfl, ?_⟩
              intro ε replacement
              rw [filled, page replacement, List.mapM_cons, List.mapM_cons]
              dsimp only
              cases replacement marker with
              | error fault => rfl
              | ok view =>
                  cases sections.mapM fun (before, marker) => (before ++ ·) <$> replacement marker
                  · rfl
                  · rfl
      | view raw marker =>
          obtain rfl := canonical raw marker List.mem_cons_self
          rw [markers_of_view, ← markers, List.flatMap_cons, text]
          refine ⟨([], marker) :: sections, last, by simp [Slot.raw], rfl, ?_⟩
          intro ε replacement
          rw [filled, page replacement, List.mapM_cons]
          dsimp only
          cases replacement marker with
          | error fault => rfl
          | ok view =>
              cases sections.mapM fun (before, marker) => (before ++ ·) <$> replacement marker with
              | error fault => rfl
              | ok views => simp

end RichText.Marker

namespace RichText.Page

/-- The markers of a fragment can be read, and so can its headings, which are the given ones. -/
structure Readable (fragment : Text) (headings : List Heading) : Prop where
  markers : Marker.isReadable fragment = true
  headings : Heading.scan fragment = .ok headings

variable (config : Config) (store : Store) {fragment : Text}

/-- The page of a fragment is its slots, each marker with its view. -/
theorem expand_outcome {headings : List Heading} (readable : Readable fragment headings) :
    (expand config store fragment).outcome =
      Marker.filled (fun marker => (view config store headings marker).outcome)
        (Marker.slots fragment) := by
  rw [expand, readable.headings]
  exact Marker.replace_pieces_outcome _ _ readable.markers

theorem readable_of_expanded (returns : Returns (expand config store fragment).outcome) :
    ∃ headings, Readable fragment headings := by
  obtain ⟨page, outcome⟩ := returns
  obtain ⟨headings, found, replaced⟩ := Traced.ok_of_bind outcome
  cases scanned : Heading.scan fragment with
  | error fault =>
      rw [scanned] at found
      exact absurd found nofun
  | ok headings =>
      exact ⟨headings, Marker.legible_of_replaced _ _ ⟨page, replaced⟩, scanned⟩

end RichText.Page
