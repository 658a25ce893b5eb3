import RichText.Proofs.Marker.Cut
import RichText.Proofs.Page.Heading

/-!
A line feed behind a fragment. It ends no marker, no tag and no heading, so the scans find what they
find without it, and the page is the same with the line feed behind it.
-/

namespace RichText

/-- What ends with another character ends in front of a line feed at the end. -/
theorem Text.ends_before_feed {text front rest : Text} {last : Char} (other : last ≠ '\n')
    (same : text ++ ['\n'] = front ++ last :: rest) : ∃ before, text = front ++ last :: before := by
  rcases List.eq_nil_or_concat rest with rfl | ⟨before, feed, rfl⟩
  · exact absurd (List.cons.inj (List.append_inj_right' same rfl)).1.symm other
  · rw [List.concat_eq_append, ← List.cons_append, ← List.append_assoc] at same
    exact ⟨before, List.append_inj_left' same rfl⟩

namespace Marker

/-! ## Markers -/

/-- A marker ends with its bracket, so one that is read in front of a line feed is read without it. -/
theorem read_before_feed {text rest : Text} {kind : Kind} {written : List (Text × Text)}
    (read : readWritten? (text ++ ['\n']) = some (kind, written, rest)) :
    ∃ before, readWritten? text = some (kind, written, before) := by
  obtain ⟨raw, spelled, same⟩ := read_written_sound read
  obtain ⟨inner, rfl⟩ := spelled_bracketed spelled
  obtain ⟨before, rfl⟩ := Text.ends_before_feed (by decide)
    (show text ++ ['\n'] = ('[' :: inner) ++ ']' :: rest by simpa using same)
  refine ⟨before, ?_⟩
  simpa using read_written_complete spelled before

theorem unread_before_feed {text : Text} (unread : readWritten? text = none) :
    readWritten? (text ++ ['\n']) = none := by
  rw [Option.eq_none_iff_forall_ne_some]
  rintro ⟨kind, written, rest⟩ read
  obtain ⟨before, readBefore⟩ := read_before_feed read
  rw [unread] at readBefore
  exact absurd readBefore nofun

theorem found_cons_plain (position : Nat) (char : Char) (parts : List Piece) :
    foundFrom position (consPlain char parts) = foundFrom (position + 1) parts := by
  cases parts with
  | nil => rfl
  | cons piece parts =>
      cases piece with
      | plain text =>
          simp only [consPlain, foundFrom, List.length_cons]
          rw [Nat.add_assoc, Nat.add_comm 1]
      | marker raw marker => rfl

theorem found_before_feed (fragment : Text) (position : Nat) :
    foundFrom position (pieces (fragment ++ ['\n'])) = foundFrom position (pieces fragment) := by
  induction fragment using scan_induction generalizing position with
  | nil => rfl
  | unread char rest unread induction =>
      have further := unread_before_feed unread
      rw [List.cons_append] at further ⊢
      rw [pieces_unread further, pieces_unread unread, found_cons_plain, found_cons_plain, induction]
  | read kind written raw rest spelled induction =>
      rw [List.append_assoc, pieces_read spelled, pieces_read spelled, foundFrom, foundFrom, induction]

theorem scan_before_feed (fragment : Text) : scan (fragment ++ ['\n']) = scan fragment := by
  have found : occurrences (fragment ++ ['\n']) = occurrences fragment := found_before_feed fragment 0
  rw [scan, scan, found]

section Replaced

variable {ε : Type} (illegible : Text.Reference.Fault → ε) (replacement : Marker → Traced ε Text)

theorem replace_cons_plain (char : Char) (parts : List Piece) :
    Page.replacePieces illegible replacement (consPlain char parts) =
      (char :: ·) <$> Page.replacePieces illegible replacement parts := by
  cases parts with
  | nil => rfl
  | cons piece parts =>
      cases piece with
      | plain text =>
          simp only [consPlain, Page.replacePieces, List.cons_append, map_eq_pure_bind, bind_assoc,
            pure_bind]
      | marker raw marker =>
          rw [map_eq_pure_bind]
          rfl

theorem replace_before_feed (fragment : Text) :
    Page.replaceMarkers illegible replacement (fragment ++ ['\n']) =
      (· ++ ['\n']) <$> Page.replaceMarkers illegible replacement fragment := by
  unfold Page.replaceMarkers
  induction fragment using scan_induction with
  | nil => rfl
  | unread char rest unread induction =>
      have further := unread_before_feed unread
      rw [List.cons_append] at further ⊢
      rw [pieces_unread further, pieces_unread unread, replace_cons_plain, replace_cons_plain, induction]
      simp only [Functor.map_map, List.cons_append]
  | read kind written raw rest spelled induction =>
      rw [List.append_assoc, pieces_read spelled, pieces_read spelled, Page.replacePieces,
        Page.replacePieces, induction]
      simp only [map_eq_pure_bind, bind_assoc, pure_bind, List.append_assoc]

end Replaced

end Marker

namespace Page

/-! ## Headings -/

namespace Heading

theorem closes_iff {digit : Char} {text : Text} : closes digit text = true ↔
    ∃ letter rest, (letter = 'h' ∨ letter = 'H') ∧ text = ['<', '/', letter, digit] ++ '>' :: rest := by
  constructor
  · intro ends
    unfold closes at ends
    split at ends
    · rename_i letter level rest
      simp only [Bool.and_eq_true, Bool.or_eq_true, decide_eq_true_eq] at ends
      exact ⟨letter, rest, ends.1, by rw [ends.2]; rfl⟩
    · exact absurd ends nofun
  · rintro ⟨letter, rest, isLetter, rfl⟩
    simpa [closes] using isLetter

theorem closes_before_feed (digit : Char) (text : Text) :
    closes digit (text ++ ['\n']) = closes digit text := by
  rw [Bool.eq_iff_iff, closes_iff, closes_iff]
  constructor
  · rintro ⟨letter, rest, isLetter, same⟩
    obtain ⟨before, front⟩ := Text.ends_before_feed (by decide) same
    exact ⟨letter, before, isLetter, front⟩
  · rintro ⟨letter, rest, isLetter, rfl⟩
    exact ⟨letter, rest ++ ['\n'], isLetter, by simp⟩

theorem inner_before_feed (digit : Char) (text : Text) :
    inner? digit (text ++ ['\n']) = inner? digit text := by
  induction text with
  | nil => simp [inner?, closes]
  | cons char rest induction =>
      have ends := closes_before_feed digit (char :: rest)
      rw [List.cons_append] at ends ⊢
      rw [inner?, inner?, ends, induction]

/-- The tag of a heading and what it contains end before a line feed. -/
theorem read_opened_before_feed (letter digit : Char) (rest : Text) :
    read? ('<' :: letter :: digit :: (rest ++ ['\n'])) = read? ('<' :: letter :: digit :: rest) := by
  have word : ((rest ++ ['\n']).head?.map Text.isWord).getD false =
      (rest.head?.map Text.isWord).getD false := by
    cases rest with
    | nil => decide
    | cons char rest => rfl
  have split := List.takeWhile_append_dropWhile (p := fun char => decide (char ≠ '>')) (l := rest)
  have inside : ∀ char ∈ rest.takeWhile (· ≠ '>'), decide (char ≠ '>') = true :=
    fun _ member => List.mem_takeWhile_imp (p := fun char => decide (char ≠ '>')) member
  simp only [read?, word]
  cases behind : rest.dropWhile (· ≠ '>') with
  | nil =>
      have unclosed : (rest ++ ['\n']).dropWhile (· ≠ '>') = [] := by
        rw [List.dropWhile_append, behind]
        rfl
      simp only [unclosed]
  | cons stop content =>
      have ends : decide (stop ≠ '>') = false := Text.rest_not_kept behind
      rw [behind] at split
      have whole : rest ++ ['\n'] = rest.takeWhile (· ≠ '>') ++ stop :: (content ++ ['\n']) := by
        rw [← List.cons_append, ← List.append_assoc, split]
      rw [whole, Text.drop_run inside ends, Text.take_run inside ends]
      simp only [inner_before_feed]

theorem read_before_feed (text : Text) : read? (text ++ ['\n']) = read? text := by
  match text with
  | [] => rfl
  | first :: rest =>
      by_cases opens : first = '<'
      · subst opens
        match rest with
        | [] => rfl
        | [letter] => simp [read?]
        | letter :: digit :: rest => exact read_opened_before_feed letter digit rest
      · rw [List.cons_append, read_of_other opens, read_of_other opens]

theorem scan_after_before_feed (passed : Nat) (text : Text) :
    scanAfter passed (text ++ ['\n']) = scanAfter passed text := by
  induction text generalizing passed with
  | nil => cases passed <;> rfl
  | cons char rest induction =>
      cases passed with
      | succ passed => exact induction passed
      | zero =>
          have read := read_before_feed (char :: rest)
          rw [List.cons_append] at read ⊢
          rw [scanAfter, scanAfter, read]
          cases read? (char :: rest) with
          | none => exact induction 0
          | some parts =>
              obtain ⟨level, attributes, inner, size⟩ := parts
              simp only [induction]

theorem scan_before_feed (fragment : Text) : scan (fragment ++ ['\n']) = scan fragment :=
  scan_after_before_feed 0 fragment

end Heading

/-! ## Pages -/

theorem expand_before_feed (config : Config) (store : Store) (fragment : Text) :
    expand config store (fragment ++ ['\n']) = (· ++ ['\n']) <$> expand config store fragment := by
  simp only [expand, Heading.scan_before_feed, Marker.replace_before_feed, map_bind]

end Page

end RichText
