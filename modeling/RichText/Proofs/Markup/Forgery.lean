import Mathlib.Data.List.Forall2
import RichText.Proofs.Markup.Woven

/-!
Where forged markers come from. Nothing but attribute values and comments can open a marker that has an
id, and once it is open the markup between them only ever lands in the values of its attributes, where it
counts as present whatever it is. So two texts with the same tokens have forged markers or lack them
together: the text and the tags around the tokens decide nothing.

The two texts are read side by side. The readers stay at the same character of the same token, except
that each passes what stands between tokens as part of a value.
-/

namespace RichText.Markup

open Marker (Spelled SpelledAttributes bounds readWritten? standing)
open Text (escapeAttribute unescape trim isBlank)

/-! ## Places in tokens -/

/-- A comment from the blank after its opening on, without the angle bracket that ends it. -/
def commentBody (raw : Text) : Text :=
  Text.replace '>' "&gt;" (Text.singleHyphens raw) ++ " --"

/-- However much of a text is left, with an angle bracket after it the text is visible. -/
def Sealed (body : Text) : Prop :=
  ∀ before after rest, body = before ++ after → Shown (after ++ '>' :: rest)

/-- The rest of a token up to the character that ends it, with the text after the token. -/
inductive Ends : Char → Text → Text → Prop
  | value {body rest : Text} (inside : '"' ∉ body) (covers : Covers rest) : Ends '"' body rest
  | comment {body rest : Text} (inside : '>' ∉ body) (whole : Sealed body) : Ends '>' body rest

/-- How many characters of tokens a reader can still pass. -/
def weight : List Token → Nat
  | [] => 0
  | .value given :: tokens => (escapeAttribute given).length + 1 + weight tokens
  | .comment raw :: tokens => (commentBody raw).length + 1 + weight tokens
  | .marker _ :: tokens => weight tokens

/-- Two texts from the same place in the same token on, in front of the same further tokens. -/
inductive Beside : Nat → Text → Text → Prop
  | place {stop : Char} {body here there : Text} {tokens : List Token}
      (exposed : ∀ token ∈ tokens, token.marker? = none)
      (wovenHere : Woven tokens here) (wovenThere : Woven tokens there)
      (endsHere : Ends stop body here) (endsThere : Ends stop body there) :
      Beside (body.length + weight tokens) (body ++ stop :: here) (body ++ stop :: there)

theorem Beside.symm {size : Nat} {here there : Text} (beside : Beside size here there) :
    Beside size there here := by
  cases beside with
  | place exposed wovenHere wovenThere endsHere endsThere =>
      exact .place exposed wovenThere wovenHere endsThere endsHere

namespace Ends

variable {stop : Char} {body rest : Text}

theorem bound (ends : Ends stop body rest) : bounds stop = true ∧ stop ≠ '[' := by
  cases ends with
  | value inside covers => decide
  | comment inside whole => decide

theorem suffix {front : Text} (ends : Ends stop (front ++ body) rest) : Ends stop body rest := by
  cases ends with
  | value inside covers =>
      exact .value (fun member => inside (List.mem_append_right front member)) covers
  | comment inside whole =>
      refine .comment (fun member => inside (List.mem_append_right front member)) ?_
      intro before after rest same
      exact whole (front ++ before) after rest (by rw [same, List.append_assoc])

end Ends

/-- What a reader takes before the end of a token lies in the token. -/
theorem within {stop : Char} {front more body rest : Text} (outside : stop ∉ front)
    (same : front ++ more = body ++ stop :: rest) :
    ∃ tail, body = front ++ tail ∧ more = tail ++ stop :: rest := by
  rcases List.append_eq_append_iff.mp same with ⟨tail, inside, remains⟩ | ⟨tail, inside, remains⟩
  · exact ⟨tail, inside, remains⟩
  · cases tail with
    | nil => exact ⟨[], by simpa using inside.symm, by simpa using remains.symm⟩
    | cons first tail =>
        obtain rfl : stop = first := (List.cons.inj remains).1
        exact absurd (inside ▸ List.mem_append_right body List.mem_cons_self) outside

/-- A text is cut at its first quote in one way only. -/
theorem first_quote {before after gap rest : Text} (free : '"' ∉ before) (none : '"' ∉ gap)
    (same : before ++ '"' :: after = gap ++ '"' :: rest) : before = gap ∧ after = rest := by
  obtain ⟨tail, inside, remains⟩ := within free same
  cases tail with
  | nil =>
      rw [List.append_nil] at inside
      exact ⟨inside.symm, (List.cons.inj remains).2⟩
  | cons first tail =>
      obtain rfl : '"' = first := (List.cons.inj remains).1
      exact absurd (inside ▸ List.mem_append_right before List.mem_cons_self) none

/-! ## Comments -/

theorem comment_eq (raw rest : Text) :
    Text.comment raw ++ rest = "<!-- ".toList ++ (commentBody raw ++ '>' :: rest) := by
  have closing : " -->".toList = " --".toList ++ ['>'] := rfl
  unfold Text.comment commentBody
  simp only [closing, List.append_assoc, List.singleton_append]

theorem comment_body_inside (raw : Text) : '>' ∉ commentBody raw := by
  intro member
  rcases List.mem_append.mp member with written | closing
  · obtain ⟨char, _, written⟩ := List.mem_flatMap.mp written
    split at written
    · exact absurd written (by decide)
    · rename_i other
      exact other (List.mem_singleton.mp written).symm
  · exact absurd closing (by decide)

theorem comment_body_sealed (raw : Text) : Sealed (commentBody raw) := by
  have hyphen : isBlank '-' = false := by decide
  intro before after rest same
  rcases List.append_eq_append_iff.mp same with ⟨tail, -, remains⟩ | ⟨tail, -, remains⟩
  · -- The rest starts in the closing mark.
    have closing : " --".toList = [' ', '-', '-'] := rfl
    rw [closing] at remains
    rcases tail with _ | ⟨first, _ | ⟨second, _ | ⟨third, tail⟩⟩⟩
    · obtain rfl : after = [' ', '-', '-'] := remains.symm
      exact shown_of_mem hyphen (by
        rw [List.cons_append, Text.unescape_cons_plain (by decide), List.cons_append,
          Text.unescape_cons_plain (by decide)]
        simp)
    · obtain rfl : after = ['-', '-'] := (List.cons.inj remains).2.symm
      exact shown_cons hyphen (by decide) _
    · obtain rfl : after = ['-'] := (List.cons.inj (List.cons.inj remains).2).2.symm
      exact shown_cons hyphen (by decide) _
    · obtain ⟨-, -, -, -, rfl⟩ : ' ' = first ∧ '-' = second ∧ '-' = third ∧ tail = [] ∧ after = [] := by
        simpa using remains
      exact shown_cons (by decide) (by decide) _
  · obtain ⟨start, unescaped⟩ := Text.unescape_space tail ('-' :: '-' :: '>' :: rest)
    have regrouped : after ++ '>' :: rest = tail ++ ' ' :: '-' :: '-' :: '>' :: rest := by
      rw [remains, List.append_assoc]
      rfl
    rw [regrouped]
    apply shown_of_mem hyphen
    rw [unescaped, Text.unescape_cons_plain (by decide)]
    simp

/-! ## The next token -/

theorem standing_unread {char : Char} {rest : Text}
    (unread : readWritten? (char :: rest) = none) : standing (char :: rest) = standing rest := by
  rw [Marker.standing_eq, Marker.standing_eq, Marker.slots_unread unread]
  rfl

theorem standing_run {text : Text} (noBracket : '[' ∉ text) (rest : Text) :
    standing (text ++ rest) = standing rest := by
  rw [Marker.standing_eq, Marker.standing_eq, Marker.slots_run noBracket, List.filterMap_append,
    Marker.kept_markers, List.nil_append]

theorem standing_inert {char : Char} {rest : Text}
    (guarded : char = '[' → Marker.Guarded rest) : standing (char :: rest) = standing rest := by
  rw [Marker.standing_eq, Marker.standing_eq, slots_inert guarded]
  rfl

theorem woven_no_token {text : Text} (woven : Woven [] text) : '"' ∉ text ∧ standing text = [] := by
  generalize none : ([] : List Token) = tokens at woven
  induction woven with
  | none => exact ⟨List.not_mem_nil, rfl⟩
  | inert plain guarded further induction =>
      obtain ⟨free, empty⟩ := induction none
      rw [standing_inert guarded]
      exact ⟨by simp [free, Ne.symm plain], empty⟩
  | value given covers further induction => exact absurd none (by simp)
  | comment raw further induction => exact absurd none (by simp)
  | marker given further induction => exact absurd none (by simp)

theorem woven_next_value {given : Text} {tokens : List Token} {text : Text}
    (woven : Woven (.value given :: tokens) text) :
    ∃ gap rest, text = gap ++ '"' :: (escapeAttribute given ++ '"' :: rest) ∧ '"' ∉ gap ∧
      Covers rest ∧ Woven tokens rest ∧
      standing text = standing (escapeAttribute given ++ '"' :: rest) := by
  generalize next : Token.value given :: tokens = all at woven
  induction woven with
  | none => exact absurd next (by simp)
  | @inert char text tokens plain guarded further induction =>
      obtain ⟨gap, rest, rfl, free, covers, woven, same⟩ := induction next
      refine ⟨char :: gap, rest, rfl, by simp [free, Ne.symm plain], covers, woven, ?_⟩
      rw [standing_inert guarded, same]
  | value given covers further induction =>
      cases next
      refine ⟨[], _, rfl, List.not_mem_nil, covers, further, ?_⟩
      exact @standing_run ['"'] (by decide) _
  | comment raw further induction => exact absurd next (by simp)
  | marker given further induction => exact absurd next (by simp)

theorem woven_next_comment {raw : Text} {tokens : List Token} {text : Text}
    (woven : Woven (.comment raw :: tokens) text) :
    ∃ gap rest, text = gap ++ (commentBody raw ++ '>' :: rest) ∧ '"' ∉ gap ∧ Woven tokens rest ∧
      standing text = standing (commentBody raw ++ '>' :: rest) := by
  generalize next : Token.comment raw :: tokens = all at woven
  induction woven with
  | none => exact absurd next (by simp)
  | @inert char text tokens plain guarded further induction =>
      obtain ⟨gap, rest, rfl, free, woven, same⟩ := induction next
      refine ⟨char :: gap, rest, rfl, by simp [free, Ne.symm plain], woven, ?_⟩
      rw [standing_inert guarded, same]
  | value given covers further induction => exact absurd next (by simp)
  | comment raw further induction =>
      cases next
      refine ⟨"<!-- ", _, comment_eq _ _, by decide, further, ?_⟩
      rw [comment_eq]
      exact standing_run (by decide) _
  | marker given further induction => exact absurd next (by simp)

/-! ## Reading side by side -/

/-- A reader inside of a value stops at the next quote, which stands in the same token in both texts. -/
theorem woven_quote {tokens : List Token} {here there gap after : Text}
    (exposed : ∀ token ∈ tokens, token.marker? = none) (wovenHere : Woven tokens here)
    (wovenThere : Woven tokens there) (same : here = gap ++ '"' :: after) (free : '"' ∉ gap) :
    ∃ gapThere afterThere size, there = gapThere ++ '"' :: afterThere ∧ '"' ∉ gapThere ∧
      Beside size after afterThere ∧ size < weight tokens := by
  induction tokens generalizing here there gap with
  | nil =>
      have none := (woven_no_token wovenHere).1
      rw [same] at none
      simp at none
  | cons token tokens induction =>
      have further : ∀ token ∈ tokens, token.marker? = none :=
        fun token member => exposed token (List.mem_cons_of_mem _ member)
      cases token with
      | value given =>
          obtain ⟨between, rest, rfl, betweenFree, covers, woven, -⟩ := woven_next_value wovenHere
          obtain ⟨betweenThere, restThere, rfl, freeThere, coversThere, wovenThere, -⟩ :=
            woven_next_value wovenThere
          obtain ⟨rfl, rfl⟩ := first_quote betweenFree free same
          have inside := Marker.escape_attribute_no_quote given
          refine ⟨betweenThere, _, _, rfl, freeThere,
            .place further woven wovenThere (.value inside covers) (.value inside coversThere), ?_⟩
          rw [weight]
          omega
      | comment raw =>
          obtain ⟨between, rest, rfl, betweenFree, woven, -⟩ := woven_next_comment wovenHere
          obtain ⟨betweenThere, restThere, rfl, freeThere, wovenThere, -⟩ :=
            woven_next_comment wovenThere
          by_cases quote : '"' ∈ commentBody raw
          · obtain ⟨start, tail, split, startFree⟩ := List.eq_append_cons_of_mem quote
            have cut (between rest : Text) : between ++ (commentBody raw ++ '>' :: rest) =
                (between ++ start) ++ '"' :: (tail ++ '>' :: rest) := by
              rw [split]
              simp
            rw [cut] at same
            obtain ⟨-, rfl⟩ := first_quote (by simp [betweenFree, startFree]) free same
            have ends (rest : Text) : Ends '>' (start ++ ['"'] ++ tail) rest := by
              have body : start ++ ['"'] ++ tail = commentBody raw := by
                rw [split]
                simp
              rw [body]
              exact .comment (comment_body_inside raw) (comment_body_sealed raw)
            refine ⟨betweenThere ++ start, _, _, cut betweenThere restThere,
              by simp [freeThere, startFree],
              .place further woven wovenThere (ends rest).suffix (ends restThere).suffix, ?_⟩
            rw [weight, split, List.length_append, List.length_cons]
            omega
          · have passed (between rest : Text) : between ++ (commentBody raw ++ '>' :: rest) =
                (between ++ (commentBody raw ++ ['>'])) ++ rest := by simp
            rw [passed] at same
            obtain ⟨tail, rfl, remains⟩ := within (by simp [betweenFree, quote]) same
            have tailFree : '"' ∉ tail := fun member => free (List.mem_append_right _ member)
            obtain ⟨gapThere, afterThere, size, rfl, freeGap, beside, less⟩ :=
              induction further woven wovenThere remains tailFree
            refine ⟨betweenThere ++ (commentBody raw ++ ['>']) ++ gapThere, afterThere, size,
              by simp, by simp [freeThere, quote, freeGap], beside, ?_⟩
            rw [weight]
            omega
      | marker given =>
          have none := exposed (.marker given) List.mem_cons_self
          exact absurd none (by simp [Token.marker?])

/-- Attributes that count alike as the id of a marker. -/
def Alike (here there : Text × Text) : Prop :=
  here.1 = there.1 ∧ (here.2 = there.2 ∨ Shown here.2 ∧ Shown there.2)

/-- Once a reader has passed the name of an attribute and the quote after it, it stops at the same place
of both texts, with values that count alike. -/
theorem value_beside {size : Nat} {here there blanks name value more : Text}
    (beside : Beside size here there) (blank : ∀ char ∈ blanks, isBlank char = true)
    (named : Marker.isName name = true) (closed : '"' ∉ value)
    (same : here = blanks ++ (name ++ '=' :: '"' :: (value ++ '"' :: more))) :
    ∃ valueThere moreThere sizeMore,
      there = blanks ++ (name ++ '=' :: '"' :: (valueThere ++ '"' :: moreThere)) ∧
      '"' ∉ valueThere ∧ (value = valueThere ∨ Shown value ∧ Shown valueThere) ∧
      Beside sizeMore more moreThere ∧ sizeMore < size := by
  cases beside with
  | @place stop body rest restThere tokens exposed wovenHere wovenThere endsHere endsThere =>
      have outside := Marker.bound_not_mem_opening endsHere.bound.1 blank named
      have regrouped (value more : Text) :
          blanks ++ (name ++ '=' :: '"' :: (value ++ '"' :: more)) =
            (blanks ++ (name ++ ['='])) ++ '"' :: (value ++ '"' :: more) := by simp
      rw [regrouped] at same
      obtain ⟨tail, rfl, remains⟩ := within outside same.symm
      cases endsHere with
      | value inside covers =>
          -- The quote that opens the value of the marker is the one that ends the token.
          have opened : tail = [] := by
            cases tail with
            | nil => rfl
            | cons first tail =>
                obtain rfl : '"' = first := (List.cons.inj remains).1
                exact absurd (List.mem_append_right _ List.mem_cons_self) inside
          subst opened
          have rested : rest = value ++ '"' :: more := (List.cons.inj remains).2.symm
          obtain ⟨valueThere, moreThere, sizeMore, restedThere, free, beside, less⟩ :=
            woven_quote exposed wovenHere wovenThere rested closed
          cases endsThere with
          | value insideThere coversThere =>
              refine ⟨valueThere, moreThere, sizeMore, ?_, free, .inr ⟨?_, ?_⟩, beside, by omega⟩
              · rw [regrouped, List.append_nil, restedThere]
              · exact covers value more rested closed
              · exact coversThere valueThere moreThere restedThere free
      | comment inside whole =>
          obtain ⟨tail, rfl⟩ : ∃ after, tail = '"' :: after := by
            cases tail with
            | nil => exact absurd (List.cons.inj remains).1 (by decide)
            | cons first tail => exact ⟨tail, by rw [(List.cons.inj remains).1]⟩
          have remains : value ++ '"' :: more = tail ++ '>' :: rest := (List.cons.inj remains).2
          by_cases quote : '"' ∈ tail
          · -- The value lies in the comment as a whole.
            obtain ⟨start, after, rfl, startFree⟩ := List.eq_append_cons_of_mem quote
            have cut (rest : Text) : (start ++ '"' :: after) ++ '>' :: rest =
                start ++ '"' :: (after ++ '>' :: rest) := by simp
            rw [cut] at remains
            obtain ⟨rfl, rfl⟩ := first_quote closed startFree remains
            have split : blanks ++ (name ++ ['=']) ++ '"' :: (value ++ '"' :: after) =
                (blanks ++ (name ++ ['=']) ++ '"' :: (value ++ ['"'])) ++ after := by simp
            have besideAfter : Beside (after.length + weight tokens) (after ++ '>' :: rest)
                (after ++ '>' :: restThere) := by
              rw [split] at inside whole endsThere
              have endsHere : Ends '>' _ rest := .comment inside whole
              exact .place exposed wovenHere wovenThere endsHere.suffix endsThere.suffix
            refine ⟨value, after ++ '>' :: restThere, _, ?_, closed, .inl rfl, besideAfter, ?_⟩
            · rw [regrouped]
              simp
            · simp only [List.length_append, List.length_cons]
              omega
          · -- The value goes on beyond the comment.
            have regroupedTail (rest : Text) : tail ++ '>' :: rest = (tail ++ ['>']) ++ rest := by simp
            rw [regroupedTail] at remains
            obtain ⟨gap, rfl, rested⟩ := within (by simp [quote]) remains.symm
            have gapFree : '"' ∉ gap := fun member => closed (List.mem_append_right _ member)
            obtain ⟨gapThere, moreThere, sizeMore, restedThere, free, beside, less⟩ :=
              woven_quote exposed wovenHere wovenThere rested gapFree
            have shown (gap : Text) : Shown (tail ++ ['>'] ++ gap) := by
              rw [List.append_assoc, List.singleton_append]
              exact whole (blanks ++ (name ++ ['=']) ++ ['"']) tail gap (by simp)
            refine ⟨tail ++ ['>'] ++ gapThere, moreThere, sizeMore, ?_, ?_,
              .inr ⟨shown gap, shown gapThere⟩, beside, by omega⟩
            · rw [regrouped, restedThere]
              simp
            · simp [quote, free]

theorem attributes_beside {written : List (Text × Text)} {raw : Text}
    (spelled : SpelledAttributes written raw) {size : Nat} {here there blanks after : Text}
    (beside : Beside size here there) (blank : ∀ char ∈ blanks, isBlank char = true)
    (same : here = raw ++ (blanks ++ ']' :: after)) :
    ∃ writtenThere rawThere afterThere sizeAfter, SpelledAttributes writtenThere rawThere ∧
      there = rawThere ++ (blanks ++ ']' :: afterThere) ∧ List.Forall₂ Alike written writtenThere ∧
      Beside sizeAfter after afterThere ∧ sizeAfter < size := by
  induction spelled generalizing size here there with
  | none =>
      cases beside with
      | @place stop body rest restThere tokens exposed wovenHere wovenThere endsHere endsThere =>
          have outside : stop ∉ blanks ++ [']'] := by
            have inBlanks := Marker.bound_not_mem_blanks endsHere.bound.1 blank
            have other : stop ≠ ']' := by
              rintro rfl
              exact absurd endsHere.bound.1 (by decide)
            simp [inBlanks, other]
          have regrouped (after : Text) : [] ++ (blanks ++ ']' :: after) =
              (blanks ++ [']']) ++ after := by simp
          rw [regrouped] at same
          obtain ⟨tail, rfl, rfl⟩ := within outside same.symm
          refine ⟨[], [], tail ++ stop :: restThere, _, .none, ?_, .nil,
            .place exposed wovenHere wovenThere endsHere.suffix endsThere.suffix, ?_⟩
          · rw [regrouped, List.append_assoc]
          · simp only [List.length_append, List.length_cons]
            omega
  | @more gap name value written others present gapBlank named closed further induction =>
      have split (value others after : Text) :
          (gap ++ (name ++ '=' :: '"' :: (value ++ '"' :: others))) ++ (blanks ++ ']' :: after) =
            gap ++ (name ++ '=' :: '"' :: (value ++ '"' :: (others ++ (blanks ++ ']' :: after)))) := by
        simp
      rw [split] at same
      obtain ⟨valueThere, moreThere, sizeMore, rfl, closedThere, alike, besideMore, less⟩ :=
        value_beside beside gapBlank named closed same
      obtain ⟨writtenThere, rawThere, afterThere, sizeAfter, spelledThere, rfl, alikeAll, besideAfter,
        lessAfter⟩ := induction besideMore rfl
      refine ⟨(name, valueThere) :: writtenThere, _, afterThere, sizeAfter,
        .more present gapBlank named closedThere spelledThere, ?_, .cons ⟨rfl, alike⟩ alikeAll,
        besideAfter, by omega⟩
      exact (split valueThere rawThere afterThere).symm

theorem read_beside {size : Nat} {here there after : Text} {kind : Marker.Kind}
    {written : List (Text × Text)} (beside : Beside size here there)
    (read : readWritten? here = some (kind, written, after)) :
    ∃ writtenThere afterThere sizeAfter,
      readWritten? there = some (kind, writtenThere, afterThere) ∧
      List.Forall₂ Alike written writtenThere ∧ Beside sizeAfter after afterThere ∧
      sizeAfter < size := by
  obtain ⟨raw, spelled, same⟩ := Marker.read_written_sound read
  obtain ⟨mark, attributes, blanks, joined, parts, blank, rfl⟩ := Marker.spelled_parts spelled
  cases beside with
  | @place stop body rest restThere tokens exposed wovenHere wovenThere endsHere endsThere =>
      obtain ⟨bound, other⟩ := endsHere.bound
      have outside : stop ∉ '[' :: Marker.tagOf mark kind := by
        simp [other, Marker.bound_not_mem_tag bound joined kind]
      have regrouped (attributes after : Text) :
          '[' :: (Marker.tagOf mark kind ++ (attributes ++ (blanks ++ [']']))) ++ after =
            ('[' :: Marker.tagOf mark kind) ++ (attributes ++ (blanks ++ ']' :: after)) := by simp
      rw [regrouped] at same
      obtain ⟨tail, rfl, remains⟩ := within outside same.symm
      have besideTail : Beside (tail.length + weight tokens) (tail ++ stop :: rest)
          (tail ++ stop :: restThere) :=
        .place exposed wovenHere wovenThere endsHere.suffix endsThere.suffix
      obtain ⟨writtenThere, rawThere, afterThere, sizeAfter, spelledThere, split, alike, besideAfter,
        less⟩ := attributes_beside parts besideTail blank remains.symm
      refine ⟨writtenThere, afterThere, sizeAfter, ?_, alike, besideAfter, ?_⟩
      · have whole := Marker.spelled_of_parts kind joined spelledThere blank
        have complete := Marker.read_written_complete whole afterThere
        rw [regrouped, ← split] at complete
        rwa [List.append_assoc]
      · simp only [List.length_append, List.length_cons]
        omega

/-! ## Ids that count alike -/

/-- Attributes by name that are both blank or both present. -/
def SamePresence (here there : Text × Text) : Prop :=
  here.1 = there.1 ∧ (trim here.2 = [] ↔ trim there.2 = [])

theorem insert_presence {here there : List (Text × Text)} {name value valueThere : Text}
    (all : List.Forall₂ SamePresence here there) (one : trim value = [] ↔ trim valueThere = []) :
    List.Forall₂ SamePresence (Marker.insertAttribute here name value)
      (Marker.insertAttribute there name valueThere) := by
  induction all with
  | nil => exact .cons ⟨rfl, one⟩ .nil
  | @cons first firstThere here there same all induction =>
      obtain ⟨other, old⟩ := first
      obtain ⟨otherThere, oldThere⟩ := firstThere
      obtain ⟨rfl, presence⟩ := same
      rw [Marker.insertAttribute, Marker.insertAttribute]
      by_cases taken : other = name
      · rw [if_pos taken, if_pos taken]
        exact .cons ⟨rfl, one⟩ all
      · rw [if_neg taken, if_neg taken]
        exact .cons ⟨rfl, presence⟩ induction

theorem named_presence {written writtenThere : List (Text × Text)}
    (alike : List.Forall₂ Alike written writtenThere) :
    List.Forall₂ SamePresence (Marker.namedAttributes written)
      (Marker.namedAttributes writtenThere) := by
  unfold Marker.namedAttributes
  apply List.rel_foldl _ .nil alike
  rintro stored storedThere all ⟨name, value⟩ ⟨nameThere, valueThere⟩ ⟨rfl, equal⟩
  apply insert_presence all
  rcases equal with rfl | ⟨shown, shownThere⟩
  · exact Iff.rfl
  · exact iff_of_false shown shownThere

theorem value_presence {here there : List (Text × Text)} (name : Text)
    (all : List.Forall₂ SamePresence here there) :
    trim (Marker.valueOf name here) = [] ↔ trim (Marker.valueOf name there) = [] := by
  unfold Marker.valueOf
  induction all with
  | nil => exact Iff.rfl
  | @cons first firstThere here there same all induction =>
      obtain ⟨other, value⟩ := first
      obtain ⟨otherThere, valueThere⟩ := firstThere
      obtain ⟨rfl, presence⟩ := same
      rw [List.lookup_cons, List.lookup_cons]
      cases name == other with
      | true => exact presence
      | false => exact induction

theorem of_written_none_iff (kind : Marker.Kind) (written : List (Text × Text)) :
    Marker.ofWritten? kind written = none ↔
      trim (Marker.valueOf "id" (Marker.namedAttributes written)) = [] := by
  unfold Marker.ofWritten?
  simp only [List.isEmpty_iff]
  split_ifs with empty
  · exact iff_of_true rfl empty
  · exact iff_of_false (by simp) empty

theorem of_written_alike (kind : Marker.Kind) {written writtenThere : List (Text × Text)}
    (alike : List.Forall₂ Alike written writtenThere) :
    Marker.ofWritten? kind written = none ↔ Marker.ofWritten? kind writtenThere = none := by
  rw [of_written_none_iff, of_written_none_iff]
  exact value_presence _ (named_presence alike)

/-! ## Forged together -/

theorem standing_read {text after : Text} {kind : Marker.Kind} {written : List (Text × Text)}
    (read : readWritten? text = some (kind, written, after)) :
    standing text = (Marker.ofWritten? kind written).toList ++ standing after := by
  obtain ⟨raw, spelled, rfl⟩ := Marker.read_written_sound read
  rw [Marker.standing_eq, Marker.standing_eq, Marker.slots_read spelled, List.filterMap_append]
  cases Marker.ofWritten? kind written with
  | none => rw [Marker.Piece.slots, Marker.kept_markers]; rfl
  | some given => rfl

/-- Whether the next token leads to a forged marker is settled by what holds inside of tokens. -/
theorem standing_next {tokens : List Token} {here there : Text}
    (exposed : ∀ token ∈ tokens, token.marker? = none) (wovenHere : Woven tokens here)
    (wovenThere : Woven tokens there)
    (inside : ∀ size < weight tokens, ∀ here there, Beside size here there →
      (standing here = [] ↔ standing there = [])) :
    standing here = [] ↔ standing there = [] := by
  cases tokens with
  | nil => rw [(woven_no_token wovenHere).2, (woven_no_token wovenThere).2]
  | cons token tokens =>
      have further : ∀ token ∈ tokens, token.marker? = none :=
        fun token member => exposed token (List.mem_cons_of_mem _ member)
      cases token with
      | value given =>
          obtain ⟨_, rest, -, -, covers, woven, same⟩ := woven_next_value wovenHere
          obtain ⟨_, restThere, -, -, coversThere, wovenThere, sameThere⟩ :=
            woven_next_value wovenThere
          have quoteFree := Marker.escape_attribute_no_quote given
          rw [same, sameThere]
          exact inside _ (by rw [weight]; omega) _ _
            (.place further woven wovenThere (.value quoteFree covers) (.value quoteFree coversThere))
      | comment raw =>
          obtain ⟨_, rest, -, -, woven, same⟩ := woven_next_comment wovenHere
          obtain ⟨_, restThere, -, -, wovenThere, sameThere⟩ := woven_next_comment wovenThere
          have angleFree := comment_body_inside raw
          have whole := comment_body_sealed raw
          rw [same, sameThere]
          exact inside _ (by rw [weight]; omega) _ _
            (.place further woven wovenThere (.comment angleFree whole) (.comment angleFree whole))
      | marker given =>
          have none := exposed (.marker given) List.mem_cons_self
          exact absurd none (by simp [Token.marker?])

theorem standing_beside {size : Nat} {here there : Text} (beside : Beside size here there) :
    standing here = [] ↔ standing there = [] := by
  induction size using Nat.strong_induction_on generalizing here there with
  | _ size induction =>
      cases read : readWritten? here with
      | some reading =>
          obtain ⟨kind, written, after⟩ := reading
          obtain ⟨writtenThere, afterThere, sizeAfter, readThere, alike, besideAfter, less⟩ :=
            read_beside beside read
          have rest := induction sizeAfter less besideAfter
          have ids := of_written_alike kind alike
          rw [standing_read read, standing_read readThere, List.append_eq_nil_iff,
            List.append_eq_nil_iff, rest, Option.toList_eq_nil_iff, Option.toList_eq_nil_iff, ids]
      | none =>
          have readThere : readWritten? there = none := by
            cases readThere : readWritten? there with
            | none => rfl
            | some reading =>
                obtain ⟨kind, written, after⟩ := reading
                obtain ⟨_, _, _, readHere, _⟩ := read_beside beside.symm readThere
                rw [read] at readHere
                exact absurd readHere (by simp)
          cases beside with
          | @place stop body rest restThere tokens exposed wovenHere wovenThere endsHere endsThere =>
              cases body with
              | nil =>
                  rw [List.nil_append, standing_unread read, List.nil_append,
                    standing_unread readThere]
                  refine standing_next exposed wovenHere wovenThere ?_
                  intro smaller less here there beside
                  exact induction smaller (by simpa using less) beside
              | cons char body =>
                  rw [List.cons_append] at read readThere
                  rw [List.cons_append, List.cons_append, standing_unread read,
                    standing_unread readThere]
                  have shorter : body.length + weight tokens < (char :: body).length + weight tokens := by
                    rw [List.length_cons]
                    omega
                  have suffix {rest : Text} (ends : Ends stop (char :: body) rest) :
                      Ends stop body rest := @Ends.suffix stop body rest [char] ends
                  exact induction _ shorter
                    (.place exposed wovenHere wovenThere (suffix endsHere) (suffix endsThere))

/-- Texts with the same attribute values and comments hold forged markers together or not at all. -/
theorem standing_woven {tokens : List Token} {here there : Text}
    (exposed : ∀ token ∈ tokens, token.marker? = none) (wovenHere : Woven tokens here)
    (wovenThere : Woven tokens there) : standing here = [] ↔ standing there = [] :=
  standing_next exposed wovenHere wovenThere fun _ _ _ _ beside => standing_beside beside

end RichText.Markup
