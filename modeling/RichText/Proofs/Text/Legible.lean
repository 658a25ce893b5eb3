import Mathlib.Data.List.Infix
import RichText.Proofs.Text.Unescape
import RichText.Text.Tags

/-!
Texts whose references can be read. A writer leaves an ampersand only in front of a name or of a
hexadecimal number. So no decimal reference stands in what it writes, nor in any part of that, nor in
what is left of it without its tags; such texts can be read, however few digits are allowed.
-/

namespace RichText.Text

namespace Reference

/-- What follows an ampersand is a name or a hexadecimal number, or the text ends in front of it. -/
inductive Nondecimal : Text → Prop
  | nil : Nondecimal []
  | mark : Nondecimal ['#']
  | hexadecimal (rest : Text) : Nondecimal ('#' :: 'x' :: rest)
  | name {letter : Char} (isLetter : isAsciiLetter letter = true) (rest : Text) :
      Nondecimal (letter :: rest)

theorem Nondecimal.front {text rest : Text} (safe : Nondecimal (text ++ rest)) : Nondecimal text := by
  match text, safe with
  | [], _ => exact .nil
  | first :: text, safe =>
      rw [List.cons_append] at safe
      generalize behind : text ++ rest = more at safe
      cases safe with
      | mark =>
          obtain ⟨rfl, -⟩ := List.append_eq_nil_iff.mp behind
          exact .mark
      | hexadecimal more =>
          cases text with
          | nil => exact .mark
          | cons second text =>
              obtain rfl := (List.cons.inj behind).1
              exact .hexadecimal text
      | name isLetter => exact .name isLetter text

theorem Nondecimal.not_overlong {text : Text} (safe : Nondecimal text) : isOverlong text = false := by
  cases safe with
  | nil | mark | hexadecimal => rfl
  | @name letter isLetter rest =>
      unfold isOverlong
      split
      · rename_i same
        obtain rfl := (List.cons.inj same).1
        exact absurd isLetter (by decide)
      · rfl

end Reference

/-! ## Nondecimal texts -/

/-- No ampersand of a text can start a decimal reference. -/
def Nondecimal (text : Text) : Prop := ∀ after, '&' :: after <:+ text → Reference.Nondecimal after

theorem nondecimal_nil : Nondecimal [] := by
  intro after inside
  exact absurd (List.suffix_nil.mp inside) (List.cons_ne_nil _ _)

section Parts

variable {char : Char} {text rest : Text}

theorem nondecimal_cons (follows : char = '&' → Reference.Nondecimal rest) (safe : Nondecimal rest) :
    Nondecimal (char :: rest) := by
  intro after inside
  rcases List.suffix_cons_iff.mp inside with same | later
  · obtain ⟨rfl, rfl⟩ := List.cons.inj same
    exact follows rfl
  · exact safe after later

theorem nondecimal_behind (safe : Nondecimal (text ++ rest)) : Nondecimal rest :=
  fun after inside => safe after (inside.trans (List.suffix_append text rest))

theorem nondecimal_front (safe : Nondecimal (text ++ rest)) : Nondecimal text := by
  rintro after ⟨before, rfl⟩
  have follows := safe (after ++ rest) ⟨before, by simp⟩
  exact follows.front

theorem nondecimal_part {part : Text} (safe : Nondecimal text) (inside : part <:+: text) :
    Nondecimal part := by
  obtain ⟨before, after, rfl⟩ := inside
  exact nondecimal_behind (nondecimal_front safe)

theorem legible_cons_plain (plain : char ≠ '&') (rest : Text) :
    isLegible (char :: rest) = isLegible rest := by
  rw [isLegible]
  intro same
  exact absurd same plain

theorem legible_of_nondecimal (safe : Nondecimal text) : isLegible text = true := by
  induction text with
  | nil => rfl
  | cons char text induction =>
      have further := induction (@nondecimal_behind [char] text safe)
      by_cases ampersand : char = '&'
      · subst char
        have follows := safe text List.suffix_rfl
        rw [isLegible, follows.not_overlong, further]
        rfl
      · rw [legible_cons_plain ampersand, further]

theorem unescaped_of_nondecimal (safe : Nondecimal text) : unescaped text = .ok (unescape text) := by
  rw [unescaped, if_pos (legible_of_nondecimal safe)]

end Parts

/-! ## Texts with a known end -/

theorem legible_plain {text : Text} (free : '&' ∉ text) (rest : Text) :
    isLegible (text ++ rest) = isLegible rest := by
  induction text with
  | nil => rfl
  | cons char text induction =>
      have plain := List.ne_of_not_mem_cons free
      rw [List.cons_append, legible_cons_plain plain.symm]
      exact induction (List.not_mem_of_not_mem_cons free)

theorem Reference.overlong_quoted (text rest : Text) :
    isOverlong (text ++ '"' :: rest) = isOverlong text := by
  cases text with
  | nil => rfl
  | cons first text =>
      by_cases mark : first = '#'
      · subst first
        have ends : isAsciiDigit '"' = false := by decide
        have digits : (text ++ '"' :: rest).takeWhile isAsciiDigit = text.takeWhile isAsciiDigit := by
          rw [List.takeWhile_append, List.takeWhile_cons_of_neg (by simp [ends]), List.append_nil]
          split
          · rename_i whole
            exact ((List.takeWhile_prefix _).eq_of_length whole).symm
          · rfl
        rw [List.cons_append, isOverlong, isOverlong, digits]
      · have short (more : Text) : isOverlong (first :: more) = false := by
          unfold isOverlong
          split
          · rename_i same
            exact absurd (List.cons.inj same).1 mark
          · rfl
        rw [List.cons_append, short, short]

/-- No reference goes over a quote. -/
theorem legible_quoted (value rest : Text) :
    isLegible (value ++ '"' :: rest) = (isLegible value && isLegible rest) := by
  induction value with
  | nil => exact legible_cons_plain (by decide) rest
  | cons char value induction =>
      by_cases ampersand : char = '&'
      · subst char
        rw [List.cons_append, isLegible, isLegible, Reference.overlong_quoted, induction,
          Bool.and_assoc]
      · rw [List.cons_append, legible_cons_plain ampersand, legible_cons_plain ampersand, induction]

/-! ## What writers leave -/

/-- A text without decimal references, behind which none begins that it started. -/
def Finished (text : Text) : Prop := ∀ rest, Nondecimal rest → Nondecimal (text ++ rest)

theorem nondecimal_of_finished {text : Text} (finished : Finished text) : Nondecimal text := by
  have whole := finished [] nondecimal_nil
  rwa [List.append_nil] at whole

theorem finished_append {first second : Text} (before : Finished first) (after : Finished second) :
    Finished (first ++ second) := by
  intro rest safe
  rw [List.append_assoc]
  exact before _ (after rest safe)

theorem finished_plain {text : Text} (free : '&' ∉ text) : Finished text := by
  intro rest safe
  induction text with
  | nil => exact safe
  | cons char text induction =>
      apply nondecimal_cons ?_ (induction (List.not_mem_of_not_mem_cons free))
      rintro rfl
      exact absurd List.mem_cons_self free

theorem finished_reference {letter : Char} {name : Text} (isLetter : isAsciiLetter letter = true)
    (free : '&' ∉ letter :: name) : Finished ('&' :: letter :: name) := by
  intro rest safe
  exact nondecimal_cons (fun _ => .name isLetter _) (finished_plain free rest safe)

/-- Texts in a row are finished if each of them is. -/
theorem finished_each {α : Type} {written : α → Text} {items : List α}
    (each : ∀ item ∈ items, Finished (written item)) : Finished (items.flatMap written) := by
  induction items with
  | nil => exact finished_plain List.not_mem_nil
  | cons item items induction =>
      obtain ⟨first, others⟩ := List.forall_mem_cons.mp each
      rw [List.flatMap_cons]
      exact finished_append first (induction others)

theorem escape_attribute_char_finished (char : Char) : Finished (escapeAttributeChar char) := by
  unfold escapeAttributeChar
  split_ifs with ampersand quote apostrophe
  · exact finished_reference (by decide) (by decide)
  · exact finished_reference (by decide) (by decide)
  · intro rest safe
    have digits : Finished "#x27;" := finished_plain (by decide)
    exact nondecimal_cons (fun _ => .hexadecimal _) (digits rest safe)
  · exact finished_plain (by simpa using Ne.symm ampersand)

theorem escape_char_finished (char : Char) : Finished (escapeChar char) := by
  by_cases less : char = '<'
  · subst char
    exact finished_reference (by decide) (by decide)
  by_cases greater : char = '>'
  · subst char
    exact finished_reference (by decide) (by decide)
  have same : escapeChar char = escapeAttributeChar char := by
    simp only [escapeChar, escapeAttributeChar, if_neg less, if_neg greater]
  rw [same]
  exact escape_attribute_char_finished char

theorem escape_finished (text : Text) : Finished (escape text) :=
  finished_each fun char _ => escape_char_finished char

theorem escape_attribute_finished (text : Text) : Finished (escapeAttribute text) :=
  finished_each fun char _ => escape_attribute_char_finished char

/-! ## Without tags -/

theorem drop_tags_cons {char : Char} (other : char ≠ '<') (rest : Text) :
    dropTags (char :: rest) = char :: dropTags rest := by
  unfold dropTags
  rw [dropTagsFrom]
  exact other

/-- A tag that is open goes on to the next angle bracket, or it stays. -/
theorem drop_tags_opened (opened text : Text) :
    (∃ body rest, text = body ++ '>' :: rest ∧
        dropTagsFrom (some opened) text = dropTags rest) ∨
      dropTagsFrom (some opened) text = opened.reverse ++ text := by
  induction text generalizing opened with
  | nil => exact .inr (List.append_nil _).symm
  | cons char text induction =>
      by_cases closes : char = '>'
      · subst char
        exact .inl ⟨[], text, rfl, rfl⟩
      · have goesOn : dropTagsFrom (some opened) (char :: text) =
            dropTagsFrom (some (char :: opened)) text := by
          rw [dropTagsFrom]
          exact closes
        rw [goesOn]
        rcases induction (char :: opened) with ⟨body, rest, rfl, dropped⟩ | kept
        · exact .inl ⟨char :: body, rest, rfl, dropped⟩
        · exact .inr (by rw [kept]; simp)

theorem drop_tags_nondecimal {text : Text} (safe : Nondecimal text) : Nondecimal (dropTags text) := by
  induction size : text.length using Nat.strong_induction_on generalizing text with
  | _ size induction =>
      subst size
      match text with
      | [] => exact safe
      | char :: text =>
          have safeText := @nondecimal_behind [char] text safe
          by_cases opens : char = '<'
          · subst char
            have tag : dropTags ('<' :: text) = dropTagsFrom (some ['<']) text := rfl
            rw [tag]
            rcases drop_tags_opened ['<'] text with ⟨body, rest, rfl, dropped⟩ | kept
            · have safeRest := @nondecimal_behind ['>'] rest (nondecimal_behind safeText)
              rw [dropped]
              refine induction rest.length ?_ safeRest rfl
              simp only [List.length_cons, List.length_append]
              omega
            · rw [kept]
              exact safe
          · rw [drop_tags_cons opens]
            apply nondecimal_cons ?_ (induction text.length (by simp) safeText rfl)
            rintro rfl
            -- What follows an ampersand that is no part of a tag is none of a tag either.
            cases safe text List.suffix_rfl with
            | nil => exact .nil
            | mark => exact .mark
            | hexadecimal rest => exact .hexadecimal (dropTags rest)
            | @name letter isLetter rest =>
                have other : letter ≠ '<' := by
                  rintro rfl
                  exact absurd isLetter (by decide)
                rw [drop_tags_cons other]
                exact .name isLetter _

theorem of_markup_nondecimal {text : Text} (safe : Nondecimal text) :
    ofMarkup text = .ok (unescape (dropTags text)) :=
  unescaped_of_nondecimal (drop_tags_nondecimal safe)

end RichText.Text
