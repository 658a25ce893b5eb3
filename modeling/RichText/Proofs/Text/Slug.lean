import RichText.Proofs.Text.Join
import RichText.Proofs.Text.Span
import RichText.Text.Slug

/-!
The characters of slugs and of written numbers: small letters, digits and hyphens. A slug is made of words
over a to z and 0 to 9 with single hyphens between them, and none of its characters is a blank or a bracket.
-/

namespace RichText.Text

theorem mem_pieces {separates : Char → Bool} {text piece : Text} {char : Char}
    (inside : piece ∈ pieces separates text) (member : char ∈ piece) :
    char ∈ text ∧ separates char = false := by
  induction text generalizing piece with
  | nil =>
      obtain rfl : piece = [] := by simpa [pieces] using inside
      exact absurd member List.not_mem_nil
  | cons first text induction =>
      rw [pieces] at inside
      split at inside
      · rcases List.mem_cons.mp inside with rfl | inside
        · exact absurd member List.not_mem_nil
        · obtain ⟨inText, kept⟩ := induction inside member
          exact ⟨List.mem_cons_of_mem _ inText, kept⟩
      · rename_i keeps
        have firstKept : separates first = false := by simpa using keeps
        split at inside
        · obtain rfl : piece = [first] := by simpa using inside
          obtain rfl := List.mem_singleton.mp member
          exact ⟨List.mem_cons_self, firstKept⟩
        · rename_i head others same
          rcases List.mem_cons.mp inside with rfl | inside
          · rcases List.mem_cons.mp member with rfl | member
            · exact ⟨List.mem_cons_self, firstKept⟩
            · obtain ⟨inText, kept⟩ := induction (same ▸ List.mem_cons_self) member
              exact ⟨List.mem_cons_of_mem _ inText, kept⟩
          · obtain ⟨inText, kept⟩ := induction (same ▸ List.mem_cons_of_mem _ inside) member
            exact ⟨List.mem_cons_of_mem _ inText, kept⟩

/-! ## Words with hyphens between them -/

theorem is_slug_char_iff {char : Char} :
    isSlugChar char = true ↔ 'a' ≤ char ∧ char ≤ 'z' ∨ '0' ≤ char ∧ char ≤ '9' := by
  simp only [isSlugChar, isAsciiDigit, Bool.or_eq_true, Bool.and_eq_true, decide_eq_true_eq]

theorem slug_char_code {char : Char} (slugChar : char = '-' ∨ isSlugChar char = true) :
    33 ≤ char.toNat ∧ char.toNat < 128 := by
  rcases slugChar with rfl | slugChar
  · decide
  · simp only [is_slug_char_iff, Char.le_def, UInt32.le_iff_toNat_le] at slugChar
    rcases slugChar with small | digit
    · change 97 ≤ char.toNat ∧ char.toNat ≤ 122 at small
      omega
    · change 48 ≤ char.toNat ∧ char.toNat ≤ 57 at digit
      omega

/-- Words over a to z and 0 to 9 with single hyphens between them. -/
structure Hyphenated (parts : List Text) (text : Text) : Prop where
  joined : text = join "-" parts
  present : ∀ part ∈ parts, part ≠ []
  plain : ∀ part ∈ parts, ∀ char ∈ part,
    'a' ≤ char ∧ char ≤ 'z' ∨ '0' ≤ char ∧ char ≤ '9'

namespace Hyphenated

variable {parts : List Text} {text : Text} (hyphenated : Hyphenated parts text)

include hyphenated

theorem slug_char : ∀ part ∈ parts, ∀ char ∈ part, isSlugChar char = true :=
  fun part inside char member => is_slug_char_iff.mpr (hyphenated.plain part inside char member)

theorem mem_cases : ∀ char ∈ text, char = '-' ∨ isSlugChar char = true := by
  intro char member
  rw [hyphenated.joined] at member
  rcases mem_join member with hyphen | ⟨part, inside, member⟩
  · exact .inl (List.mem_singleton.mp hyphen)
  · exact .inr (hyphenated.slug_char part inside char member)

theorem not_blank : ∀ char ∈ text, isBlank char = false := by
  intro char member
  obtain ⟨above, below⟩ := slug_char_code (hyphenated.mem_cases char member)
  exact visible_of_code above (by omega)

end Hyphenated

/-! ## Slugs -/

section Slugs

variable (separates : Char → Bool) (text : Text)

/-- The characters that a slug is made from. -/
def slugChars : Text := (lower text).filter fun char => isSlugChar char || separates char

theorem slug_of_hyphenated :
    Hyphenated (words separates (slugChars separates text)) (slugOf separates text) where
  joined := rfl
  present := fun part inside => by simpa using (List.mem_filter.mp inside).2
  plain := by
    intro part inside char member
    obtain ⟨inText, unseparated⟩ := mem_pieces (List.mem_filter.mp inside).1 member
    have kept := (List.mem_filter.mp inText).2
    rw [unseparated, Bool.or_false] at kept
    exact is_slug_char_iff.mp kept

theorem trim_slug : trim (slugOf separates text) = slugOf separates text :=
  trim_of_no_blank (slug_of_hyphenated separates text).not_blank

end Slugs

theorem slug_free {char : Char} (notHyphen : char ≠ '-') (notSlug : isSlugChar char = false)
    (separates : Char → Bool) (text : Text) : char ∉ slugOf separates text := by
  intro member
  rcases (slug_of_hyphenated separates text).mem_cases char member with hyphen | slugChar
  · exact notHyphen hyphen
  · exact absurd (notSlug.symm.trans slugChar) nofun

theorem slug_no_bracket (separates : Char → Bool) (text : Text) : '[' ∉ slugOf separates text :=
  slug_free (by decide) (by decide) separates text

/-! ## Written numbers -/

theorem of_int_free {char : Char} (notHyphen : char ≠ '-') (notDigit : char.isDigit = false)
    (number : Int) : char ∉ ofInt number := by
  have digits (number : Nat) : char ∉ ofNat number := by
    intro member
    have digit := Nat.isDigit_of_mem_toDigits (by decide) (by decide) member
    exact absurd (notDigit.symm.trans digit) nofun
  cases number with
  | ofNat number => exact digits number
  | negSucc number => simp [ofInt, digits, notHyphen]

theorem of_int_no_bracket (number : Int) : '[' ∉ ofInt number := of_int_free (by decide) rfl number

end RichText.Text
