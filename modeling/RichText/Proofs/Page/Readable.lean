import RichText.Proofs.Marker.Scan

/-!
Fragments that the display stage can read. It reads values of markers, what stands in headings, and their
anchors. Where no decimal reference stands in a fragment, none stands in any of these.
-/

namespace RichText.Page

open Text (Nondecimal)

namespace Heading

/-! ## Parts of a heading -/

theorem inner_front {digit : Char} {text inner : Text} (found : inner? digit text = some inner) :
    inner <+: text := by
  induction text generalizing inner with
  | nil => exact absurd found nofun
  | cons char text induction =>
      rw [inner?] at found
      split_ifs at found with ends
      · obtain rfl := Option.some.inj found
        exact List.nil_prefix
      · obtain ⟨more, goesOn, rfl⟩ := Option.map_eq_some_iff.mp found
        exact List.cons_prefix_cons.mpr ⟨rfl, induction goesOn⟩

/-- The attributes and the content of a heading are parts of the text that it is read from. -/
theorem read_parts {text attributes inner : Text} {level size : Nat}
    (read : read? text = some (level, attributes, inner, size)) :
    attributes <:+: text ∧ inner <:+: text := by
  unfold read? at read
  split at read
  · rename_i letter digit rest
    simp only at read
    split_ifs at read with opens
    split at read
    · exact absurd read nofun
    · rename_i mark content remains
      obtain ⟨found, content', same⟩ := Option.map_eq_some_iff.mp read
      simp only [Prod.mk.injEq] at same
      obtain ⟨-, rfl, rfl, -⟩ := same
      have behind : rest <:+ '<' :: letter :: digit :: rest :=
        List.suffix_append ['<', letter, digit] rest
      have after : mark :: content <:+ rest := remains ▸ List.dropWhile_suffix _
      have contentBehind : content <:+ '<' :: letter :: digit :: rest :=
        ((List.suffix_cons mark content).trans after).trans behind
      constructor
      · exact (List.takeWhile_prefix _).isInfix.trans behind.isInfix
      · exact (inner_front content').isInfix.trans contentBehind.isInfix
  · exact absurd read nofun

theorem id_part {afterWord : Bool} {attributes id : Text}
    (found : idIn? afterWord attributes = some id) : id <:+: attributes := by
  induction attributes generalizing afterWord with
  | nil => exact absurd found nofun
  | cons char rest induction =>
      have further (found : idIn? (Text.isWord char) rest = some id) : id <:+: char :: rest :=
        (induction found).trans (List.suffix_cons char rest).isInfix
      unfold idIn? at found
      split at found
      · rename_i quoted
        have behind : quoted <:+ 'i' :: 'd' :: '=' :: '"' :: quoted :=
          List.suffix_append ['i', 'd', '=', '"'] quoted
        by_cases named : (!afterWord && quoted.contains '"') = true
        · rw [if_pos named] at found
          obtain rfl := Option.some.inj found
          exact (List.takeWhile_prefix _).isInfix.trans behind.isInfix
        · rw [if_neg named] at found
          exact further found
      · exact further found

/-! ## Headings that can be read -/

theorem of_parts_returns (level : Nat) {attributes inner : Text} (safe : Nondecimal attributes)
    (safeInside : Nondecimal inner) : Returns (ofParts level attributes inner) := by
  have anchored (text : Text) : Returns (anchorOf attributes text) := by
    unfold anchorOf
    split
    · rename_i id found
      rw [Text.unescaped_of_nondecimal (Text.nondecimal_part safe (id_part found))]
      exact returns_ok _
    · exact returns_ok _
  rw [ofParts, Text.of_markup_nondecimal safeInside]
  exact (returns_map_iff _ _).mpr (anchored _)

theorem scan_after_returns (passed : Nat) {text : Text} (safe : Nondecimal text) :
    Returns (scanAfter passed text) := by
  induction text generalizing passed with
  | nil => cases passed <;> exact returns_ok _
  | cons char text induction =>
      have further (passed : Nat) := induction passed (@Text.nondecimal_behind [char] text safe)
      cases passed with
      | succ passed => exact further passed
      | zero =>
          rw [scanAfter]
          cases read : read? (char :: text) with
          | none => exact further 0
          | some parts =>
              obtain ⟨level, attributes, inner, size⟩ := parts
              obtain ⟨inTag, inside⟩ := read_parts read
              obtain ⟨heading, made⟩ := of_parts_returns level (Text.nondecimal_part safe inTag)
                (Text.nondecimal_part safe inside)
              simp only [made]
              exact (returns_map_iff _ _).mpr (further (size - 1))

end Heading

theorem readable_of_nondecimal {fragment : Text} (safe : Nondecimal fragment) :
    ∃ headings, Readable fragment headings := by
  obtain ⟨headings, scanned⟩ := Heading.scan_after_returns 0 safe
  exact ⟨headings, Marker.readable_of_nondecimal safe, scanned⟩

end RichText.Page
