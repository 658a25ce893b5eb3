import RichText.Proofs.Text.Ascii
import RichText.Proofs.Text.Case
import RichText.Proofs.Text.Pieces
import RichText.Proofs.Text.Slug

/-!
Slugs word by word. A slug is made of words over a to z and 0 to 9 with single hyphens between them, and
a text of that form is its own slug. The hyphens come about in two ways with the same result: runs of
separating characters are collapsed and hyphens at the ends taken off, or the text is trimmed and then its
runs are collapsed. The letters around a letter settle its small form for the capital sigma alone, and no
slug keeps a sigma; so it does not matter whether hyphens are dropped before or after lowering.
-/

namespace RichText.Text

/-! ## Words with hyphens between them -/

section SlugChars

variable {char : Char}

theorem slug_char_no_hyphen (slugChar : isSlugChar char = true) : char ≠ '-' := by
  rintro rfl
  exact absurd slugChar (by decide)

theorem slug_char_no_separator (slugChar : isSlugChar char = true) :
    isAnchorSeparator char = false := by
  obtain ⟨above, below⟩ := slug_char_code (.inr slugChar)
  have visible : isBlank char = false := visible_of_code above (by omega)
  rw [isAnchorSeparator, visible, decide_eq_false (slug_char_no_hyphen slugChar)]
  rfl

/-- Neither hyphens nor the characters of slugs are changed by lowering. -/
theorem slug_char_settled (slugChar : char = '-' ∨ isSlugChar char = true) : Settled char := by
  have table : ∀ code : Fin 128,
      Char.ofNat code = '-' ∨ isSlugChar (Char.ofNat code) = true → Settled (Char.ofNat code) := by
    unfold Settled
    decide +kernel
  obtain ⟨-, ascii⟩ := slug_char_code slugChar
  have settled := table ⟨char.toNat, ascii⟩
  rw [Char.ofNat_toNat] at settled
  exact settled slugChar

end SlugChars

/-- Parts without separating characters are the words of the text that they are joined to. -/
theorem words_join {separates : Char → Bool} {parts : List Text} (ends : separates '-' = true)
    (present : ∀ part ∈ parts, part ≠ [])
    (inside : ∀ part ∈ parts, ∀ char ∈ part, separates char = false) :
    words separates (join "-" parts) = parts := by
  induction parts with
  | nil => rfl
  | cons first others induction =>
      rw [List.forall_mem_cons] at present inside
      have alone : words separates first = [first] := by
        rw [words_of_unseparated inside.1]
        simp [present.1]
      have rest := induction present.2 inside.2
      cases others with
      | nil => rw [join_cons, List.flatMap_nil, List.append_nil, alone]
      | cons second others =>
          have hyphen : ("-".toList ++ join "-" (second :: others) : Text) =
              '-' :: join "-" (second :: others) := rfl
          rw [join_cons_cons, hyphen, words_at ends, alone, rest]
          rfl

namespace Hyphenated

variable {parts : List Text} {text : Text} (hyphenated : Hyphenated parts text)

include hyphenated

theorem words_eq : words isAnchorSeparator text = parts := by
  rw [hyphenated.joined]
  apply words_join (by decide) hyphenated.present
  intro part inside char member
  exact slug_char_no_separator (hyphenated.slug_char part inside char member)

theorem lower_eq : lower text = text :=
  lower_of_settled fun char member => slug_char_settled (hyphenated.mem_cases char member)

/-- A text of this form is its own slug. -/
theorem slug_eq : slug text = text := by
  have kept : text.filter (fun char => isSlugChar char || isAnchorSeparator char) = text := by
    rw [List.filter_eq_self]
    intro char member
    rcases hyphenated.mem_cases char member with rfl | slugChar
    · decide
    · rw [slugChar, Bool.true_or]
  rw [slug, slugOf, hyphenated.lower_eq, kept, hyphenated.words_eq, ← hyphenated.joined]

theorem pieces_eq (worded : parts ≠ []) : pieces (· = '-') text = parts := by
  rw [hyphenated.joined, Text.pieces_eq]
  apply List.splitOn_intercalate '-' _ worded
  intro part inside hyphen
  exact slug_char_no_hyphen (hyphenated.slug_char part inside '-' hyphen) rfl

/-- No hyphen stands at an end, and no two stand side by side: there would be an empty word. -/
theorem no_stray_hyphen :
    text.head? ≠ some '-' ∧ text.getLast? ≠ some '-' ∧ ¬"--".toList <:+: text := by
  have cut (before after : Text) (same : text = before ++ '-' :: after) :
      [] ∉ pieces (· = '-') before ++ pieces (· = '-') after := by
    have worded : parts ≠ [] := by
      rintro rfl
      rw [hyphenated.joined] at same
      exact absurd same (by simp [join])
    have ends : decide ('-' = '-') = true := rfl
    rw [← pieces_at ends, ← same, hyphenated.pieces_eq worded]
    intro empty
    exact hyphenated.present [] empty rfl
  refine ⟨?_, ?_, ?_⟩
  · intro first
    obtain ⟨rest, same⟩ := List.head?_eq_some_iff.mp first
    exact cut [] rest same (by simp [pieces])
  · intro last
    obtain ⟨front, same⟩ := List.getLast?_eq_some_iff.mp last
    exact cut front [] same (by simp [pieces])
  · rintro ⟨before, after, same⟩
    refine cut before ('-' :: after) ?_ (by simp [pieces])
    rw [← same, List.append_assoc]
    rfl

end Hyphenated

/-! ## Collapsing and trimming -/

/-- The text with a hyphen for each run of separating characters, but none for a run that has begun
before it. -/
def collapseFrom (separates : Char → Bool) (inRun : Bool) : Text → Text
  | [] => []
  | char :: rest =>
      if separates char then
        if inRun then collapseFrom separates true rest else '-' :: collapseFrom separates true rest
      else char :: collapseFrom separates false rest

/-- The text with a hyphen for each run of separating characters. -/
def collapse (separates : Char → Bool) (text : Text) : Text := collapseFrom separates false text

/-- The text without the hyphens at its ends. -/
def trimHyphens (text : Text) : Text := dropEndWhile (· = '-') (text.dropWhile (· = '-'))

section Collapsed

variable {separates : Char → Bool} {inRun : Bool} {char : Char} {body rest text : Text}

theorem collapse_body (inside : ∀ char ∈ body, separates char = false) (present : body ≠ []) :
    collapseFrom separates inRun (body ++ rest) = body ++ collapseFrom separates false rest := by
  induction body generalizing inRun with
  | nil => exact absurd rfl present
  | cons first body induction =>
      rw [List.forall_mem_cons] at inside
      rw [List.cons_append, collapseFrom, inside.1, if_neg Bool.false_ne_true]
      cases body with
      | nil => rfl
      | cons second body => rw [induction inside.2 (List.cons_ne_nil _ _)]; rfl

/-- A text without separating characters is collapsed to itself, and it is its only word. -/
theorem collapse_unseparated (inside : ∀ char ∈ text, separates char = false) :
    collapseFrom separates inRun text = text ∧ join "-" (words separates text) = text := by
  rw [words_of_unseparated inside]
  cases text with
  | nil => exact ⟨rfl, rfl⟩
  | cons char text =>
      have whole := @collapse_body separates inRun _ [] inside (List.cons_ne_nil char text)
      rw [List.append_nil, collapseFrom, List.append_nil] at whole
      exact ⟨whole, List.append_nil _⟩

/-- Behind a run, the words are joined by hyphens, and a hyphen may follow the last one. -/
theorem collapse_behind_run (separates : Char → Bool) (text : Text) :
    ∃ after, (∀ char ∈ after, char = '-') ∧
      collapseFrom separates true text = join "-" (words separates text) ++ after := by
  -- The first separating character cuts the text; what remains is shorter.
  induction size : text.length using Nat.strong_induction_on generalizing text with
  | _ size induction =>
      subst size
      rcases separated_cases separates text with inside | ⟨body, stop, rest, rfl, inside, ends⟩
      · obtain ⟨collapsed, joined⟩ := collapse_unseparated inside
        exact ⟨[], nofun, by rw [collapsed, joined, List.append_nil]⟩
      · obtain ⟨after, hyphens, same⟩ := induction rest.length (by simp; omega) rest rfl
        rw [words_at ends, words_of_unseparated inside]
        cases body with
        | nil =>
            refine ⟨after, hyphens, ?_⟩
            rw [List.nil_append, collapseFrom, if_pos ends, if_pos rfl, same]
            rfl
        | cons char body =>
            have cut : collapseFrom separates true (char :: body ++ stop :: rest) =
                char :: body ++ '-' :: (join "-" (words separates rest) ++ after) := by
              rw [collapse_body inside (List.cons_ne_nil _ _), collapseFrom, if_pos ends,
                if_neg Bool.false_ne_true, same]
            have alone : [char :: body].filter (fun piece => !piece.isEmpty) = [char :: body] := rfl
            rw [cut, alone, List.singleton_append]
            -- Without a further word, the hyphen of this run is the one that follows the last word.
            cases words separates rest with
            | nil =>
                refine ⟨'-' :: after, List.forall_mem_cons.mpr ⟨rfl, hyphens⟩, ?_⟩
                rw [join_cons, List.flatMap_nil, List.append_nil]
                rfl
            | cons word others =>
                refine ⟨after, hyphens, ?_⟩
                rw [join_cons_cons, List.append_assoc, List.append_assoc]
                rfl

theorem collapse_cases (separates : Char → Bool) (text : Text) :
    collapse separates text = collapseFrom separates true text ∨
      collapse separates text = '-' :: collapseFrom separates true text := by
  cases text with
  | nil => exact .inl rfl
  | cons char rest =>
      rw [collapse, collapseFrom, collapseFrom]
      by_cases ends : separates char = true
      · exact .inr (by simp [ends])
      · exact .inl (by simp [ends])

/-- Collapsing keeps what stands at an end, unless it is a separating character. -/
theorem collapse_last (kept : separates char = false) :
    collapseFrom separates inRun (text ++ [char]) = collapseFrom separates inRun text ++ [char] := by
  induction text generalizing inRun with
  | nil => simp [collapseFrom, kept]
  | cons first text induction =>
      rw [List.cons_append, collapseFrom, collapseFrom, induction, induction]
      split_ifs
      · rfl
      · rfl
      · rfl

/-- Collapsing a text of the right characters and trimming the hyphens off joins its words. -/
theorem trim_hyphens_collapse
    (hyphenated : Hyphenated (words separates text) (join "-" (words separates text))) :
    trimHyphens (collapse separates text) = join "-" (words separates text) := by
  obtain ⟨after, hyphens, same⟩ := collapse_behind_run separates text
  obtain ⟨noFirst, noLast, -⟩ := hyphenated.no_stray_hyphen
  have padded (before : Text) (opens : ∀ char ∈ before, char = '-') :
      trimHyphens (before ++ join "-" (words separates text) ++ after) =
        join "-" (words separates text) := by
    apply drop_ends_padded
    · simpa using opens
    · simpa using hyphens
    · intro char head
      rw [decide_eq_false_iff_not]
      rintro rfl
      exact noFirst head
    · intro char last
      rw [decide_eq_false_iff_not]
      rintro rfl
      exact noLast last
  rcases collapse_cases separates text with begun | opened
  · rw [begun, same]
    exact padded [] nofun
  · rw [opened, same]
    exact padded ['-'] (by simp)

/-- So does collapsing a text that is trimmed already. -/
theorem collapse_trimmed
    (hyphenated : Hyphenated (words separates text) (join "-" (words separates text)))
    (head : ∀ char, text.head? = some char → separates char = false ∧ char ≠ '-')
    (last : ∀ char, text.getLast? = some char → separates char = false ∧ char ≠ '-') :
    collapse separates text = join "-" (words separates text) := by
  rw [← trim_hyphens_collapse hyphenated]
  have padded := @drop_ends_padded (· = '-') (collapse separates text) [] [] nofun nofun
  rw [List.nil_append, List.append_nil] at padded
  refine (padded ?_ ?_).symm
  · intro char first
    cases text with
    | nil => exact absurd first nofun
    | cons start rest =>
        obtain ⟨kept, apart⟩ := head start rfl
        rw [collapse, collapseFrom, kept, if_neg Bool.false_ne_true] at first
        obtain rfl := Option.some.inj first
        exact decide_eq_false apart
  · intro char ending
    rcases List.eq_nil_or_concat text with rfl | ⟨front, final, rfl⟩
    · exact absurd ending nofun
    · obtain ⟨kept, apart⟩ := last final (by simp)
      rw [List.concat_eq_append, collapse, collapse_last kept, List.getLast?_concat] at ending
      obtain rfl := Option.some.inj ending
      exact decide_eq_false apart

end Collapsed

/-- An anchor is made by collapsing first and trimming afterwards, -/
theorem slug_collapsed (text : Text) :
    slug text = trimHyphens (collapse isAnchorSeparator (slugChars isAnchorSeparator text)) :=
  (trim_hyphens_collapse (slug_of_hyphenated isAnchorSeparator text)).symm

/-- and a key hint by trimming first and collapsing afterwards. -/
theorem hint_slug_collapsed (text : Text) :
    hintSlug text = collapse isBlank (trim (slugChars isBlank text)) := by
  obtain ⟨before, after, padded, opens, closes⟩ :=
    exists_dropped_ends isBlank (slugChars isBlank text)
  have same : words isBlank (trim (slugChars isBlank text)) =
      words isBlank (slugChars isBlank text) := by
    conv => rhs; rw [padded]
    exact (words_padded opens closes).symm
  have hyphenated := slug_of_hyphenated isBlank text
  have joined : hintSlug text = join "-" (words isBlank (trim (slugChars isBlank text))) := by
    rw [same]
    rfl
  -- Only characters of slugs and blanks are left, and the blanks at the ends are trimmed off.
  have apart {char : Char} (member : char ∈ trim (slugChars isBlank text))
      (visible : isBlank char = false) : isBlank char = false ∧ char ≠ '-' := by
    refine ⟨visible, ?_⟩
    have within := trim_infix (slugChars isBlank text)
    have kept := (List.mem_filter.mp (within.subset member)).2
    rw [visible, Bool.or_false] at kept
    exact slug_char_no_hyphen kept
  rw [joined, collapse_trimmed]
  · rw [same]
    exact hyphenated
  · intro char head
    exact apart (List.mem_of_mem_head? head) (trim_head head)
  · intro char last
    exact apart (List.mem_of_getLast? last) (trim_last last)

/-! ## Hyphens before and after lowering -/

section Lowered

variable {keeps : Char → Bool} {afterCased : Bool} {char stop : Char} {rest text : Text}

section Sigmas

variable (middle : keeps 'σ' = false) (final : keeps 'ς' = false)

include middle final

/-- Where sigmas are dropped, nothing that is kept of a letter depends on what stands around it. -/
theorem filter_lower_char :
    (lowerChar afterCased char rest).filter keeps = (lowerChar false char []).filter keeps := by
  unfold lowerChar
  by_cases isSigma : char = 'Σ'
  · have plain : ['σ'].filter keeps = [] := by simp [middle]
    have ending : ['ς'].filter keeps = [] := by simp [final]
    rw [if_pos isSigma, if_pos isSigma, Bool.false_and, if_neg Bool.false_ne_true]
    split_ifs
    · rw [plain, ending]
    · rfl
  · rw [if_neg isSigma, if_neg isSigma]

theorem filter_lower_from :
    (lowerFrom afterCased text).filter keeps =
      text.flatMap fun char => (lowerChar false char []).filter keeps := by
  induction text generalizing afterCased with
  | nil => rfl
  | cons char rest induction =>
      rw [lowerFrom, List.filter_append, filter_lower_char middle final, induction,
        List.flatMap_cons]

/-- A character that is dropped in the end can be dropped before lowering. -/
theorem filter_lower_without (alone : lowerChar false stop [] = [stop]) (dropped : keeps stop = false) :
    (lower (text.filter (· ≠ stop))).filter keeps = (lower text).filter keeps := by
  rw [lower, lower, filter_lower_from middle final, filter_lower_from middle final]
  induction text with
  | nil => rfl
  | cons char rest induction =>
      rw [List.flatMap_cons, ← induction]
      by_cases same : char = stop
      · have nothing : (lowerChar false char []).filter keeps = [] := by
          rw [same, alone, List.filter_cons_of_neg (by simp [dropped]), List.filter_nil]
        rw [List.filter_cons_of_neg (by simp [same]), nothing, List.nil_append]
      · rw [List.filter_cons_of_pos (by simp [same]), List.flatMap_cons]

end Sigmas

/-- Every run of the table leads beyond the hyphen. -/
theorem small_letter_no_hyphen (other : char ≠ '-') : smallLetter char ≠ '-' := by
  have beyond : smallRuns.all (fun run => Nat.blt 45 run.2.2.2) = true := by
    decide +kernel
  rcases small_letter_run char with same | ⟨first, last, step, target, member, -, -, small⟩
  · rwa [same]
  · have behind : 45 < target := Nat.blt_eq.mp (List.all_eq_true.mp beyond _ member)
    intro hyphen
    rw [hyphen] at small
    change 45 = char.toNat - first + target at small
    omega

theorem lower_from_no_hyphen (none : '-' ∉ text) : '-' ∉ lowerFrom afterCased text := by
  induction text generalizing afterCased with
  | nil => exact none
  | cons char rest induction =>
      rw [List.mem_cons, not_or] at none
      have first : '-' ∉ lowerChar afterCased char rest := by
        unfold lowerChar
        split_ifs
        · decide
        · decide
        · decide
        · rw [List.mem_singleton]
          exact (small_letter_no_hyphen (Ne.symm none.1)).symm
      rw [lowerFrom, List.mem_append, not_or]
      exact ⟨first, induction none.2⟩

end Lowered

/-- A key hint is the anchor of the text without its hyphens. -/
theorem hint_slug_eq (text : Text) : hintSlug text = slug (text.filter (· ≠ '-')) := by
  have noHyphen : '-' ∉ lower (text.filter (· ≠ '-')) := lower_from_no_hyphen (by simp)
  have alike : ∀ char ∈ lower (text.filter (· ≠ '-')), isAnchorSeparator char = isBlank char := by
    intro char member
    have other : char ≠ '-' := ne_of_mem_of_not_mem member noHyphen
    rw [isAnchorSeparator, decide_eq_false other, Bool.false_or]
  have chars : slugChars isAnchorSeparator (text.filter (· ≠ '-')) = slugChars isBlank text := by
    have kept : slugChars isAnchorSeparator (text.filter (· ≠ '-')) =
        slugChars isBlank (text.filter (· ≠ '-')) := by
      apply List.filter_congr
      intro char member
      rw [alike char member]
    rw [kept]
    exact filter_lower_without (by decide +kernel) (by decide +kernel) (by decide +kernel)
      (by decide +kernel)
  have separated : words isAnchorSeparator (slugChars isBlank text) =
      words isBlank (slugChars isBlank text) := by
    apply words_congr
    rw [← chars]
    intro char member
    exact alike char (List.mem_filter.mp member).1
  have joined : slug (text.filter (· ≠ '-')) =
      join "-" (words isAnchorSeparator (slugChars isAnchorSeparator (text.filter (· ≠ '-')))) := rfl
  rw [joined, chars, separated]
  rfl

/-- Anchors and key hints agree. An anchor is made by collapsing the runs of separating characters and
trimming the hyphens off, a key hint by trimming the blanks off and collapsing their runs; an anchor is
made of words with single hyphens between them, it is its own anchor, and a key hint is the anchor of the
text without its hyphens. -/
theorem slugs_consistent (text : Text) :
    (slug text = trimHyphens (collapse isAnchorSeparator (slugChars isAnchorSeparator text)) ∧
      hintSlug text = collapse isBlank (trim (slugChars isBlank text))) ∧
      (∃ parts, Hyphenated parts (slug text)) ∧
        slug (slug text) = slug text ∧
          hintSlug text = slug (text.filter (· ≠ '-')) ∧
            ('-' ∉ text → hintSlug text = slug text) := by
  have hyphenated := slug_of_hyphenated isAnchorSeparator text
  refine ⟨⟨slug_collapsed text, hint_slug_collapsed text⟩, ⟨_, hyphenated⟩, hyphenated.slug_eq,
    hint_slug_eq text, ?_⟩
  intro none
  have whole : text.filter (· ≠ '-') = text := by
    rw [List.filter_eq_self]
    intro char member
    simpa using ne_of_mem_of_not_mem member none
  rw [hint_slug_eq, whole]

/-- A heading with a final sigma, a dotted capital and a Kelvin sign; with hyphens in its place, the key
hint is another one than the anchor. -/
theorem street_slugs_consistent :
    let text : Text := " ΟΔΟΣ:  İzmir 5 K "
    let hyphenated : Text := "- ΟΔΟΣ-İzmir --5-K"
    '-' ∉ text ∧ hintSlug text = slug text ∧ slug text = "izmir-5-k".toList ∧
      slug hyphenated = "izmir-5-k".toList ∧ hintSlug hyphenated = "izmir-5k".toList := by
  intro text hyphenated
  have none : '-' ∉ text := by decide
  obtain ⟨-, -, -, -, agree⟩ := slugs_consistent text
  refine ⟨none, agree none, ?_⟩
  decide +kernel

end RichText.Text
