import Mathlib.Data.List.Basic
import RichText.Proofs.Text.Span

/-!
Parts and words of texts. A text falls apart at every separating character, and a word is a part of it
without such characters that goes from one of them, or from an end of the text, to the next. Texts that
are collected without repetition keep their first places.
-/

namespace RichText.Text

/-- A part of a text between two separating characters or ends of the text, without any inside. -/
def IsWord (separates : Char → Bool) (word text : Text) : Prop :=
  word ≠ [] ∧ (∀ char ∈ word, separates char = false) ∧
    ∃ before after, text = before ++ (word ++ after) ∧
      (∀ char ∈ before.getLast?, separates char = true) ∧
        ∀ char ∈ after.head?, separates char = true

section Words

variable {separates : Char → Bool} {stop : Char} {body rest text word : Text}

theorem pieces_eq (separates : Char → Bool) (text : Text) :
    pieces separates text = text.splitOnP separates := by
  induction text with
  | nil => rw [pieces, List.splitOnP_nil]
  | cons char text induction =>
      rw [pieces, List.splitOnP_cons_eq_if_modifyHead, induction]
      obtain ⟨piece, others, same⟩ := List.exists_cons_of_ne_nil (List.splitOnP_ne_nil separates text)
      rw [same]
      rfl

theorem pieces_at (ends : separates stop = true) :
    pieces separates (body ++ stop :: rest) = pieces separates body ++ pieces separates rest := by
  rw [pieces_eq, List.splitOnP_append_cons body rest ends, ← pieces_eq, ← pieces_eq]

theorem pieces_present (separates : Char → Bool) (text : Text) : pieces separates text ≠ [] := by
  rw [pieces_eq]
  exact List.splitOnP_ne_nil separates text

theorem join_pieces (stop : Char) (text : Text) : join [stop] (pieces (· = stop) text) = text := by
  rw [pieces_eq]
  exact List.intercalate_splitOn stop

theorem words_at (ends : separates stop = true) :
    words separates (body ++ stop :: rest) = words separates body ++ words separates rest := by
  rw [words, pieces_at ends, List.filter_append]
  rfl

theorem words_of_unseparated (inside : ∀ char ∈ body, separates char = false) :
    words separates body = [body].filter fun piece => !piece.isEmpty := by
  rw [words, pieces_eq, List.splitOnP_eq_singleton inside]

/-- Separating characters at the ends of a text belong to no word. -/
theorem words_padded {before after : Text} (opens : ∀ char ∈ before, separates char = true)
    (closes : ∀ char ∈ after, separates char = true) :
    words separates (before ++ body ++ after) = words separates body := by
  have front (run rest : Text) (ends : ∀ char ∈ run, separates char = true) :
      words separates (run ++ rest) = words separates rest := by
    induction run with
    | nil => rfl
    | cons stop run induction =>
        rw [List.forall_mem_cons] at ends
        have first : words separates (stop :: (run ++ rest)) = words separates (run ++ rest) :=
          @words_at separates stop [] (run ++ rest) ends.1
        rw [List.cons_append, first, induction ends.2]
  rw [List.append_assoc, front before _ opens]
  cases after with
  | nil => rw [List.append_nil]
  | cons stop after =>
      rw [List.forall_mem_cons] at closes
      have last : words separates after = [] := by
        have none := front after [] closes.2
        rwa [List.append_nil] at none
      rw [words_at closes.1, last, List.append_nil]

theorem words_congr {others : Char → Bool} (same : ∀ char ∈ text, separates char = others char) :
    words separates text = words others text := by
  have alike : pieces separates text = pieces others text := by
    induction text with
    | nil => rfl
    | cons char rest induction =>
        rw [List.forall_mem_cons] at same
        rw [pieces, pieces, same.1, induction same.2]
  rw [words, words, alike]

theorem word_mem_words (isWord : IsWord separates word text) : word ∈ words separates text := by
  obtain ⟨present, inside, before, after, rfl, opens, closes⟩ := isWord
  have alone : words separates word = [word] := by
    rw [words_of_unseparated inside]
    simp [present]
  have closed : word ∈ words separates (word ++ after) := by
    cases after with
    | nil => rw [List.append_nil, alone]; exact List.mem_singleton_self word
    | cons stop after =>
        rw [words_at (closes stop rfl), alone]
        exact List.mem_cons_self
  rcases List.eq_nil_or_concat before with rfl | ⟨front, stop, rfl⟩
  · exact closed
  · have ends : separates stop = true := opens stop (by simp)
    rw [List.concat_eq_append, List.append_assoc, List.singleton_append, words_at ends]
    exact List.mem_append_right _ closed

/-- A text has no separating character, or it is cut at the first one. -/
theorem separated_cases (separates : Char → Bool) (text : Text) :
    (∀ char ∈ text, separates char = false) ∨
      ∃ body stop rest, text = body ++ stop :: rest ∧ (∀ char ∈ body, separates char = false) ∧
        separates stop = true := by
  induction text with
  | nil => exact .inl (List.forall_mem_nil _)
  | cons char text induction =>
      by_cases ends : separates char = true
      · exact .inr ⟨[], char, text, rfl, List.forall_mem_nil _, ends⟩
      · have kept : separates char = false := by simpa using ends
        rcases induction with inside | ⟨body, stop, rest, rfl, inside, ends⟩
        · exact .inl (List.forall_mem_cons.mpr ⟨kept, inside⟩)
        · exact .inr ⟨char :: body, stop, rest, rfl, List.forall_mem_cons.mpr ⟨kept, inside⟩, ends⟩

theorem opens_behind {before : Text} (ends : separates stop = true)
    (opens : ∀ char ∈ before.getLast?, separates char = true) :
    ∀ char ∈ (body ++ stop :: before).getLast?, separates char = true := by
  intro char last
  rw [List.getLast?_append_of_ne_nil _ (List.cons_ne_nil _ _), List.getLast?_cons] at last
  obtain rfl := Option.some.inj last
  cases lastBefore : before.getLast? with
  | none => exact ends
  | some other => exact opens other lastBefore

theorem is_word_of_unseparated (inside : ∀ char ∈ body, separates char = false)
    (member : word ∈ words separates body) : word = body ∧ word ≠ [] := by
  rw [words_of_unseparated inside, List.mem_filter, List.mem_singleton] at member
  exact ⟨member.1, by simpa using member.2⟩

theorem word_of_mem_words (member : word ∈ words separates text) : IsWord separates word text := by
  -- The first separating character cuts the text; what remains is shorter.
  induction size : text.length using Nat.strong_induction_on generalizing text with
  | _ size induction =>
      subst size
      rcases separated_cases separates text with inside | ⟨body, stop, rest, rfl, inside, ends⟩
      · obtain ⟨rfl, present⟩ := is_word_of_unseparated inside member
        exact ⟨present, inside, [], [], by simp, nofun, nofun⟩
      · rw [words_at ends] at member
        rcases List.mem_append.mp member with inBody | later
        · obtain ⟨rfl, present⟩ := is_word_of_unseparated inside inBody
          refine ⟨present, inside, [], stop :: rest, rfl, nofun, ?_⟩
          rintro char ⟨rfl⟩
          exact ends
        · obtain ⟨present, unseparated, before, after, rfl, opens, closes⟩ :=
            induction rest.length (by simp; omega) later rfl
          exact ⟨present, unseparated, body ++ stop :: before, after, by simp,
            opens_behind ends opens, closes⟩

theorem mem_words_iff : word ∈ words separates text ↔ IsWord separates word text :=
  ⟨word_of_mem_words, word_mem_words⟩

instance (separates : Char → Bool) (word text : Text) : Decidable (IsWord separates word text) :=
  decidable_of_iff ((words separates text).contains word = true)
    (List.contains_iff_mem.trans mem_words_iff)

end Words

theorem has_part_iff (part text : Text) : hasPart part text = true ↔ part <:+: text := by
  induction text with
  | nil => rw [hasPart, List.isEmpty_iff, List.infix_nil]
  | cons char text induction =>
      rw [hasPart, Bool.or_eq_true, List.isPrefixOf_iff_prefix, induction, List.infix_cons_iff]

/-! ## Without repetition -/

section Repetition

variable {α : Type} [BEq α] [LawfulBEq α]

/-- Stores an item behind others, unless it is one of them. -/
def stored (seen : List α) (item : α) : List α := if item ∈ seen then seen else seen ++ [item]

/-- Items are stored at their first places, behind those that were stored before. -/
theorem stored_behind (seen items : List α) :
    items.foldl stored seen = seen ++ (items.removeAll seen).eraseDups := by
  induction items generalizing seen with
  | nil => simp
  | cons item items induction =>
      rw [List.foldl_cons, induction, stored]
      split_ifs with known
      · rw [List.cons_removeAll]
        simp [known]
      · have others : items.removeAll (seen ++ [item]) =
            (items.removeAll seen).filter fun other => !other == item := by
          rw [List.removeAll, List.removeAll, List.filter_filter]
          apply List.filter_congr
          intro other _
          simp only [List.elem_eq_contains, List.contains_append, List.contains_cons,
            List.contains_nil, Bool.or_false, Bool.not_or, Bool.and_comm]
        rw [List.cons_removeAll, others]
        simp [known, List.eraseDups_cons]

theorem stored_eq (items : List α) : items.foldl stored [] = items.eraseDups := by
  rw [stored_behind]
  simp [List.removeAll]

theorem stored_nodup {seen : List α} (items : List α) (different : seen.Nodup) :
    (items.foldl stored seen).Nodup := by
  induction items generalizing seen with
  | nil => exact different
  | cons item items induction =>
      rw [List.foldl_cons, stored]
      split_ifs with known
      · exact induction different
      · refine induction (List.nodup_append.mpr ⟨different, List.pairwise_singleton _ _, ?_⟩)
        rintro other member _ last rfl
        exact known (List.mem_singleton.mp last ▸ member)

theorem erase_dups_nodup (items : List α) : items.eraseDups.Nodup := by
  rw [← stored_eq]
  exact stored_nodup items List.nodup_nil

end Repetition

theorem distinct_eq (texts : List Text) : distinct texts = texts.eraseDups := stored_eq texts

theorem mem_distinct {text : Text} (texts : List Text) : text ∈ distinct texts ↔ text ∈ texts := by
  rw [distinct_eq, List.mem_eraseDups]

theorem distinct_nodup (texts : List Text) : (distinct texts).Nodup := by
  rw [distinct_eq]
  exact erase_dups_nodup texts

end RichText.Text
