import RichText.Marker.Reader
import RichText.Proofs.Text.Span

/-!
The written forms of markers, and the reader against them. A marker is the word of its kind between
brackets with attributes before the closing one; every attribute has blanks in front, a name, and a
value between quotes that holds no quote itself. The reader accepts these forms and nothing else, and
takes as much of a text as belongs to the form.
-/

namespace RichText.Marker

open Text (isBlank take_run drop_run rest_not_kept)

/-- Whether a text can name an attribute. -/
def isName : Text → Bool
  | [] => false
  | first :: rest => isNameStart first && rest.all isNamePart

/-- The attributes that a text spells, with the values as they are written. -/
inductive SpelledAttributes : List (Text × Text) → Text → Prop
  | none : SpelledAttributes [] []
  | more {blanks name value : Text} {written : List (Text × Text)} {others : Text}
      (gap : blanks ≠ []) (blank : ∀ char ∈ blanks, isBlank char = true)
      (named : isName name = true) (closed : '"' ∉ value)
      (further : SpelledAttributes written others) :
      SpelledAttributes ((name, value) :: written)
        (blanks ++ (name ++ '=' :: '"' :: (value ++ '"' :: others)))

/-- The markers of a kind and with attributes as they are written. -/
inductive Spelled (kind : Kind) (written : List (Text × Text)) : Text → Prop
  | marker {mark : Char} {attributes blanks : Text} (joined : mark = '_' ∨ mark = '-')
      (spelled : SpelledAttributes written attributes)
      (blank : ∀ char ∈ blanks, isBlank char = true) :
      Spelled kind written
        ("[richdoc" ++ mark :: (kind.label ++ (attributes ++ (blanks ++ [']']))))

theorem SpelledAttributes.names {written : List (Text × Text)} {text : Text}
    (spelled : SpelledAttributes written text) : ∀ pair ∈ written, isName pair.1 = true := by
  induction spelled with
  | none => exact List.forall_mem_nil _
  | more _ _ named _ _ induction => exact List.forall_mem_cons.mpr ⟨named, induction⟩

theorem Spelled.names {kind : Kind} {written : List (Text × Text)} {text : Text}
    (spelled : Spelled kind written text) : ∀ pair ∈ written, isName pair.1 = true := by
  obtain ⟨-, spelled, -⟩ := spelled
  exact spelled.names

theorem name_start_code {char : Char} (start : isNameStart char = true) :
    33 ≤ char.toNat ∧ char.toNat < 128 := by
  simp only [isNameStart, Text.isAsciiLetter, Bool.or_eq_true, Bool.and_eq_true, decide_eq_true_eq,
    Char.le_def, UInt32.le_iff_toNat_le] at start
  rcases start with (small | capital) | rfl
  · change 97 ≤ char.toNat ∧ char.toNat ≤ 122 at small
    omega
  · change 65 ≤ char.toNat ∧ char.toNat ≤ 90 at capital
    omega
  · decide

theorem name_start_not_blank {char : Char} (start : isNameStart char = true) :
    isBlank char = false := by
  have code := name_start_code start
  exact Text.visible_of_code code.1 (by omega)

theorem is_name_cons {name : Text} (named : isName name = true) :
    ∃ first tail, name = first :: tail ∧ isNameStart first = true ∧
      ∀ char ∈ tail, isNamePart char = true := by
  cases name with
  | nil => exact absurd named (by decide)
  | cons first tail =>
      rw [isName, Bool.and_eq_true, List.all_eq_true] at named
      exact ⟨first, tail, rfl, named.1, named.2⟩

/-! ## One attribute -/

theorem read_attribute_complete {blanks name value rest : Text} (gap : blanks ≠ [])
    (blank : ∀ char ∈ blanks, isBlank char = true) (named : isName name = true)
    (closed : '"' ∉ value) :
    readAttribute? (blanks ++ (name ++ '=' :: '"' :: (value ++ '"' :: rest))) =
      some (name, value, rest) := by
  obtain ⟨first, tail, rfl, start, parts⟩ := is_name_cons named
  have visible := name_start_not_blank start
  have notClosed : ∀ char ∈ value, (decide (char ≠ '"')) = true := by
    intro char member
    exact decide_eq_true fun same => closed (same ▸ member)
  have blanksLeft : (blanks.isEmpty || !isNameStart first) = false := by
    simp [gap, start]
  rw [List.cons_append, readAttribute?, drop_run blank visible, take_run blank visible]
  simp only [blanksLeft, Bool.false_eq_true, if_false]
  rw [drop_run parts (by decide), take_run parts (by decide)]
  simp only
  rw [drop_run notClosed (by decide), take_run notClosed (by decide)]

theorem read_attribute_sound {text name value rest : Text}
    (read : readAttribute? text = some (name, value, rest)) :
    ∃ blanks, blanks ≠ [] ∧ (∀ char ∈ blanks, isBlank char = true) ∧ isName name = true ∧
      '"' ∉ value ∧ text = blanks ++ (name ++ '=' :: '"' :: (value ++ '"' :: rest)) := by
  have blankSplit := List.takeWhile_append_dropWhile (p := isBlank) (l := text)
  unfold readAttribute? at read
  split at read
  · exact absurd read (by simp)
  rename_i first afterFirst remains
  split at read
  · exact absurd read (by simp)
  rename_i starts
  have nameSplit := List.takeWhile_append_dropWhile (p := isNamePart) (l := afterFirst)
  split at read
  case h_2 => exact absurd read (by simp)
  rename_i quoted opened
  have valueSplit := List.takeWhile_append_dropWhile (p := fun char => decide (char ≠ '"')) (l := quoted)
  split at read
  case h_2 => exact absurd read (by simp)
  rename_i quote rest' closes
  have quoteSame : quote = '"' := by simpa using rest_not_kept closes
  simp only [Option.some.injEq, Prod.mk.injEq] at read
  obtain ⟨rfl, rfl, rfl⟩ := read
  simp only [Bool.or_eq_true, not_or, List.isEmpty_iff, Bool.not_eq_true', Bool.not_eq_false]
    at starts
  refine ⟨text.takeWhile isBlank, ?_, ?_, ?_, ?_, ?_⟩
  · simpa using starts.1
  · intro char member
    exact List.mem_takeWhile_imp member
  · rw [isName, Bool.and_eq_true, List.all_eq_true]
    exact ⟨starts.2, fun char member => List.mem_takeWhile_imp member⟩
  · intro member
    exact absurd (List.mem_takeWhile_imp member) (by decide)
  · rw [closes, quoteSame] at valueSplit
    rw [opened, ← valueSplit] at nameSplit
    rw [remains, ← nameSplit] at blankSplit
    simpa using blankSplit.symm

/-! ## All attributes -/

theorem read_attributes_complete {written : List (Text × Text)} {text rest : Text}
    (spelled : SpelledAttributes written text) (stop : readAttribute? rest = none) :
    readAttributes (text ++ rest) = (written, rest) := by
  induction spelled with
  | none =>
      rw [List.nil_append, readAttributes]
      split
      · rfl
      · rename_i read
        rw [stop] at read
        exact absurd read (by simp)
  | @more blanks name value written others gap blank named closed further induction =>
      have read : readAttribute?
          (blanks ++ (name ++ '=' :: '"' :: (value ++ '"' :: (others ++ rest)))) =
            some (name, value, others ++ rest) :=
        read_attribute_complete gap blank named closed
      have joined : blanks ++ (name ++ '=' :: '"' :: (value ++ '"' :: others)) ++ rest =
          blanks ++ (name ++ '=' :: '"' :: (value ++ '"' :: (others ++ rest))) := by simp
      rw [joined, readAttributes]
      split
      · rename_i none
        rw [read] at none
        exact absurd none (by simp)
      · rename_i first
        rw [read] at first
        simp only [Option.some.injEq, Prod.mk.injEq] at first
        obtain ⟨rfl, rfl, rfl⟩ := first
        rw [induction]

theorem read_attributes_sound (text : Text) :
    ∃ spelling, SpelledAttributes (readAttributes text).1 spelling ∧
      text = spelling ++ (readAttributes text).2 ∧ readAttribute? (readAttributes text).2 = none := by
  fun_induction readAttributes text with
  | case1 text none => exact ⟨[], .none, rfl, none⟩
  | case2 text name value rest read others rest' further induction =>
      rw [further] at induction
      obtain ⟨spelling, spelled, same, stop⟩ := induction
      obtain ⟨blanks, gap, blank, named, closed, start⟩ := read_attribute_sound read
      refine ⟨_, .more gap blank named closed spelled, ?_, stop⟩
      rw [start, same]
      simp

/-! ## Markers -/

theorem after_start (start rest : Text) : Text.after? start (start ++ rest) = some rest := by
  simp [Text.after?]

theorem eq_of_after {start text rest : Text} (after : Text.after? start text = some rest) :
    text = start ++ rest := by
  unfold Text.after? at after
  split at after
  · rename_i starts
    obtain ⟨others, rfl⟩ := List.isPrefixOf_iff_prefix.mp starts
    simp only [List.drop_left, Option.some.injEq] at after
    rw [after]
  · exact absurd after (by simp)

theorem read_kind_label (kind : Kind) (rest : Text) :
    readKind? (kind.label ++ rest) = some (kind, rest) := by
  cases kind <;> rfl

theorem eq_of_read_kind {text rest : Text} {kind : Kind}
    (read : readKind? text = some (kind, rest)) : text = kind.label ++ rest := by
  obtain ⟨found, _, same⟩ := List.exists_of_findSome?_eq_some read
  obtain ⟨others, after, pair⟩ := Option.map_eq_some_iff.mp same
  simp only [Prod.mk.injEq] at pair
  obtain ⟨rfl, rfl⟩ := pair
  exact eq_of_after after

/-- Behind its last attribute a marker is closed, or there is no marker. -/
theorem read_written_at {kind : Kind} {mark : Char} {written : List (Text × Text)}
    {attributes rest : Text} (joined : mark = '_' ∨ mark = '-')
    (spelled : SpelledAttributes written attributes) (stop : readAttribute? rest = none) :
    readWritten? ("[richdoc" ++ mark :: (kind.label ++ (attributes ++ rest))) =
      if (rest.dropWhile isBlank).head? = some ']' then
        some (kind, written, (rest.dropWhile isBlank).tail)
      else none := by
  have joins : (decide (mark = '_') || decide (mark = '-')) = true := by simpa using joined
  rw [readWritten?, after_start]
  simp only [joins, if_true, read_kind_label, Option.bind_some,
    read_attributes_complete spelled stop]
  split
  · rename_i after closes
    rw [closes, List.head?_cons, if_pos rfl, List.tail_cons]
  · rename_i unclosed
    rw [if_neg]
    intro first
    obtain ⟨after, closes⟩ := List.head?_eq_some_iff.mp first
    exact unclosed after closes

theorem read_written_complete {kind : Kind} {written : List (Text × Text)} {raw : Text}
    (spelled : Spelled kind written raw) (rest : Text) :
    readWritten? (raw ++ rest) = some (kind, written, rest) := by
  obtain ⟨joined, spelled, blank⟩ := spelled
  rename_i mark attributes blanks
  have regrouped : "[richdoc".toList ++ mark :: (kind.label ++ (attributes ++ (blanks ++ [']']))) ++ rest =
      "[richdoc".toList ++ (mark :: (kind.label ++ (attributes ++ (blanks ++ ']' :: rest)))) := by simp
  have stop : readAttribute? (blanks ++ ']' :: rest) = none := by
    unfold readAttribute?
    rw [drop_run blank (by decide)]
    simp [show isNameStart ']' = false by decide]
  rw [regrouped, read_written_at joined spelled stop, drop_run blank (by decide), List.head?_cons,
    if_pos rfl, List.tail_cons]

theorem read_written_sound {text rest : Text} {kind : Kind} {written : List (Text × Text)}
    (read : readWritten? text = some (kind, written, rest)) :
    ∃ raw, Spelled kind written raw ∧ text = raw ++ rest := by
  unfold readWritten? at read
  split at read
  · exact absurd read (by simp)
  · exact absurd read (by simp)
  rename_i mark afterMark start
  split at read
  case isFalse => exact absurd read (by simp)
  rename_i joined
  obtain ⟨⟨found, afterKind⟩, label, read⟩ := Option.bind_eq_some_iff.mp read
  obtain ⟨spelling, spelled, same, _⟩ := read_attributes_sound afterKind
  simp only at read
  generalize readAttributes afterKind = parts at read spelled same
  have blankSplit := List.takeWhile_append_dropWhile (p := isBlank) (l := parts.2)
  split at read
  case h_2 => exact absurd read (by simp)
  rename_i closes
  simp only [Option.some.injEq, Prod.mk.injEq] at read
  obtain ⟨rfl, rfl, rfl⟩ := read
  rw [closes] at blankSplit
  have blank : ∀ char ∈ parts.2.takeWhile isBlank, isBlank char = true := by
    intro char member
    exact List.mem_takeWhile_imp member
  refine ⟨_, .marker (by simpa using joined) spelled blank, ?_⟩
  rw [← blankSplit] at same
  rw [eq_of_after start, eq_of_read_kind label, same]
  simp

end RichText.Marker
