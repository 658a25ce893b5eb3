import RichText.Text.Escape
import RichText.Text.Reference
import RichText.Proofs.Text.Span

/-!
Reading character references undoes the writing of element text and of attribute values. Every
ampersand that a writer leaves starts a reference of its own, and the semicolon that closes it keeps
what follows out of its name.
-/

namespace RichText.Text

namespace Reference

theorem name_char_not_hash {char : Char} (letter : isNameChar char = true) : char ≠ '#' := by
  rintro rfl
  exact absurd letter (by decide)

theorem take_name_closed (name rest : Text) (letters : ∀ char ∈ name, isNameChar char = true)
    (short : name.length < 32) :
    ((name ++ ';' :: rest).take 32).takeWhile isNameChar = name := by
  obtain ⟨more, enough⟩ := Nat.exists_eq_add_of_lt short
  have taken : (name ++ ';' :: rest).take 32 = name ++ ';' :: rest.take more := by
    rw [enough, show name.length + more + 1 = name.length + (more + 1) by omega]
    simp only [List.take_length_add_append, List.take_succ_cons]
  rw [taken, List.takeWhile_append_of_pos letters,
    List.takeWhile_cons_of_neg (by decide), List.append_nil]

/-- A known name with its semicolon is read as a whole, whatever follows. -/
theorem read_name_closed (first : Char) (tail rest text : Text)
    (named : (first :: tail).all isNameChar = true) (short : tail.length < 31)
    (known : named? (first :: tail ++ [';']) = some text) :
    read? (first :: tail ++ ';' :: rest) = some (text, tail.length + 2) := by
  have letters := List.all_eq_true.mp named
  have notHash : first ≠ '#' := name_char_not_hash (letters first (by simp))
  have name := take_name_closed (first :: tail) rest letters
    (by rw [List.length_cons]; omega)
  have beyond : (first :: tail ++ ';' :: rest).drop (first :: tail).length = ';' :: rest :=
    List.drop_left
  have whole : (first :: tail ++ ';' :: rest).take (tail.length + 2) =
      first :: tail ++ [';'] := by
    have split : first :: tail ++ ';' :: rest = (first :: tail ++ [';']) ++ rest := by simp
    rw [split, show tail.length + 2 = (first :: tail ++ [';']).length by simp]
    exact List.take_left
  have read : read? (first :: tail ++ ';' :: rest) =
      (ofName? ((first :: tail ++ ';' :: rest).take (tail.length + 2))).map
        fun text => (text, tail.length + 2) := by
    rw [List.cons_append] at name beyond ⊢
    rw [read?]
    · simp only [name]
      rw [beyond]
      rfl
    all_goals
      intro other same
      exact notHash (List.cons.inj same).1
  rw [read, whole, ofName?, known]
  rfl

theorem read_apostrophe (rest : Text) :
    read? ("#x27;".toList ++ rest) = some (['\x27'], 5) := by
  have inside : ∀ char ∈ ['2', '7'], isHexDigit char = true := List.all_eq_true.mp (by decide)
  have ends : isHexDigit ';' = false := by decide
  have digits : (['2', '7'] ++ ';' :: rest).takeWhile isHexDigit = ['2', '7'] :=
    take_run inside ends
  have closed : (['2', '7'] ++ ';' :: rest).dropWhile isHexDigit = ';' :: rest :=
    drop_run inside ends
  have read : read? ("#x27;".toList ++ rest) =
      numeric? 16 isHexDigit 2 (['2', '7'] ++ ';' :: rest) := rfl
  rw [read, numeric?, digits, closed]
  rfl

/-- The reference that a writer puts for a character: its text after the ampersand. -/
def Stands (body text : Text) : Prop := ∀ rest, read? (body ++ rest) = some (text, body.length)

theorem ampersand_stands : Stands "amp;" ['&'] := fun rest =>
  read_name_closed 'a' "mp" rest ['&'] (by decide) (by decide) (by decide)

theorem less_stands : Stands "lt;" ['<'] := fun rest =>
  read_name_closed 'l' "t" rest ['<'] (by decide) (by decide) (by decide)

theorem greater_stands : Stands "gt;" ['>'] := fun rest =>
  read_name_closed 'g' "t" rest ['>'] (by decide) (by decide) (by decide)

theorem quote_stands : Stands "quot;" ['"'] := fun rest =>
  read_name_closed 'q' "uot" rest ['"'] (by decide) (by decide) (by decide)

theorem apostrophe_stands : Stands "#x27;" ['\x27'] := read_apostrophe

end Reference

theorem unescape_after_skip (skipped rest : Text) :
    unescapeAfter skipped.length (skipped ++ rest) = unescape rest := by
  induction skipped with
  | nil => rfl
  | cons char skipped induction => simpa [unescapeAfter] using induction

theorem unescape_cons_plain {char : Char} (plain : char ≠ '&') (rest : Text) :
    unescape (char :: rest) = char :: unescape rest := by
  rw [unescape, unescapeAfter]
  · rfl
  · intro same
    exact absurd same plain

theorem unescape_reference {body text : Text} (stands : Reference.Stands body text) (rest : Text) :
    unescape ('&' :: (body ++ rest)) = text ++ unescape rest := by
  rw [unescape, unescapeAfter, stands rest]
  simp only [unescape_after_skip]

/-- A writer of single characters that leaves a character as it is or puts a reference for it. -/
def Refers (written : Char → Text) : Prop :=
  ∀ char, (char ≠ '&' ∧ written char = [char]) ∨
    ∃ body, Reference.Stands body [char] ∧ written char = '&' :: body

/-- A text comes back whole, and nothing of what follows is drawn into its last reference. -/
theorem unescape_written {written : Char → Text} (refers : Refers written) (text rest : Text) :
    unescape (text.flatMap written ++ rest) = text ++ unescape rest := by
  induction text with
  | nil => rfl
  | cons char text induction =>
      rw [List.flatMap_cons, List.append_assoc]
      rcases refers char with ⟨plain, same⟩ | ⟨body, stands, same⟩
      · rw [same, List.singleton_append, unescape_cons_plain plain, induction]
        rfl
      · rw [same, List.cons_append, unescape_reference stands, induction]
        rfl

theorem escape_attribute_char_refers : Refers escapeAttributeChar := by
  intro char
  by_cases ampersand : char = '&'
  · subst char
    exact .inr ⟨_, Reference.ampersand_stands, rfl⟩
  by_cases quote : char = '"'
  · subst char
    exact .inr ⟨_, Reference.quote_stands, rfl⟩
  by_cases apostrophe : char = '\x27'
  · subst char
    exact .inr ⟨_, Reference.apostrophe_stands, rfl⟩
  exact .inl ⟨ampersand, by simp [escapeAttributeChar, ampersand, quote, apostrophe]⟩

theorem escape_char_refers : Refers escapeChar := by
  intro char
  by_cases less : char = '<'
  · subst char
    exact .inr ⟨_, Reference.less_stands, rfl⟩
  by_cases greater : char = '>'
  · subst char
    exact .inr ⟨_, Reference.greater_stands, rfl⟩
  have same : escapeChar char = escapeAttributeChar char := by
    simp only [escapeChar, escapeAttributeChar, if_neg less, if_neg greater]
  rw [same]
  exact escape_attribute_char_refers char

theorem unescape_all {written : Char → Text} (refers : Refers written) (text : Text) :
    unescape (text.flatMap written) = text := by
  have whole := unescape_written refers text []
  rwa [List.append_nil, show unescape [] = [] from rfl, List.append_nil] at whole

theorem unescape_escaped (text : Text) : unescape (escape text) = text :=
  unescape_all escape_char_refers text

theorem unescape_escaped_attribute (text : Text) : unescape (escapeAttribute text) = text :=
  unescape_all escape_attribute_char_refers text

theorem escape_injective {first second : Text} (same : escape first = escape second) :
    first = second := by
  rw [← unescape_escaped first, same, unescape_escaped]

/-! ## References before a space -/

namespace Reference

variable {text rest : Text}

theorem take_while_before_space (keeps : Char → Bool) (ends : keeps ' ' = false) (limit : Nat) :
    (((text ++ ' ' :: rest).take limit).takeWhile keeps).length ≤ text.length := by
  induction text generalizing limit with
  | nil =>
      cases limit with
      | zero => simp
      | succ limit => simp [ends]
  | cons char text induction =>
      cases limit with
      | zero => simp
      | succ limit =>
          rw [List.cons_append, List.take_succ_cons]
          by_cases kept : keeps char = true
          · rw [List.takeWhile_cons_of_pos kept, List.length_cons, List.length_cons]
            exact Nat.succ_le_succ (induction limit)
          · rw [List.takeWhile_cons_of_neg kept]
            simp

theorem closing_before_space {run : Nat} (inside : run ≤ text.length) :
    run + closingSize ((text ++ ' ' :: rest).drop run) ≤ text.length := by
  rw [List.drop_append_of_le_length inside]
  have atMostOne (text : Text) : closingSize text ≤ 1 := by
    unfold closingSize
    split <;> decide
  cases remains : text.drop run with
  | nil =>
      have none : closingSize ([] ++ ' ' :: rest) = 0 := rfl
      rw [none]
      omega
  | cons char more =>
      have shorter := congrArg List.length remains
      rw [List.length_drop, List.length_cons] at shorter
      have one := atMostOne (char :: more ++ ' ' :: rest)
      omega

theorem numeric_before_space {base mark size : Nat} {digit : Char → Bool} {replacement : Text}
    (ends : digit ' ' = false)
    (read : numeric? base digit mark (text ++ ' ' :: rest) = some (replacement, size)) :
    size ≤ mark + text.length := by
  have whole := List.takeWhile_append_dropWhile (p := digit) (l := text ++ ' ' :: rest)
  have inside := @take_while_before_space text rest digit ends (text ++ ' ' :: rest).length
  rw [List.take_length] at inside
  have closing := @closing_before_space text rest _ inside
  have dropped : (text ++ ' ' :: rest).drop ((text ++ ' ' :: rest).takeWhile digit).length =
      (text ++ ' ' :: rest).dropWhile digit := by
    generalize text ++ ' ' :: rest = all at whole
    have left := @List.drop_left _ (all.takeWhile digit) (all.dropWhile digit)
    rwa [whole] at left
  rw [dropped] at closing
  unfold numeric? at read
  simp only at read
  split at read
  · exact absurd read (by simp)
  · simp only [Option.some.injEq, Prod.mk.injEq] at read
    omega

theorem head_before_space {char : Char} {after : Text} (other : char ≠ ' ')
    (same : text ++ ' ' :: rest = char :: after) :
    ∃ more, text = char :: more ∧ after = more ++ ' ' :: rest := by
  cases text with
  | nil => exact absurd (List.cons.inj same).1.symm other
  | cons first more =>
      obtain ⟨rfl, rfl⟩ := List.cons.inj same
      exact ⟨more, rfl, rfl⟩

theorem read_before_space {size : Nat} {replacement : Text}
    (read : read? (text ++ ' ' :: rest) = some (replacement, size)) : size ≤ text.length := by
  have named (other : Text) (same : other = text ++ ' ' :: rest) :
      (let letters := (other.take 32).takeWhile isNameChar
        let size := letters.length + closingSize (other.drop letters.length)
        if letters.isEmpty then none
        else (ofName? (other.take size)).map fun text => (text, size)) = some (replacement, size) →
        size ≤ text.length := by
    intro read
    subst same
    have letters := @take_while_before_space text rest isNameChar (by decide) 32
    have closing := @closing_before_space text rest _ letters
    simp only at read
    split at read
    · exact absurd read (by simp)
    · obtain ⟨_, _, same⟩ := Option.map_eq_some_iff.mp read
      simp only [Prod.mk.injEq] at same
      omega
  unfold read? at read
  split at read
  · rename_i after same
    obtain ⟨tail, rfl, remains⟩ := head_before_space (by decide) same
    obtain ⟨more, rfl, rfl⟩ := head_before_space (by decide) remains.symm
    have inside := numeric_before_space (by decide) read
    rw [List.length_cons, List.length_cons]
    omega
  · rename_i after same
    obtain ⟨tail, rfl, remains⟩ := head_before_space (by decide) same
    obtain ⟨more, rfl, rfl⟩ := head_before_space (by decide) remains.symm
    have inside := numeric_before_space (by decide) read
    rw [List.length_cons, List.length_cons]
    omega
  · rename_i after _ _ same
    obtain ⟨more, rfl, rfl⟩ := head_before_space (by decide) same
    have inside := numeric_before_space (by decide) read
    rw [List.length_cons]
    omega
  · exact named _ rfl read

end Reference

theorem unescape_after_space {text : Text} {skipped : Nat} (inside : skipped ≤ text.length)
    (rest : Text) :
    ∃ before, unescapeAfter skipped (text ++ ' ' :: rest) = before ++ ' ' :: unescape rest := by
  induction text generalizing skipped with
  | nil =>
      obtain rfl : skipped = 0 := by simpa using inside
      exact ⟨[], unescape_cons_plain (by decide) rest⟩
  | cons char text induction =>
      cases skipped with
      | succ skipped => exact induction (by simpa using inside)
      | zero =>
          by_cases ampersand : char = '&'
          · subst char
            rw [List.cons_append, unescapeAfter]
            cases read : Reference.read? (text ++ ' ' :: rest) with
            | none =>
                obtain ⟨before, same⟩ := @induction 0 (Nat.zero_le _)
                exact ⟨'&' :: before, by simp [same]⟩
            | some reference =>
                obtain ⟨replacement, size⟩ := reference
                obtain ⟨before, same⟩ := induction (Reference.read_before_space read)
                exact ⟨replacement ++ before, by simp [same]⟩
          · obtain ⟨before, same⟩ := @induction 0 (Nat.zero_le _)
            refine ⟨char :: before, ?_⟩
            rw [List.cons_append, ← unescape, unescape_cons_plain ampersand, unescape, same]
            rfl

/-- No reference goes over a space, so what follows the space is read as if it stood alone. -/
theorem unescape_space (text rest : Text) :
    ∃ before, unescape (text ++ ' ' :: rest) = before ++ ' ' :: unescape rest :=
  unescape_after_space (Nat.zero_le _) rest

end RichText.Text
