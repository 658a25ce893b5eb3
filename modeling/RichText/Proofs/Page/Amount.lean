import RichText.Page.Amount
import RichText.Proofs.Number.Grouped
import RichText.Proofs.Number.Numeral
import RichText.Proofs.Number.Whole
import RichText.Proofs.Text.Ascii
import RichText.Proofs.Text.Slug

/-!
Whole amounts in charts. A cell with an integer is shown with its own digits, grouped in thousands, as long
as a binary number can hold it. A longer integer is shown as one that a binary number can hold, or as no
number at all, and zero keeps a minus in front of it.
-/

namespace RichText

/-- The integer with a magnitude. -/
def signedValue (negative : Bool) (number : Nat) : Int := if negative then -(number : Int) else number

/-- An integer as a cell writes it. -/
structure WholeCell where
  sign : Text
  digits : Text
  signed : sign = [] ∨ sign = "+" ∨ sign = "-"
  present : digits ≠ []
  decimal : digits.all Text.isAsciiDigit = true

namespace WholeCell

def toText (cell : WholeCell) : Text := cell.sign ++ cell.digits

def magnitude (cell : WholeCell) : Nat := Nat.ofDigitChars 10 cell.digits 0

def isNegative (cell : WholeCell) : Bool := cell.sign = "-"

def value (cell : WholeCell) : Int := signedValue cell.isNegative cell.magnitude

end WholeCell

/-- A text that is the numeral of an integer once the commas are left out, with the commas in front of
every third digit from the right. -/
structure WritesGrouped (value : Int) (text : Text) : Prop where
  numeral : text.filter (· ≠ ',') = Text.ofInt value
  thousands : InThousands (if value < 0 then text.drop 1 else text)

namespace Amount

open Binary64

section Digits

variable {digit : Char} {digits : Text}

theorem digit_value (ascii : Text.isAsciiDigit digit = true) :
    Text.decimalValue digit = some (digit.toNat - 48) := by
  have code := Text.ascii_digit_code ascii
  rw [Text.decimalValue, Text.decimalZeros, Text.decimalValueIn, if_neg (by omega),
    if_pos (by omega)]

theorem digits_value (ascii : ∀ digit ∈ digits, Text.isAsciiDigit digit = true) :
    digitsValue digits = Nat.ofDigitChars 10 digits 0 := by
  have onward (start : Nat) :
      digits.foldl (fun value digit => value * 10 + (Text.decimalValue digit).getD 0) start =
        Nat.ofDigitChars 10 digits start := by
    induction digits generalizing start with
    | nil => rfl
    | cons digit digits induction =>
        obtain ⟨first, others⟩ := List.forall_mem_cons.mp ascii
        rw [List.foldl_cons, digit_value first, Nat.mul_comm, Nat.ofDigitChars_cons]
        exact induction others _
  exact onward 0

theorem digit_plain (ascii : Text.isAsciiDigit digit = true) :
    Text.isDecimal digit = true ∧ digit ≠ '-' ∧ digit ≠ '+' := by
  have code := Text.ascii_digit_code ascii
  refine ⟨by rw [Text.isDecimal, digit_value ascii]; rfl, Text.apart_of_code ?_,
    Text.apart_of_code ?_⟩
  · change digit.toNat ≠ 45
    omega
  · change digit.toNat ≠ 43
    omega

end Digits

section Cell

variable (cell : WholeCell)

theorem cell_char_code : ∀ char ∈ cell.toText, 33 ≤ char.toNat ∧ char.toNat < 133 := by
  have digits : ∀ char ∈ cell.digits, 33 ≤ char.toNat ∧ char.toNat < 133 := by
    intro char member
    have code := Text.ascii_digit_code (List.all_eq_true.mp cell.decimal char member)
    omega
  refine List.forall_mem_append.mpr ⟨?_, digits⟩
  rcases cell.signed with none | plus | minus
  · rw [none]
    exact List.forall_mem_nil _
  · rw [plus]
    exact List.forall_mem_singleton.mpr (by decide)
  · rw [minus]
    exact List.forall_mem_singleton.mpr (by decide)

theorem read_sign_whole : readSign cell.toText = (cell.isNegative, cell.digits) := by
  obtain ⟨first, others, same⟩ := List.exists_cons_of_ne_nil cell.present
  have plain := digit_plain (List.all_eq_true.mp cell.decimal first (same ▸ List.mem_cons_self))
  unfold WholeCell.toText WholeCell.isNegative
  rcases cell.signed with none | plus | minus
  · rw [none, List.nil_append, same]
    unfold readSign
    split
    · rename_i minus
      exact absurd (List.cons.inj minus).1 plain.2.1
    · rename_i plus
      exact absurd (List.cons.inj plus).1 plain.2.2
    · rfl
  · rw [plus]
    rfl
  · rw [minus]
    rfl

theorem read_numeral_whole : readNumeral? cell.toText =
    some (ofDecimal cell.isNegative cell.magnitude 0) := by
  have ascii := List.all_eq_true.mp cell.decimal
  have decimal : ∀ digit ∈ cell.digits, Text.isDecimal digit = true :=
    fun digit member => (digit_plain (ascii digit member)).1
  have present : cell.digits.isEmpty = false := by
    rw [List.isEmpty_eq_false_iff]
    exact cell.present
  unfold readNumeral?
  rw [read_sign_whole]
  simp only [List.takeWhile_eq_self_iff.mpr decimal, List.dropWhile_eq_nil_iff.mpr decimal, present,
    List.append_nil, digits_value ascii]
  rfl

theorem shown_whole {labelPrefix : Text} (present : labelPrefix ≠ []) :
    shown cell.toText labelPrefix =
      .ok (labelPrefix ++ (ofDecimal cell.isNegative cell.magnitude 0).toGroupedText) := by
  have code := cell_char_code cell
  have visible : ∀ char ∈ cell.toText, Text.isBlank char = false :=
    fun char member => Text.visible_of_code (code char member).1 (code char member).2
  have clean : ∀ char ∈ cell.toText, isSeparator char = false := by
    intro char member
    rw [Bool.eq_false_iff]
    intro separator
    exact absurd ((visible char member).symm.trans (separator_blank separator).1) nofun
  have whole : read? cell.toText = some (ofDecimal cell.isNegative cell.magnitude 0) := by
    rw [read?, trim_number_of_no_separator clean, Text.trim_of_no_blank visible, read_numeral_whole]
  rw [shown, whole, Text.trim_of_no_blank visible, read_numeral_whole]
  simp [present]

end Cell

/-! ## The integer that is shown -/

section Kept

variable {negative : Bool} {number kept : Nat}

theorem numeral_injective (same : Text.ofNat number = Text.ofNat kept) : number = kept := by
  have read := congrArg (fun digits => Nat.ofDigitChars 10 digits 0) same
  simpa only [Text.ofNat, Nat.ofDigitChars_ten_toDigits] using read

/-- The numeral of an integer has a minus only if the integer is below zero. -/
theorem numeral_signed (negative : Bool) (number : Nat) :
    Text.ofInt (signedValue negative number) = signed (negative && number ≠ 0) (Text.ofNat number) ∧
      (signedValue negative number < 0 ↔ (negative && number ≠ 0) = true) := by
  cases negative with
  | false => exact ⟨rfl, iff_of_false (Int.not_lt.mpr (Int.natCast_nonneg number)) nofun⟩
  | true =>
      cases number with
      | zero => decide
      | succ number => exact ⟨rfl, iff_of_true (Int.negSucc_lt_zero number) rfl⟩

theorem filter_signed (text : Text) :
    (signed negative text).filter (· ≠ ',') = signed negative (text.filter (· ≠ ',')) := by
  cases negative <;> rfl

theorem writes_grouped_iff : WritesGrouped (signedValue negative number) (signed negative (grouped kept)) ↔
    kept = number ∧ ¬(negative = true ∧ number = 0) := by
  obtain ⟨numeral, below⟩ := numeral_signed negative number
  constructor
  · rintro ⟨same, -⟩
    rw [filter_signed, grouped_numeral, numeral] at same
    cases negative with
    | false => exact ⟨numeral_injective same, nofun⟩
    | true =>
        cases number with
        -- Zero is the one integer whose numeral drops the sign that is shown.
        | zero =>
            have minus : '-' :: Text.ofNat kept = ['0'] := same
            exact absurd (List.cons.inj minus).1 (by decide)
        | succ number => exact ⟨numeral_injective (List.cons.inj same).2, nofun⟩
  · rintro ⟨rfl, notZero⟩
    have own : (negative && kept ≠ 0) = negative := by
      cases negative with
      | false => rfl
      | true => simpa using notZero
    rw [own] at numeral below
    constructor
    · rw [filter_signed, grouped_numeral, numeral]
    · have unsigned : (if signedValue negative kept < 0 then (signed negative (grouped kept)).drop 1
          else signed negative (grouped kept)) = grouped kept := by
        simp only [below]
        cases negative <;> rfl
      rw [unsigned]
      exact grouped_in_thousands kept

/-- A text with a letter writes no integer. -/
theorem not_writes_word {value : Int} : ¬WritesGrouped value (signed negative "inf") := by
  rintro ⟨numeral, -⟩
  have letter : 'i' ∈ Text.ofInt value := by
    rw [← numeral]
    cases negative <;> decide
  exact Text.of_int_free (by decide) rfl value letter

theorem of_decimal_whole (negative : Bool) (positive : number ≠ 0) :
    ofDecimal negative number 0 =
      if (Nat.toDigits 10 number).length ≤ 310 then ofRatio negative number 1
      else .infinite negative := by
  have whole : number * Nat.pow 10 0 = number := Nat.mul_one number
  unfold ofDecimal
  rw [if_neg positive]
  by_cases short : (Nat.toDigits 10 number).length ≤ 310
  · rw [if_pos short, if_neg (by omega), if_neg (by omega)]
    exact congrArg (fun number => ofRatio negative number 1) whole
  · rw [if_neg short, if_pos (by omega)]

theorem short_of_fits (fits : Fits number) : (Nat.toDigits 10 number).length ≤ 310 := by
  obtain ⟨mantissa, exponent, rfl, small, bounded⟩ := fits
  apply (Nat.length_toDigits_le_iff (by decide) (by decide)).mpr
  calc
    mantissa * 2 ^ exponent < 2 ^ 53 * 2 ^ exponent :=
      Nat.mul_lt_mul_of_pos_right small (Nat.two_pow_pos _)
    _ ≤ 2 ^ 53 * 2 ^ 971 := Nat.mul_le_mul_left _ (Nat.pow_le_pow_right (by decide) bounded)
    _ < 10 ^ 310 := by decide +kernel

theorem written_decimal_iff : WritesGrouped (signedValue negative number)
      (ofDecimal negative number 0).toGroupedText ↔
    Fits number ∧ ¬(negative = true ∧ number = 0) := by
  by_cases zero : number = 0
  · subst zero
    have fits : Fits 0 := ⟨0, 0, rfl, by decide, by decide⟩
    rw [show ofDecimal negative 0 0 = .finite negative 0 (-1074) from if_pos rfl, grouped_text_zero,
      writes_grouped_iff]
    simp only [fits, true_and]
  · rw [of_decimal_whole negative zero]
    by_cases fits : Fits number
    · rw [if_pos (short_of_fits fits), grouped_text_of_fits zero fits, writes_grouped_iff]
      simp only [fits, true_and]
    -- What does not fit is shown as a number that does, or as a word.
    · apply iff_of_false ?_ fun kept => fits kept.1
      split
      · rcases @grouped_text_cases negative number zero with infinite | ⟨kept, keptFits, finite⟩
        · rw [infinite]
          exact not_writes_word
        · rw [finite, writes_grouped_iff]
          rintro ⟨rfl, -⟩
          exact fits keptFits
      · have infinite : (Binary64.infinite negative).toGroupedText = signed negative "inf" := by
          cases negative <;> rfl
        rw [infinite]
        exact not_writes_word

end Kept

/-- An integer cell is shown, and as the same integer with commas exactly if a binary number can hold it
and it is no zero with a minus. -/
theorem whole_amount_kept_iff (cell : WholeCell) (labelPrefix : Text) (present : labelPrefix ≠ []) :
    ∃ amount, shown cell.toText labelPrefix = .ok (labelPrefix ++ amount) ∧
      (WritesGrouped cell.value amount ↔
        Fits cell.magnitude ∧ ¬(cell.isNegative = true ∧ cell.magnitude = 0)) :=
  ⟨_, shown_whole cell present, written_decimal_iff⟩

/-- The first integer that no binary number of the used kind holds. -/
def longCell : WholeCell where
  sign := "+"
  digits := "9007199254740993"
  signed := .inr (.inl rfl)
  present := by decide
  decimal := by decide

theorem long_not_fits : ¬Fits longCell.magnitude := by
  rw [show longCell.magnitude = 9007199254740993 by decide]
  rintro ⟨mantissa, exponent, same, small, -⟩
  cases exponent with
  | zero => omega
  | succ exponent =>
      rw [Nat.pow_succ, ← Nat.mul_assoc] at same
      omega

theorem long_amount_changed : ("$" : Text) ≠ [] ∧ ∃ amount,
    shown "+9007199254740993" "$" = .ok ("$" ++ amount) ∧ ¬WritesGrouped 9007199254740993 amount := by
  obtain ⟨amount, written, kept⟩ := whole_amount_kept_iff longCell "$" (by decide)
  have value : longCell.value = 9007199254740993 := by decide
  rw [value] at kept
  exact ⟨by decide, amount, written, fun same => long_not_fits (kept.mp same).1⟩

end Amount

end RichText
