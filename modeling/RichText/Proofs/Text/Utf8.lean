import Mathlib.Data.List.Basic
import RichText.Files

/-!
Text that is written to a file and read again. Every character is read back from its bytes, and line
ends are left as they are where no carriage return is among them.
-/

namespace RichText

namespace Text

namespace Utf8

/-! ## Steps of the reader -/

theorem continuation_to_nat (code : Nat) : (UInt8.ofNat (code % 64 + 128)).toNat = code % 64 + 128 := by
  rw [UInt8.toNat_ofNat']
  omega

theorem continuation_fits (code : Nat) : isContinuation (UInt8.ofNat (code % 64 + 128)) = true := by
  simp only [isContinuation, continuation_to_nat, Bool.and_eq_true, decide_eq_true_eq]
  omega

theorem may_follow_iff (first second : UInt8) : mayFollow first second = true ↔
    (if first.toNat = 0xe0 then 0xa0 else if first.toNat = 0xf0 then 0x90 else 0x80) ≤ second.toNat ∧
      second.toNat ≤ if first.toNat = 0xed then 0x9f else if first.toNat = 0xf4 then 0x8f else 0xbf := by
  simp only [mayFollow, Bool.and_eq_true, decide_eq_true_eq, ← UInt8.toNat_inj, UInt8.reduceToNat]

section Steps

variable {position : Nat} {pending : Pending} {byte : UInt8} {rest : List UInt8}

theorem decode_first {missing bits : Nat} (shape : shape? byte = some (missing + 1, bits)) :
    decodeFrom position none (byte :: rest) =
      decodeFrom position (some ⟨[byte], missing + 1, bits⟩) rest := by
  rw [decodeFrom, shape]

theorem decode_next (fits : pending.fits byte = true) (more : 1 < pending.missing) :
    decodeFrom position (some pending) (byte :: rest) =
      decodeFrom position (some ⟨byte :: pending.bytes, pending.missing - 1,
        pending.code * 64 + byte.toNat % 64⟩) rest := by
  rw [decodeFrom, if_pos fits]
  simp only [if_neg (Nat.not_le.mpr more)]

theorem decode_last (fits : pending.fits byte = true) (last : pending.missing = 1) :
    decodeFrom position (some pending) (byte :: rest) =
      (decodeFrom (position + (pending.bytes.length + 1)) none rest).map
        (Char.ofNat (pending.code * 64 + byte.toNat % 64) :: ·) := by
  rw [decodeFrom, if_pos fits]
  simp only [last, Nat.le_refl, if_true, List.length_cons]

end Steps

/-! ## Characters and texts -/

section Bytes

variable {code : Nat} (position : Nat) (rest : List UInt8)

theorem decode_one (small : code < 0x80) :
    decodeFrom position none (UInt8.ofNat code :: rest) =
      (decodeFrom (position + 1) none rest).map (Char.ofNat code :: ·) := by
  have byte : (UInt8.ofNat code).toNat = code := by rw [UInt8.toNat_ofNat']; omega
  have shape : shape? (UInt8.ofNat code) = some (0, code) := by
    simp only [shape?, byte, small, if_true]
  rw [decodeFrom, shape]

theorem decode_two (large : 0x80 ≤ code) (small : code < 0x800) :
    decodeFrom position none
        (UInt8.ofNat (code / 64 % 32 + 192) :: UInt8.ofNat (code % 64 + 128) :: rest) =
      (decodeFrom (position + 2) none rest).map (Char.ofNat code :: ·) := by
  have byte : (UInt8.ofNat (code / 64 % 32 + 192)).toNat = code / 64 + 192 := by
    rw [UInt8.toNat_ofNat']; omega
  have shape : shape? (UInt8.ofNat (code / 64 % 32 + 192)) = some (1, code / 64) := by
    simp only [shape?, byte]
    rw [if_neg (by omega), if_neg (by omega), if_pos (by omega), Nat.add_sub_cancel]
  rw [decode_first shape, decode_last, continuation_to_nat]
  · have whole : code / 64 * 64 + (code % 64 + 128) % 64 = code := by omega
    simp only [whole, List.length_singleton]
  · simp only [Pending.fits, may_follow_iff, byte, continuation_to_nat]
    split_ifs <;> omega
  · rfl

theorem decode_three (large : 0x800 ≤ code) (small : code < 0x10000)
    (valid : code < 0xd800 ∨ 0xdfff < code) :
    decodeFrom position none (UInt8.ofNat (code / 4096 % 16 + 224) ::
        UInt8.ofNat (code / 64 % 64 + 128) :: UInt8.ofNat (code % 64 + 128) :: rest) =
      (decodeFrom (position + 3) none rest).map (Char.ofNat code :: ·) := by
  have byte : (UInt8.ofNat (code / 4096 % 16 + 224)).toNat = code / 4096 + 224 := by
    rw [UInt8.toNat_ofNat']; omega
  have shape : shape? (UInt8.ofNat (code / 4096 % 16 + 224)) = some (2, code / 4096) := by
    simp only [shape?, byte]
    rw [if_neg (by omega), if_neg (by omega), if_neg (by omega), if_pos (by omega),
      Nat.add_sub_cancel]
  rw [decode_first shape, decode_next, decode_last, continuation_to_nat, continuation_to_nat]
  · have whole : (code / 4096 * 64 + (code / 64 % 64 + 128) % 64) * 64 + (code % 64 + 128) % 64 =
        code := by omega
    simp only [whole, List.length_cons, List.length_nil]
  · exact continuation_fits code
  · rfl
  · simp only [Pending.fits, may_follow_iff, byte, continuation_to_nat]
    split_ifs <;> omega
  · exact (by decide : 1 < 2)

theorem decode_four (large : 0x10000 ≤ code) (small : code < 0x110000) :
    decodeFrom position none (UInt8.ofNat (code / 262144 % 8 + 240) ::
        UInt8.ofNat (code / 4096 % 64 + 128) :: UInt8.ofNat (code / 64 % 64 + 128) ::
          UInt8.ofNat (code % 64 + 128) :: rest) =
      (decodeFrom (position + 4) none rest).map (Char.ofNat code :: ·) := by
  have byte : (UInt8.ofNat (code / 262144 % 8 + 240)).toNat = code / 262144 + 240 := by
    rw [UInt8.toNat_ofNat']; omega
  have shape : shape? (UInt8.ofNat (code / 262144 % 8 + 240)) = some (3, code / 262144) := by
    simp only [shape?, byte]
    rw [if_neg (by omega), if_neg (by omega), if_neg (by omega), if_neg (by omega),
      if_pos (by omega), Nat.add_sub_cancel]
  rw [decode_first shape, decode_next, decode_next, decode_last, continuation_to_nat,
    continuation_to_nat, continuation_to_nat]
  · have whole : ((code / 262144 * 64 + (code / 4096 % 64 + 128) % 64) * 64 +
        (code / 64 % 64 + 128) % 64) * 64 + (code % 64 + 128) % 64 = code := by omega
    simp only [whole, List.length_cons, List.length_nil]
  · exact continuation_fits code
  · rfl
  · exact continuation_fits (code / 64)
  · exact (by decide : 1 < 2)
  · simp only [Pending.fits, may_follow_iff, byte, continuation_to_nat]
    split_ifs <;> omega
  · exact (by decide : 1 < 3)

end Bytes

theorem decode_char (char : Char) (position : Nat) (rest : List UInt8) :
    decodeFrom position none (String.utf8EncodeChar char ++ rest) =
      (decodeFrom (position + (String.utf8EncodeChar char).length) none rest).map (char :: ·) := by
  have valid : char.toNat < 0xd800 ∨ 0xdfff < char.toNat ∧ char.toNat < 0x110000 := char.valid
  have code : char.val.toNat = char.toNat := rfl
  have same := Char.ofNat_toNat char
  simp only [String.utf8EncodeChar, code]
  split_ifs with one two three
  · have read := decode_one position rest (show char.toNat < 0x80 by omega)
    rwa [same] at read
  · have read := decode_two position rest (show 0x80 ≤ char.toNat by omega) (by omega)
    rwa [same] at read
  · have read := decode_three position rest (show 0x800 ≤ char.toNat by omega) (by omega) (by omega)
    rwa [same] at read
  · have read := decode_four position rest (show 0x10000 ≤ char.toNat by omega) (by omega)
    rwa [same] at read

theorem decode_to_bytes (text : Text) (position : Nat) :
    decodeFrom position none (toBytes text) = .ok text := by
  induction text generalizing position with
  | nil => rw [toBytes, List.flatMap_nil, decodeFrom]
  | cons char text induction =>
      rw [toBytes, List.flatMap_cons, decode_char, ← toBytes, induction]
      rfl

end Utf8

theorem with_line_feeds_same {text : Text} (free : '\r' ∉ text) : withLineFeeds text = text := by
  induction text with
  | nil => rw [withLineFeeds]
  | cons char text induction =>
      have other := List.ne_of_not_mem_cons free
      rw [withLineFeeds, induction (List.not_mem_of_not_mem_cons free)]
      · exact fun _ same => absurd same.symm other
      · exact fun same => absurd same.symm other

end Text

/-- A text without carriage returns is read as it was written. -/
theorem Files.text_of_written {text : Text} (free : '\r' ∉ text) :
    textOf (Text.toBytes text) = .ok text := by
  rw [textOf, Text.Utf8.decode, Text.Utf8.decode_to_bytes]
  exact congrArg Except.ok (Text.with_line_feeds_same free)

end RichText
