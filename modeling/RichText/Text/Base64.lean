import RichText.Text.Basic

/-!
Bytes as text of letters, digits and two signs, each of which stands for six bits. Other characters are
passed over. The text ends after whole groups of four, or with the padding that completes a group.
-/

namespace RichText.Text.Base64

def sixBits? (char : Char) : Option Nat :=
  let code := char.toNat
  if 'A' ≤ char && char ≤ 'Z' then some (code - 65)
  else if 'a' ≤ char && char ≤ 'z' then some (code - 97 + 26)
  else if '0' ≤ char && char ≤ '9' then some (code - 48 + 52)
  else if char = '+' then some 62
  else if char = '/' then some 63
  else none

/-- Where in a group of four the reader is, with the bits that complete no byte yet. -/
inductive Place
  | start
  | second (bits : Nat)
  /-- From here on padding counts, of which so much was read in a row. -/
  | third (bits padding : Nat)
  | fourth (bits padding : Nat)
  deriving DecidableEq, Repr

/-- The place after six more bits, and the byte that they complete. -/
def Place.take (place : Place) (bits : Nat) : Place × List UInt8 :=
  match place with
  | .start => (.second bits, [])
  | .second left => (.third (bits % 16) 0, [UInt8.ofNat (left * 4 + bits / 16)])
  | .third left _ => (.fourth (bits % 4) 0, [UInt8.ofNat (left * 16 + bits / 4)])
  | .fourth left _ => (.start, [UInt8.ofNat (left * 64 + bits)])

/-- The place after a sign for padding; none where it completes a group. -/
def Place.pad? : Place → Option Place
  | .start => some .start
  | .second bits => some (.second bits)
  | .third bits padding => if padding = 0 then some (.third bits 1) else none
  | .fourth _ _ => none

def decodeFrom (place : Place) : Text → Option (List UInt8)
  | [] => if place = .start then some [] else none
  | char :: rest =>
      if char = '=' then
        match place.pad? with
        | some place => decodeFrom place rest
        | none => some []
      else
        match sixBits? char with
        | some bits =>
            let (place, bytes) := place.take bits
            (decodeFrom place rest).map (bytes ++ ·)
        | none => decodeFrom place rest

/-- The bytes that a text stands for; none if its last group is not complete. -/
def decode? (text : Text) : Option (List UInt8) := decodeFrom .start text

end RichText.Text.Base64
