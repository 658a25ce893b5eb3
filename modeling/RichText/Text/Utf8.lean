import RichText.Text.Quoted

/-!
Text as bytes. A character takes one to four bytes; a reader of bytes refuses overlong forms,
surrogates, and code points beyond the last one, and tells where and why it stopped.
-/

namespace RichText.Text

def toBytes (text : Text) : List UInt8 := text.flatMap String.utf8EncodeChar

namespace Utf8

inductive Flaw
  | startByte
  | continuationByte
  | endOfData
  deriving DecidableEq, Repr

def Flaw.message : Flaw → Text
  | .startByte => "invalid start byte"
  | .continuationByte => "invalid continuation byte"
  | .endOfData => "unexpected end of data"

/-- Where reading stopped: at some bytes that begin no character. -/
structure Fault where
  position : Nat
  bytes : List UInt8
  flaw : Flaw
  deriving DecidableEq, Repr

def Fault.message (fault : Fault) : Text :=
  let reason : Text := ": " ++ fault.flaw.message
  match fault.bytes with
  | [byte] =>
      "'utf-8' codec can't decode byte 0x" ++ hexDigits 2 byte.toNat ++ " in position " ++
        ofNat fault.position ++ reason
  | bytes =>
      "'utf-8' codec can't decode bytes in position " ++ ofNat fault.position ++ "-" ++
        ofNat (fault.position + bytes.length - 1) ++ reason

/-- How many continuation bytes follow a first byte, and the bits that it contributes. -/
def shape? (byte : UInt8) : Option (Nat × Nat) :=
  let code := byte.toNat
  if code < 0x80 then some (0, code)
  else if code < 0xc2 then none
  else if code < 0xe0 then some (1, code - 0xc0)
  else if code < 0xf0 then some (2, code - 0xe0)
  else if code < 0xf5 then some (3, code - 0xf0)
  else none

/-- Whether a second byte may follow a first one. -/
def mayFollow (first second : UInt8) : Bool :=
  let low := if first = 0xe0 then 0xa0 else if first = 0xf0 then 0x90 else 0x80
  let high := if first = 0xed then 0x9f else if first = 0xf4 then 0x8f else 0xbf
  low ≤ second.toNat && second.toNat ≤ high

def isContinuation (byte : UInt8) : Bool := 0x80 ≤ byte.toNat && byte.toNat ≤ 0xbf

/-- A character that is being read: the bytes so far, last first, and what they contribute. -/
structure Pending where
  bytes : List UInt8
  missing : Nat
  code : Nat

def Pending.fits (pending : Pending) (byte : UInt8) : Bool :=
  match pending.bytes with
  | [first] => mayFollow first byte
  | _ => isContinuation byte

/-- Reads the bytes from a position on, in the middle of a character if one is pending. -/
def decodeFrom (position : Nat) : Option Pending → List UInt8 → Except Fault Text
  | none, [] => .ok []
  | some pending, [] => .error ⟨position, pending.bytes.reverse, .endOfData⟩
  | none, byte :: rest =>
      match shape? byte with
      | none => .error ⟨position, [byte], .startByte⟩
      | some (0, code) => (decodeFrom (position + 1) none rest).map (Char.ofNat code :: ·)
      | some (missing + 1, code) => decodeFrom position (some ⟨[byte], missing + 1, code⟩) rest
  | some pending, byte :: rest =>
      if pending.fits byte then
        let bytes := byte :: pending.bytes
        let code := pending.code * 64 + byte.toNat % 64
        if pending.missing ≤ 1 then
          (decodeFrom (position + bytes.length) none rest).map (Char.ofNat code :: ·)
        else decodeFrom position (some ⟨bytes, pending.missing - 1, code⟩) rest
      else .error ⟨position, pending.bytes.reverse, .continuationByte⟩

def decode (bytes : List UInt8) : Except Fault Text := decodeFrom 0 none bytes

/-- The size of a character that the end of some bytes cuts off, given these bytes last first. -/
def cutSize (bytes : List UInt8) : Nat :=
  let following := (bytes.takeWhile isContinuation).length
  match (bytes.drop following).head?.bind shape? with
  | some (missing, _) => if following < missing then following + 1 else 0
  | none => 0

/-- The index of the byte that shows a fault; none if it is the end that shows it. Half of a surrogate
is taken to its last byte. -/
def Fault.index? (bytes : List UInt8) (fault : Fault) : Option Nat :=
  let next := fault.position + fault.bytes.length
  match fault.flaw with
  | .startByte => some fault.position
  | .continuationByte =>
      if fault.bytes = [0xed] && bytes[next]?.any isContinuation then
        if next + 1 < bytes.length then some (next + 1) else none
      else some next
  | .endOfData => none

/-- A fault in bytes that are read in pieces. Its position is counted from the piece that shows it; what
is left over from the piece before, because it was cut off there, comes first. -/
def Fault.inPieces (size : Nat) (bytes : List UInt8) (fault : Fault) : Fault :=
  match fault.index? bytes with
  | none => { fault with position := 0 }
  | some index =>
      let start := index / size * size
      let left := cutSize ((bytes.take start).reverse.take 3)
      { fault with position := fault.position + left - start }

/-- The size of the pieces in which files are read. -/
def pieceSize : Nat := 8192

end Utf8

end RichText.Text
