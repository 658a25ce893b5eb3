import RichText.Text.Printable

/-!
Quoted text, as messages and nested values show it: between single quotes, or between double quotes
where the text holds a single quote and no double one. Backslashes, the quote in use and characters
without a visible form are escaped.
-/

namespace RichText.Text

def hexDigits (width code : Nat) : Text :=
  let digits := Nat.toDigits 16 code
  List.replicate (width - digits.length) '0' ++ digits

def quoteChar (quote char : Char) : Text :=
  if char = quote || char = '\\' then ['\\', char]
  else if char = '\t' then "\\t"
  else if char = '\n' then "\\n"
  else if char = '\r' then "\\r"
  else if isPrintable char then [char]
  else if char.toNat < 0x100 then "\\x" ++ hexDigits 2 char.toNat
  else if char.toNat < 0x10000 then "\\u" ++ hexDigits 4 char.toNat
  else "\\U" ++ hexDigits 8 char.toNat

/-- The quote that a text is written with. -/
def quoteFor (text : Text) : Char :=
  if text.contains '\x27' && !text.contains '"' then '"' else '\x27'

def quoted (text : Text) : Text :=
  let quote := quoteFor text
  quote :: text.flatMap (quoteChar quote) ++ [quote]

/-- Bytes of characters with a visible form of their own are shown as these. -/
def quoteByte (quote : Char) (byte : UInt8) : Text :=
  if byte < 0x80 then quoteChar quote (Char.ofNat byte.toNat)
  else "\\x" ++ hexDigits 2 byte.toNat

def quotedBytes (bytes : List UInt8) : Text :=
  let quote := quoteFor (bytes.map fun byte => Char.ofNat byte.toNat)
  'b' :: quote :: bytes.flatMap (quoteByte quote) ++ [quote]

end RichText.Text
