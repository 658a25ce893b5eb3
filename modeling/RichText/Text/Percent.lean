import RichText.Text.Numeral
import RichText.Text.Utf8

/-!
Percent-encoding: characters that a URL cannot hold are written by their bytes.
-/

namespace RichText.Text

def percentByte (byte : UInt8) : Text := '%' :: (hexDigits 2 byte.toNat).map Char.toUpper

def isUnreserved (char : Char) : Bool :=
  isAsciiLetter char || isAsciiDigit char || char ∈ ("-._~" : Text)

/-- Characters with a meaning in URLs, which stay as they are. -/
def urlSigns : Text := ":/?#@!$&()*+,;=%"

/-- A URL with everything but unreserved characters and signs percent-encoded. Percent signs stay, so
that what is encoded already stays as it is. -/
def percentEncoded (url : Text) : Text :=
  url.flatMap fun char =>
    if isUnreserved char || char ∈ urlSigns then [char]
    else (String.utf8EncodeChar char).flatMap percentByte

end RichText.Text
