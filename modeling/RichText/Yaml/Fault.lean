import RichText.Number.Integer
import RichText.Value.Spelling

/-!
What is wrong with YAML text. Most faults are of the text itself; a few arise only when a scalar with
a readable form has no value, such as the thirteenth month of a year.
-/

namespace RichText.Yaml

/-- A scalar without a value. -/
inductive ScalarFault
  | notATruthValue
  | emptyNumber
  | notAnInteger (base : Nat) (digits : Text)
  | tooManyDigits (count : Nat)
  | notAFloat (numeral : Text)
  | notATime
  /-- A time is asked for where a mapping gives a scalar. -/
  | timeInMapping
  | year (year : Nat)
  | month
  | day
  | hour
  | minute
  | second
  /-- An offset from universal time of a day or more, in seconds. -/
  | offset (seconds : Int)
  /-- An escape sequence for a code point beyond the last one. -/
  | codePoint
  deriving DecidableEq, Repr

def ScalarFault.message : ScalarFault → Text
  | .notATruthValue => "not a truth value"
  | .emptyNumber => "a number without digits"
  | .notAnInteger base digits =>
      "invalid literal for int() with base " ++ Text.ofNat base ++ ": " ++
        (Text.quoted digits).take 200
  | .tooManyDigits count =>
      "Exceeds the limit (" ++ Text.ofNat Integer.digitLimit ++
        " digits) for integer string conversion: value has " ++ Text.ofNat count ++
        " digits; use sys.set_int_max_str_digits() to increase the limit"
  | .notAFloat numeral => "could not convert string to float: " ++ Text.quoted numeral
  | .notATime => "not a date or a time"
  | .timeInMapping => "a date or a time cannot be given by a mapping"
  | .year number => "year " ++ Text.ofNat number ++ " is out of range"
  | .month => "month must be in 1..12"
  | .day => "day is out of range for month"
  | .hour => "hour must be in 0..23"
  | .minute => "minute must be in 0..59"
  | .second => "second must be in 0..59"
  | .offset seconds =>
      "offset must be a timedelta strictly between -timedelta(hours=24) and " ++
        "timedelta(hours=24), not " ++ Instant.durationText seconds
  | .codePoint => "chr() arg not in range(0x110000)"

inductive Fault
  | unprintable
  /-- What has to be a key is not followed by a colon. -/
  | keyWithoutColon
  | entryNotAllowed
  | keyNotAllowed
  | valueNotAllowed
  /-- A character that begins no token. -/
  | unknownStart
  | invalidDirective
  | invalidName
  | invalidTag
  | invalidEscape
  | invalidBlockHeader
  | unclosedQuote
  | documentMarkInQuotes
  | unexpectedToken
  | undefinedHandle
  | undefinedAlias
  | duplicateAnchor
  | anotherDocument
  | unknownTag
  /-- A tag on a node of another shape. -/
  | wrongShape
  | invalidMerge
  /-- Bytes are not written as they should. -/
  | invalidBytes
  /-- Collections are nested too deeply, or go round in a circle where a scalar is asked for. -/
  | tooDeep
  /-- A collection is used as a key. -/
  | unhashableKey
  | scalar (fault : ScalarFault)
  deriving DecidableEq, Repr

end RichText.Yaml
