import RichText.Value
import RichText.Number.Shortest
import RichText.Text.Quoted

/-!
The text of a value. A text stands for itself; inside a collection, and in messages, it is quoted. A
collection inside of itself is a sign. An integer is written in full, however many digits that takes: the
limit that holds for reading digits is left out here. No decimal digits give such an integer, only digits
in another base.
-/

namespace RichText

namespace Date

def toText (date : Date) : Text :=
  Binary64.padded 4 (Text.ofNat date.year) ++ "-" ++ Binary64.padded 2 (Text.ofNat date.month) ++
    "-" ++ Binary64.padded 2 (Text.ofNat date.day)

end Date

namespace Instant

def twoDigits (number : Nat) : Text := Binary64.padded 2 (Text.ofNat number)

/-- An offset from universal time in hours and minutes, with seconds where there are any. -/
def offsetText (offset : Int) : Text :=
  let size := offset.natAbs
  let sign : Char := if offset < 0 then '-' else '+'
  let seconds : Text := if size % 60 = 0 then [] else ':' :: twoDigits (size % 60)
  sign :: twoDigits (size / 3600) ++ ":" ++ twoDigits (size / 60 % 60) ++ seconds

def toText (instant : Instant) : Text :=
  let fraction : Text :=
    if instant.microsecond = 0 then []
    else '.' :: Binary64.padded 6 (Text.ofNat instant.microsecond)
  let offset : Text := (instant.offset.map offsetText).getD []
  instant.date.toText ++ " " ++ twoDigits instant.hour ++ ":" ++ twoDigits instant.minute ++ ":" ++
    twoDigits instant.second ++ fraction ++ offset

/-- A duration in seconds, as days and seconds. -/
def durationText (duration : Int) : Text :=
  let days : Int := duration.fdiv 86400
  let seconds : Int := duration.fmod 86400
  let parts : List Text :=
    (if days = 0 then [] else ["days=" ++ Text.ofInt days]) ++
      (if seconds = 0 then [] else ["seconds=" ++ Text.ofInt seconds])
  "datetime.timedelta(" ++ (if parts.isEmpty then ("0" : Text) else Text.join ", " parts) ++ ")"

/-- An offset from universal time, as nested values show it. -/
def zoneText (offset : Int) : Text :=
  if offset = 0 then "datetime.timezone.utc"
  else "datetime.timezone(" ++ durationText offset ++ ")"

/-- The numbers of an instant without those at the end that are zero and may be left out. -/
def shownParts (instant : Instant) : List Nat :=
  let date := instant.date
  let always := [date.year, date.month, date.day, instant.hour, instant.minute]
  if instant.microsecond ≠ 0 then always ++ [instant.second, instant.microsecond]
  else if instant.second ≠ 0 then always ++ [instant.second]
  else always

def nested (instant : Instant) : Text :=
  let parts := instant.shownParts.map Text.ofNat
  let zone : List Text :=
    match instant.offset with
    | none => []
    | some offset => ["tzinfo=" ++ zoneText offset]
  "datetime.datetime(" ++ Text.join ", " (parts ++ zone) ++ ")"

end Instant

/-- What stands for a collection inside of itself. -/
def Shape.sign : Shape → Text
  | .list => "[...]"
  | .map => "\x7b...\x7d"
  | .pair => "(...)"

namespace Value

def shape : Value → Shape
  | .map _ => .map
  | .pair .. => .pair
  | _ => .list

mutual

/-- The text of a value inside collections with labels. A sign stands for each of them. -/
def nestedIn (labels : List Nat) : Value → Text
  | .null => "None"
  | .bool value => if value then "True" else "False"
  | .int value => Text.ofInt value
  | .float value => value.toText
  | .text value => Text.quoted value
  | .bytes value => Text.quotedBytes value
  | .date value =>
      "datetime.date(" ++ Text.join ", " ([value.year, value.month, value.day].map Text.ofNat) ++ ")"
  | .instant value => value.nested
  | .list items => "[" ++ Text.join ", " (nestedItems labels items) ++ "]"
  | .set [] => "set()"
  | .set items => '\x7b' :: Text.join ", " (nestedItems labels items) ++ ['\x7d']
  | .map entries => '\x7b' :: Text.join ", " (nestedEntries labels entries) ++ ['\x7d']
  | .pair first second => "(" ++ nestedIn labels first ++ ", " ++ nestedIn labels second ++ ")"
  | .loop label value =>
      if labels.contains label then value.shape.sign else nestedIn (label :: labels) value
  | .again _ shape => shape.sign

def nestedItems (labels : List Nat) : List Value → List Text
  | [] => []
  | item :: items => nestedIn labels item :: nestedItems labels items

def nestedEntries (labels : List Nat) : List (Value × Value) → List Text
  | [] => []
  | (key, value) :: entries =>
      (nestedIn labels key ++ ": " ++ nestedIn labels value) :: nestedEntries labels entries

end

/-- The text of a value inside another one. -/
def nested (value : Value) : Text := nestedIn [] value

/-- The text of a value on its own. -/
def toText : Value → Text
  | .text value => value
  | .date value => value.toText
  | .instant value => value.toText
  | value => value.nested

end Value

end RichText
