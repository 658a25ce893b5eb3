import RichText.Text.Reference
import RichText.Yaml.Fault
import RichText.Yaml.Position

/-!
Dates and instants as YAML writes them. A date alone has two digits for month and day; before a time
of day one digit is enough. A time may have a fraction of a second and an offset from universal time.
-/

namespace RichText.Yaml.Timestamp

/-- An offset from universal time as written. -/
structure Zone where
  negative : Bool
  hours : Nat
  minutes : Nat

structure Time where
  hour : Nat
  minute : Nat
  second : Nat
  fraction : Text
  zone : Option Zone

/-- A date, and a time if there is one, as written. -/
structure Parts where
  year : Nat
  month : Nat
  day : Nat
  /-- Whether month and day have two digits each. -/
  full : Bool
  time : Option Time

/-- A number of at least some digits and at most some digits: its value, its size, and the rest. -/
def number? (least most : Nat) (text : Text) : Option (Nat × Nat × Text) :=
  let digits := (text.take most).takeWhile Text.isAsciiDigit
  if digits.length < least then none
  else some (Text.Reference.valueOf 10 digits, digits.length, text.drop digits.length)

def after? (char : Char) : Text → Option Text
  | [] => none
  | first :: rest => if first = char then some rest else none

def zoneMinutes? : Text → Option Nat
  | [] => some 0
  | ':' :: rest => do
      let (minutes, _, rest) ← number? 2 2 rest
      if rest.isEmpty then some minutes else none
  | _ => none

/-- What follows the second and its fraction: nothing, or a zone after blanks. -/
def zone? (text : Text) : Option (Option Zone) :=
  match text, text.dropWhile isBlank with
  | [], _ => some none
  | _, ['Z'] => some (some ⟨false, 0, 0⟩)
  | _, sign :: rest => do
      if sign ≠ '+' && sign ≠ '-' then none
      else
        let (hours, _, rest) ← number? 1 2 rest
        let minutes ← zoneMinutes? rest
        return some ⟨sign = '-', hours, minutes⟩
  | _, [] => none

def time? (text : Text) : Option Time := do
  let (hour, _, rest) ← number? 1 2 text
  let (minute, _, rest) ← number? 2 2 (← after? ':' rest)
  let (second, _, rest) ← number? 2 2 (← after? ':' rest)
  let (fraction, rest) :=
    match rest with
    | '.' :: rest => (rest.takeWhile Text.isAsciiDigit, rest.dropWhile Text.isAsciiDigit)
    | rest => ([], rest)
  let zone ← zone? rest
  return ⟨hour, minute, second, fraction, zone⟩

/-- The part after a date: nothing, or a time after a letter T or blanks. -/
def timePart? (text : Text) : Option (Option Time) :=
  match text with
  | [] => some none
  | char :: rest =>
      if char = 'T' || char = 't' then (time? rest).map some
      else if isBlank char then (time? (rest.dropWhile isBlank)).map some
      else none

def parts? (text : Text) : Option Parts := do
  let (year, _, rest) ← number? 4 4 text
  let (month, monthSize, rest) ← number? 1 2 (← after? '-' rest)
  let (day, daySize, rest) ← number? 1 2 (← after? '-' rest)
  let time ← timePart? rest
  return ⟨year, month, day, monthSize = 2 && daySize = 2, time⟩

/-- Whether a plain scalar is a date or an instant. -/
def isTimestamp (text : Text) : Bool :=
  (parts? text).any fun parts => parts.full || parts.time.isSome

def isLeap (year : Nat) : Bool := year % 4 = 0 && (year % 100 ≠ 0 || year % 400 = 0)

def daysIn (year month : Nat) : Nat :=
  if month = 2 then if isLeap year then 29 else 28
  else if month ∈ [4, 6, 9, 11] then 30
  else 31

def date (parts : Parts) : Except ScalarFault Date :=
  if parts.year = 0 then .error (.year 0)
  else if parts.month = 0 || parts.month > 12 then .error .month
  else if parts.day = 0 || parts.day > daysIn parts.year parts.month then .error .day
  else .ok ⟨parts.year, parts.month, parts.day⟩

/-- The microseconds of a fraction. Further digits are dropped. -/
def microseconds (fraction : Text) : Nat :=
  let digits := fraction.take 6
  Text.Reference.valueOf 10 (digits ++ List.replicate (6 - digits.length) '0')

def offset (zone : Zone) : Except ScalarFault Int :=
  let size : Int := zone.hours * 3600 + zone.minutes * 60
  let seconds := if zone.negative then -size else size
  if size < 86400 then .ok seconds else .error (.offset seconds)

def instant (parts : Parts) (time : Time) : Except ScalarFault Instant := do
  let offset ←
    match time.zone with
    | some zone => (offset zone).map some
    | none => pure none
  let date ← date parts
  if time.hour > 23 then throw .hour
  if time.minute > 59 then throw .minute
  if time.second > 59 then throw .second
  return {
    date
    hour := time.hour
    minute := time.minute
    second := time.second
    microsecond := microseconds time.fraction
    offset }

def value (text : Text) : Except ScalarFault Value :=
  match parts? text with
  | none => .error .notATime
  | some parts =>
      match parts.time with
      | none => (date parts).map .date
      | some time => (instant parts time).map .instant

end RichText.Yaml.Timestamp
