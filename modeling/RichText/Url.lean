import RichText.Text.Case
import RichText.Text.Numeral
import RichText.Text.Reference
import RichText.Traced

/-!
Link addresses: which host an absolute address names, and whether that host is part of a site. An
address whose host cannot be read counts as internal, and a notice says why.
-/

namespace RichText.Url

/-- Why the host of an address cannot be read. -/
inductive Fault
  | unbalancedBrackets
  | futureAddress
  | notAnAddress (host : Text)
  | bracketedIpv4
  | disguisedDelimiter (authority : Text)
  deriving DecidableEq, Repr

def Fault.message : Fault → Text
  | .unbalancedBrackets => "Invalid IPv6 URL"
  | .futureAddress => "IPvFuture address is invalid"
  | .notAnAddress host => Text.quoted host ++ " does not appear to be an IPv4 or IPv6 address"
  | .bracketedIpv4 => "An IPv4 address cannot be in brackets"
  | .disguisedDelimiter authority =>
      "netloc '" ++ authority ++ "' contains invalid characters under NFKC normalization"

/-- An address that only lacks its scheme gets a secure one. -/
def normalized : Text → Text
  | '/' :: '/' :: rest => "https://" ++ rest
  | url => url

/-! ## Numeric hosts -/

def isOctet (digits : Text) : Bool :=
  !digits.isEmpty && digits.all Text.isAsciiDigit && digits.length ≤ 3 &&
    (digits = "0" || digits.head? ≠ some '0') && Text.Reference.valueOf 10 digits ≤ 255

def isIpv4 (host : Text) : Bool :=
  let octets := Text.pieces (· = '.') host
  octets.length = 4 && octets.all isOctet

def isHextet (digits : Text) : Bool :=
  !digits.isEmpty && digits.all Text.Reference.isHexDigit && digits.length ≤ 4

/-- The groups around one gap, which stands for at least one group of zeros. -/
def areGroupsAroundGap (before after : List Text) : Bool :=
  let before := if before = [[]] then [] else before
  let after := if after = [[]] then [] else after
  before.length + after.length ≤ 7 && before.all isHextet && after.all isHextet

/-- The place of the first empty group that is neither the first nor the last group. -/
def gap? (groups : List Text) : Option Nat :=
  ((groups.drop 1).dropLast.findIdx? (·.isEmpty)).map (· + 1)

def areGroups (groups : List Text) : Bool :=
  groups.length ≤ 9 &&
    match gap? groups with
    | some place => areGroupsAroundGap (groups.take place) (groups.drop (place + 1))
    | none => groups.length = 8 && groups.all isHextet

/-- The groups with a dotted address at the end as two of them. -/
def withoutDotted? (groups : List Text) : Option (List Text) :=
  match groups.getLast? with
  | none => none
  | some last =>
      if last.contains '.' then
        if isIpv4 last then some (groups.dropLast ++ [("0" : Text), "0"]) else none
      else some groups

def isZone : Text → Bool
  | [] => true
  | _ :: zone => !zone.isEmpty && !zone.contains '%'

def isIpv6 (host : Text) : Bool :=
  let groups := Text.pieces (· = ':') (host.takeWhile (· ≠ '%'))
  isZone (host.dropWhile (· ≠ '%')) && groups.length ≥ 3 &&
    match withoutDotted? groups with
    | some groups => areGroups groups
    | none => false

/-- An address of a later version: `v`, hexadecimal digits, a point and at least one character. -/
def isFutureAddress : Text → Bool
  | 'v' :: rest =>
      match rest.dropWhile Text.Reference.isHexDigit with
      | '.' :: _ :: _ => !(rest.takeWhile Text.Reference.isHexDigit).isEmpty
      | _ => false
  | _ => false

def checkBracketed (host : Text) : Except Fault Unit :=
  if host.head? = some 'v' then
    if isFutureAddress host then .ok () else .error .futureAddress
  else if isIpv4 host then .error .bracketedIpv4
  else if isIpv6 host then .ok ()
  else .error (.notAnAddress host)

/-! ## Parts of an address -/

def isSchemeChar (char : Char) : Bool :=
  Text.isAsciiLetter char || Text.isAsciiDigit char || char = '+' || char = '-' || char = '.'

/-- The scheme in small letters, empty if there is none, and what follows it. -/
def splitScheme (url : Text) : Text × Text :=
  let scheme := url.takeWhile (· ≠ ':')
  match url.dropWhile (· ≠ ':'), scheme with
  | _ :: rest, first :: _ =>
      if Text.isAsciiLetter first && scheme.all isSchemeChar then (Text.lower scheme, rest)
      else ([], url)
  | _, _ => ([], url)

def endsAuthority (char : Char) : Bool := char = '/' || char = '?' || char = '#'

/-- The part that names the host, empty where there is none. -/
def authority : Text → Text
  | '/' :: '/' :: rest => rest.takeWhile fun char => !endsAuthority char
  | _ => []

/-- Characters that stand for a text with a delimiter in it. -/
def disguises : List Char := [
  '\u2047', '\u2048', '\u2049', '\u2100', '\u2101', '\u2105', '\u2106', '\u2a74', '\ufe13',
  '\ufe16', '\ufe55', '\ufe56', '\ufe5f', '\ufe6b', '\uff03', '\uff0f', '\uff1a', '\uff1f',
  '\uff20']

def after (separator : Char) (text : Text) : Text := (text.dropWhile (· ≠ separator)).drop 1

def checkAuthority (authority : Text) : Except Fault Unit := do
  if authority.contains '[' ≠ authority.contains ']' then
    throw .unbalancedBrackets
  if authority.contains '[' then
    checkBracketed ((after '[' authority).takeWhile (· ≠ ']'))
  if authority.any disguises.contains then
    throw (.disguisedDelimiter authority)

/-- The text after the last separator, all of it where there is none. -/
def afterLast (separator : Char) (text : Text) : Text :=
  (text.reverse.takeWhile (· ≠ separator)).reverse

/-- The host that an authority names, in small letters. -/
def hostOf (authority : Text) : Text :=
  let place := afterLast '@' authority
  Text.lower
    (if place.contains '[' then (after '[' place).takeWhile (· ≠ ']')
    else place.takeWhile (· ≠ ':'))

/-- Leading controls and spaces, and line breaks and tabulators anywhere, are no part of an address. -/
def cleaned (url : Text) : Text :=
  (url.dropWhile fun char => char.toNat ≤ 32).filter fun char =>
    !(char = '\t' || char = '\n' || char = '\r')

def schemeAndHost (url : Text) : Except Fault (Text × Text) := do
  let (scheme, rest) := splitScheme (cleaned url)
  let authority := authority rest
  checkAuthority authority
  return (scheme, hostOf authority)

/-- Whether a host is a domain or belongs to it. -/
def isWithin (host domain : Text) : Bool :=
  host = domain || Text.endsWith host ('.' :: domain)

/-- Whether a scheme and a host lead away from a site. Without a site every web address does. -/
def leadsAway (scheme host : Text) (siteDomain : Option Text) : Bool :=
  if scheme = "http" || scheme = "https" then
    match siteDomain.filter fun domain => !domain.isEmpty with
    | none => true
    | some domain => !isWithin host ((Text.lower domain).dropWhile (· = '.'))
  else false

def isExternal (url : Text) (siteDomain : Option Text) : Noted Bool :=
  match schemeAndHost (normalized url) with
  | .ok (scheme, host) => pure (leadsAway scheme host siteDomain)
  | .error fault => do
      Noted.note (.malformedUrl url fault.message)
      return false

end RichText.Url
