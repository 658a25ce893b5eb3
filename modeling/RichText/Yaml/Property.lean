import RichText.Text.Reference
import RichText.Text.Utf8
import RichText.Yaml.Position
import RichText.Yaml.Token

/-!
Names of anchors, tags and directives. Each reader tells how many characters it takes.
-/

namespace RichText.Yaml

/-- The name of an anchor or an alias, after its sign. -/
def anchorName (text : Text) : Except Fault Text :=
  let name := text.takeWhile isWordChar
  let rest := text.drop name.length
  if name.isEmpty then .error .invalidName
  else if endsWord rest || rest.head?.any fun char => char ∈ ("?:,]\x7d%@\x60" : Text) then
    .ok name
  else .error .invalidName

/-- The end of a handle, after its first exclamation mark. -/
def handleEnd (text : Text) : Except Fault Text :=
  let name := text.takeWhile isWordChar
  match text.drop name.length with
  | '!' :: _ => .ok (name ++ ['!'])
  | _ => .error .invalidTag

def isTagChar (char : Char) : Bool :=
  isWordChar char || char ∈ ("%;/?:@&=+$,.!~*'()[]" : Text)

/-- The bytes that percent signs with two digits each stand for. -/
def percentBytes : Text → Except Fault (List UInt8)
  | [] => .ok []
  | '%' :: high :: low :: rest =>
      if Text.Reference.isHexDigit high && Text.Reference.isHexDigit low then
        (percentBytes rest).map (UInt8.ofNat (Text.Reference.valueOf 16 [high, low]) :: ·)
      else .error .invalidTag
  | _ => .error .invalidTag

/-- A part of a tag in which percent-encoding is undone, three characters at a time. -/
def decodedTag (encoded : Text) : Text → Except Fault Text
  | [] => flush encoded
  | '%' :: high :: low :: rest => decodedTag (encoded ++ ['%', high, low]) rest
  | '%' :: _ => .error .invalidTag
  | char :: rest => do
      let start ← flush encoded
      let others ← decodedTag [] rest
      return start ++ char :: others
where
  flush (encoded : Text) : Except Fault Text := do
    let bytes ← percentBytes encoded
    (Text.Utf8.decode bytes).mapError fun _ => .invalidTag

/-- The characters of a tag and what they stand for. -/
def tagPart (text : Text) : Except Fault (Text × Nat) :=
  let part := text.takeWhile isTagChar
  if part.isEmpty then .error .invalidTag
  else (decodedTag [] part).map fun decoded => (decoded, part.length)

structure TagText where
  handle : Option Text
  suffix : Text
  size : Nat

/-- A tag after its exclamation mark. -/
def tagText (text : Text) : Except Fault TagText := do
  let tag ←
    match text with
    | '<' :: rest =>
        let (suffix, size) ← tagPart rest
        match rest.drop size with
        | '>' :: _ => pure ⟨none, suffix, size + 2⟩
        | _ => throw .invalidTag
    | text =>
        if endsWord text then pure ⟨none, "!", 0⟩
        else if (text.takeWhile fun char => !endsPart [char]).contains '!' then
          let handle ← handleEnd text
          let (suffix, size) ← tagPart (text.drop handle.length)
          pure ⟨some ('!' :: handle), suffix, handle.length + size⟩
        else
          let (suffix, size) ← tagPart text
          pure ⟨some "!", suffix, size⟩
  if endsPart (text.drop tag.size) then return tag else throw .invalidTag

def skipSpaces (text : Text) : Text := text.dropWhile (· = ' ')

def versionOf (text : Text) : Except Fault Directive :=
  let major := text.takeWhile Text.isAsciiDigit
  match text.drop major.length with
  | '.' :: rest =>
      let minor := rest.takeWhile Text.isAsciiDigit
      if major.isEmpty || minor.isEmpty || !endsPart (rest.drop minor.length) then
        .error .invalidDirective
      else
        .ok (.version (Text.Reference.valueOf 10 major) (Text.Reference.valueOf 10 minor))
  | _ => .error .invalidDirective

/-- What follows the value of a directive: spaces and a comment. -/
def isDirectiveEnd (text : Text) : Bool :=
  let rest := skipSpaces text
  rest.isEmpty || rest.head? = some '#'

def versionDirective (text : Text) : Except Fault Directive := do
  let value := (skipSpaces text).takeWhile fun char => char ≠ ' '
  let rest := (skipSpaces text).drop value.length
  let version ← versionOf value
  if isDirectiveEnd rest then return version else throw .invalidDirective

def handleDirective (text : Text) : Except Fault Directive := do
  match skipSpaces text with
  | '!' :: rest =>
      let ending ← if rest.head? = some ' ' then pure [] else handleEnd rest
      let rest := rest.drop ending.length
      if rest.head? ≠ some ' ' then throw .invalidDirective
      let (start, size) ← tagPart (skipSpaces rest)
      let rest := (skipSpaces rest).drop size
      if endsPart rest && isDirectiveEnd rest then return .handle ('!' :: ending) start
      else throw .invalidDirective
  | _ => throw .invalidDirective

/-- A directive, given as its line after the percent sign. Unknown ones are passed over. -/
def directiveOf (line : Text) : Except Fault Directive := do
  let name := line.takeWhile isWordChar
  let rest := line.drop name.length
  if name.isEmpty || !endsPart rest then throw .invalidDirective
  else if name = "YAML" then versionDirective rest
  else if name = "TAG" then handleDirective rest
  else return .other

end RichText.Yaml
