import RichText.Yaml.Property
import RichText.Yaml.ScalarText
import RichText.Yaml.Token

/-!
YAML text as tokens. Whether something is a key shows only at the colon after it, so its place is
remembered, and the tokens for the key, and for the mapping that it may begin, are put in there. A key
has to end on its line and may have at most 1024 characters.
-/

namespace RichText.Yaml

/-- The most characters from the start of a key to its colon. -/
def keyLimit : Nat := 1024

/-- A place at which a key may have begun. -/
structure KeyPlace where
  /-- How many tokens come before it. -/
  token : Nat
  /-- Whether nothing but a key can stand there. -/
  required : Bool
  position : Position

structure Scanner where
  position : Position := {}
  /-- The indentation of the innermost block collection, or less than zero. -/
  indent : Int := -1
  /-- The indentations around it, the innermost first. -/
  outerIndents : List Int := []
  keyAllowed : Bool := true
  /-- The possible key in the innermost flow collection, or outside of any. -/
  keyPlace : Option KeyPlace := none
  /-- The possible keys around each open flow collection, the innermost first. -/
  outerKeys : List (Option KeyPlace) := []
  /-- The tokens, last first, and how many they are. -/
  tokens : List Token := []
  count : Nat := 0

namespace Scanner

def inFlow (scanner : Scanner) : Bool := !scanner.outerKeys.isEmpty

def column (scanner : Scanner) : Nat := scanner.position.column

def push (scanner : Scanner) (token : Token) : Scanner :=
  { scanner with tokens := token :: scanner.tokens, count := scanner.count + 1 }

/-- Puts a token in after a number of tokens. -/
def insertAt (scanner : Scanner) (place : Nat) (token : Token) : Scanner :=
  let later := scanner.count - place
  { scanner with
    tokens := scanner.tokens.take later ++ token :: scanner.tokens.drop later
    count := scanner.count + 1 }

def KeyPlace.isStale (position : Position) (place : KeyPlace) : Bool :=
  place.position.line ≠ position.line || position.index - place.position.index > keyLimit

/-- A place that can still hold a key. One that has to, and cannot, is a fault. -/
def refreshed (position : Position) (place : Option KeyPlace) : Except Fault (Option KeyPlace) :=
  match place with
  | none => .ok none
  | some found =>
      if !KeyPlace.isStale position found then .ok place
      else if found.required then .error .keyWithoutColon
      else .ok none

def dropStaleKeys (scanner : Scanner) : Except Fault Scanner := do
  let keyPlace ← refreshed scanner.position scanner.keyPlace
  let outerKeys ← scanner.outerKeys.mapM (refreshed scanner.position)
  return { scanner with keyPlace, outerKeys }

def dropKey (scanner : Scanner) : Except Fault Scanner :=
  if scanner.keyPlace.any fun place => place.required then .error .keyWithoutColon
  else .ok { scanner with keyPlace := none }

/-- Remembers that a key may begin here. -/
def markKey (scanner : Scanner) : Except Fault Scanner := do
  if scanner.keyAllowed then
    let scanner ← scanner.dropKey
    let required := !scanner.inFlow && scanner.indent = scanner.column
    return { scanner with keyPlace := some ⟨scanner.count, required, scanner.position⟩ }
  else return scanner

/-- Closes block collections that are indented further than a column. -/
def closeBlocks (column : Int) : List Int → Scanner → Scanner
  | [], scanner => scanner
  | outer :: others, scanner =>
      if scanner.indent > column then
        closeBlocks column others
          { scanner.push .blockEnd with indent := outer, outerIndents := others }
      else scanner

def unwind (scanner : Scanner) (column : Int) : Scanner :=
  if scanner.inFlow then scanner else closeBlocks column scanner.outerIndents scanner

/-- Opens a block collection at a column, unless one is open there. -/
def openBlock (scanner : Scanner) (column place : Nat) (token : Token) : Scanner :=
  if scanner.indent < column then
    { scanner with
      indent := column
      outerIndents := scanner.indent :: scanner.outerIndents }.insertAt place token
  else scanner

def endStream (scanner : Scanner) : Except Fault Scanner := do
  let scanner ← (scanner.unwind (-1)).dropKey
  return scanner.push .streamEnd

/-- A mark or a directive, which stands outside of documents. -/
def betweenDocuments (scanner : Scanner) (token : Token) : Except Fault Scanner := do
  let scanner ← (scanner.unwind (-1)).dropKey
  return { scanner with keyAllowed := false }.push token

def openFlow (scanner : Scanner) (token : Token) : Except Fault Scanner := do
  let scanner ← scanner.markKey
  return { scanner with
    keyPlace := none
    outerKeys := scanner.keyPlace :: scanner.outerKeys
    keyAllowed := true }.push token

def closeFlow (scanner : Scanner) (token : Token) : Except Fault Scanner := do
  let scanner ← scanner.dropKey
  return { scanner with
    keyPlace := scanner.outerKeys.head?.join
    outerKeys := scanner.outerKeys.tail
    keyAllowed := false }.push token

def flowEntry (scanner : Scanner) : Except Fault Scanner := do
  let scanner ← scanner.dropKey
  return { scanner with keyAllowed := true }.push .flowEntry

def blockEntry (scanner : Scanner) : Except Fault Scanner := do
  if !scanner.inFlow && !scanner.keyAllowed then throw .entryNotAllowed
  let scanner :=
    if scanner.inFlow then scanner
    else scanner.openBlock scanner.column scanner.count .blockSequenceStart
  let scanner ← scanner.dropKey
  return { scanner with keyAllowed := true }.push .blockEntry

def explicitKey (scanner : Scanner) : Except Fault Scanner := do
  if !scanner.inFlow && !scanner.keyAllowed then throw .keyNotAllowed
  let scanner :=
    if scanner.inFlow then scanner
    else scanner.openBlock scanner.column scanner.count .blockMappingStart
  let scanner ← scanner.dropKey
  return { scanner with keyAllowed := !scanner.inFlow }.push .key

/-- A colon. What stands at the remembered place turns out to be its key. -/
def valueAfterColon (scanner : Scanner) : Except Fault Scanner := do
  match scanner.keyPlace with
  | some place =>
      let scanner := { scanner with keyPlace := none, keyAllowed := false }
      let scanner := scanner.insertAt place.token .key
      let scanner :=
        if scanner.inFlow then scanner
        else scanner.openBlock place.position.column place.token .blockMappingStart
      return scanner.push .value
  | none =>
      if !scanner.inFlow && !scanner.keyAllowed then throw .valueNotAllowed
      let scanner :=
        if scanner.inFlow then scanner
        else scanner.openBlock scanner.column scanner.count .blockMappingStart
      return { scanner with keyAllowed := !scanner.inFlow }.push .value

/-- A token that may be a key. -/
def possibleKey (scanner : Scanner) (token : Token) : Except Fault Scanner := do
  let scanner ← scanner.markKey
  return { scanner with keyAllowed := false }.push token

/-- Block scalars are never keys, and a key may follow them. -/
def blockScalar (scanner : Scanner) (text : Text) : Except Fault Scanner := do
  let scanner ← scanner.dropKey
  return { scanner with keyAllowed := true }.push (.scalar text false)

/-- Whether a plain scalar begins with a character. -/
def startsPlain (inFlow : Bool) (char : Char) (rest : Text) : Bool :=
  let plainAnyway :=
    !isBlank char && !isBreak char && char ∉ ("-?:,[]\x7b\x7d#&*!|>'\"%@\x60" : Text)
  plainAnyway || (!endsWord rest && (char = '-' || (!inFlow && (char = '?' || char = ':'))))

def atLineStart (scanner : Scanner) : Bool := scanner.column = 0

/-- The token that a character begins, and how many further characters it takes. -/
def fetch (scanner : Scanner) (char : Char) (rest : Text) : Except Fault (Scanner × Nat) := do
  let alone (scanner : Except Fault Scanner) : Except Fault (Scanner × Nat) :=
    scanner.map fun scanner => (scanner, 0)
  let inFlow := scanner.inFlow
  let standsAlone := inFlow || endsWord rest
  if char = '%' && scanner.atLineStart then
    let line := rest.takeWhile fun char => !isBreak char
    let directive ← directiveOf line
    let scanner ← scanner.betweenDocuments (.directive directive)
    return (scanner, line.length)
  else if scanner.atLineStart && isDocumentStart (char :: rest) then
    return (← scanner.betweenDocuments .documentStart, 2)
  else if scanner.atLineStart && isDocumentEnd (char :: rest) then
    return (← scanner.betweenDocuments .documentEnd, 2)
  else if char = '[' then alone (scanner.openFlow .flowSequenceStart)
  else if char = '\x7b' then alone (scanner.openFlow .flowMappingStart)
  else if char = ']' then alone (scanner.closeFlow .flowSequenceEnd)
  else if char = '\x7d' then alone (scanner.closeFlow .flowMappingEnd)
  else if char = ',' then alone scanner.flowEntry
  else if char = '-' && endsWord rest then alone scanner.blockEntry
  else if char = '?' && standsAlone then alone scanner.explicitKey
  else if char = ':' && standsAlone then alone scanner.valueAfterColon
  else if char = '*' then
    let name ← anchorName rest
    return (← scanner.possibleKey (.alias name), name.length)
  else if char = '&' then
    let name ← anchorName rest
    return (← scanner.possibleKey (.anchor name), name.length)
  else if char = '!' then
    let tag ← tagText rest
    return (← scanner.possibleKey (.tag tag.handle tag.suffix), tag.size)
  else if (char = '|' || char = '>') && !inFlow then
    let least := max 1 (scanner.indent + 1).toNat
    let (text, size) ← blockText (char = '>') least rest
    return (← scanner.blockScalar text, size)
  else if char = '\x27' || char = '"' then
    let (text, size) ← quotedText char rest
    return (← scanner.possibleKey (.scalar text false), size)
  else if startsPlain inFlow char rest then
    let plain := plainText inFlow (scanner.indent + 1).toNat (char :: rest)
    let scanner ← scanner.possibleKey (.scalar plain.text true)
    return ({ scanner with keyAllowed := plain.broken }, plain.size - 1)
  else throw .unknownStart

end Scanner

/-- The size of spaces, comments and line breaks between tokens. -/
def gapSize (inComment : Bool) : Text → Nat
  | [] => 0
  | char :: rest =>
      if isBreak char then gapSize false rest + 1
      else if inComment then gapSize true rest + 1
      else if char = ' ' then gapSize false rest + 1
      else if char = '#' then gapSize true rest + 1
      else 0

namespace Scanner

/-- Passes over a gap. A line break outside of flow collections allows a key. -/
def passGap (scanner : Scanner) (gap : Text) : Scanner :=
  { scanner with
    position := scanner.position.after gap
    keyAllowed := scanner.keyAllowed || (!scanner.inFlow && gap.any isBreak) }

/-- The next token, for which a character is read. -/
def read (scanner : Scanner) (char : Char) (rest : Text) : Except Fault (Scanner × Nat) := do
  let scanner ← scanner.dropStaleKeys
  let (scanner, size) ← (scanner.unwind scanner.column).fetch char rest
  return ({ scanner with position := scanner.position.after (char :: rest.take size) }, size)

def finish (scanner : Scanner) (outcome : Except Fault Scanner) : List Token :=
  match outcome with
  | .ok scanner => scanner.tokens.reverse
  | .error fault => (scanner.push (.fault fault)).tokens.reverse

/-- All tokens of a text, up to the first fault. -/
def run (scanner : Scanner) (text : Text) : List Token :=
  let size := gapSize false text
  let scanner := scanner.passGap (text.take size)
  match _next : text.drop size with
  | [] => scanner.finish (scanner.dropStaleKeys >>= endStream)
  | char :: rest =>
      match scanner.read char rest with
      | .error fault => scanner.finish (.error fault)
      | .ok (next, more) => next.run (rest.drop more)
termination_by text.length
decreasing_by
  have length := congrArg List.length _next
  simp only [List.length_drop, List.length_cons] at length
  simp only [List.length_drop]
  omega

end Scanner

/-- The tokens of a text. A byte order mark at its start is passed over. -/
def tokens (text : Text) : List Token :=
  match text with
  | '\ufeff' :: rest => ({ position := { index := 1 } } : Scanner).run rest
  | text => ({} : Scanner).run text

end RichText.Yaml
