import RichText.Text.Slug
import RichText.Traced

/-!
Matching a key hint against the keys of a table. A key may be meant as a whole, as a word of the hint,
as its beginning, or as any part of it; the closest of these rules that some key satisfies decides,
and under one rule the earliest key.
-/

namespace RichText.KeyMatch

inductive Rule
  | exact
  | word
  | start
  | part
  deriving DecidableEq, Repr

namespace Rule

/-- The rules from the closest to the loosest. -/
def all : List Rule := [.exact, .word, .start, .part]

def name : Rule → Text
  | .exact => "exact"
  | .word => "word"
  | .start => "prefix"
  | .part => "substring"

/-- Whether a key is meant by a hint under a rule. -/
def holds (hint key : Text) : Rule → Bool
  | .exact => hint = key
  | .word => (Text.words Text.isAnchorSeparator hint).contains key
  | .start => Text.startsWith hint key
  | .part => Text.hasPart key hint

end Rule

/-- The form in which hints and keys are compared. -/
def normal (text : Text) : Text := Text.lower (Text.trim text)

/-- The keys in normal form, without repetition and without empty ones. -/
def normalKeys (keys : List Text) : List Text :=
  Text.distinct ((keys.map normal).filter fun key => !key.isEmpty)

/-- The first rule and, for it, the first key that a hint means. -/
def find? (hint : Text) (keys : List Text) : Option (Rule × Text) :=
  Rule.all.findSome? fun rule =>
    (keys.find? fun key => rule.holds hint key).map fun key => (rule, key)

/-- Keys that a hint may mean: in the order in which they are tried, or as a set, which has no order of its
own. -/
inductive Known
  | inOrder (keys : List Text)
  | set (keys : List Text)

/-- The keys as they are tried; those of a set by their code points. -/
def Known.keys : Known → List Text
  | .inOrder keys => keys
  | .set keys => Text.sorted keys

/-- The key that a hint means, if any. -/
def resolve (hint : Text) (keys : List Text) : Noted (Option Text) :=
  let hint := normal hint
  let keys := normalKeys keys
  if hint.isEmpty || keys.isEmpty then pure none
  else
    match find? hint keys with
    | some (rule, key) => do
        Noted.note (.keyResolved hint key rule.name)
        return some key
    | none => do
        Noted.note (.keyUnmatched hint keys)
        return none

/-- The key among known ones that a hint means, if there is a hint. -/
def resolveAmong (hint : Option Text) (known : Known) : Noted (Option Text) :=
  match hint with
  | none => pure none
  | some hint => resolve hint known.keys

end RichText.KeyMatch
