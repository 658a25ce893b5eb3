import RichText.Markdown.Token
import RichText.Value.Whole

/-!
Tokens described by values: a mapping with a `type` and the parts that its kind needs. Reading stops
at the first part that is missing or of the wrong kind; what was read before stays.
-/

namespace RichText.Markdown

namespace Token

/-- Why the description of a token cannot be read. -/
inductive Fault
  | missingPart
  | notAMapping
  | codeNotText
  | level (fault : Value.WholeFault)
  deriving DecidableEq, Repr

end Token

/-- What was read, and the fault that ended the reading, if one did. -/
structure Partial (α : Type) where
  value : α
  fault : Option Token.Fault := none

namespace Partial

variable {α β : Type}

def map (change : α → β) (part : Partial α) : Partial β := ⟨change part.value, part.fault⟩

/-- Goes on only if no fault ended the reading. -/
def append (first second : Partial (List α)) : Partial (List α) :=
  match first.fault with
  | some _ => first
  | none => ⟨first.value ++ second.value, second.fault⟩

/-- A part that is read before another one is looked at. -/
def withPart (part : Except Token.Fault α) (next : α → Partial (List β)) : Partial (List β) :=
  match part with
  | .error fault => ⟨[], some fault⟩
  | .ok value => next value

/-- A part that is looked at after the others were read; a fault in it comes after theirs. -/
def withLastPart (first : Partial β) (part : Except Token.Fault α) (default : α)
    (build : α → β → γ) : Partial (List γ) :=
  match first.fault, part with
  | some fault, _ => ⟨[build default first.value], some fault⟩
  | none, .error fault => ⟨[build default first.value], some fault⟩
  | none, .ok value => ⟨[build value first.value], none⟩

end Partial

namespace Token

def part (name : Text) (entries : List (Value × Value)) : Except Fault Value :=
  ((Value.lookup name entries).map .ok).getD (.error .missingPart)

/-- A part of the attributes of a token. -/
def attributePart (name : Text) (entries : List (Value × Value)) : Except Fault Value := do
  match ← part "attrs" entries with
  | .map attributes => part name attributes
  | _ => throw .notAMapping

def typeName (entries : List (Value × Value)) : Except Fault Text :=
  (part "type" entries).map Value.toText

def levelPart (entries : List (Value × Value)) : Except Fault Int := do
  let level ← attributePart "level" entries
  level.whole.mapError .level

def codePart (entries : List (Value × Value)) : Except Fault Text := do
  match ← part "raw" entries with
  | .text raw => return raw
  | _ => throw .codeNotText

def rawPart (entries : List (Value × Value)) : Except Fault Text :=
  (part "raw" entries).map fun raw => if raw.isTruthy then raw.toText else []

/-- A series of tokens that is not a list: only an empty one can be read. -/
def emptySeries? (value : Value) : Option Fault :=
  match value.series? with
  | some [] => none
  | _ => some .notAMapping

mutual

def inlineOf : Value → Partial (List Inline)
  | .map entries =>
      .withPart (typeName entries) fun kind =>
        if kind = "text" then .withPart (rawPart entries) fun raw => ⟨[.text raw], none⟩
        else if kind = "strong" then (inlineContent entries).map fun content => [.strong content]
        else if kind = "emphasis" then
          (inlineContent entries).map fun content => [.emphasis content]
        else if kind = "codespan" then .withPart (rawPart entries) fun raw => ⟨[.code raw], none⟩
        else if kind = "link" then
          .withLastPart (inlineContent entries)
            ((attributePart "url" entries).map Value.toText) [] .link
        else if kind = "softbreak" then ⟨[.softBreak], none⟩
        else if kind = "linebreak" then ⟨[.hardBreak], none⟩
        else ⟨[.other kind], none⟩
  | _ => ⟨[], some .notAMapping⟩

/-- The inline tokens under `children`. -/
def inlineContent : List (Value × Value) → Partial (List Inline)
  | [] => ⟨[], some .missingPart⟩
  | (.text name, .list items) :: entries =>
      if name = "children" then inlinesOf items else inlineContent entries
  | (.text name, value) :: entries =>
      if name = "children" then ⟨[], emptySeries? value⟩ else inlineContent entries
  | _ :: entries => inlineContent entries

def inlinesOf : List Value → Partial (List Inline)
  | [] => ⟨[], none⟩
  | value :: values => .append (inlineOf value) (inlinesOf values)

end

mutual

def blockOf : Value → Partial (List Block)
  | .map entries =>
      .withPart (typeName entries) fun kind =>
        if kind = "paragraph" || kind = "block_text" then
          (inlineContent entries).map fun content => [.paragraph content]
        else if kind = "heading" then
          .withPart (levelPart entries) fun level =>
            (inlineContent entries).map fun content => [.heading level content]
        else if kind = "block_code" then
          .withPart (codePart entries) fun raw => ⟨[.code raw], none⟩
        else if kind = "list" then
          .withLastPart (listItems entries)
            ((attributePart "ordered" entries).map Value.isTruthy) false .list
        else if kind = "block_quote" then
          (blockContent entries).map fun content => [.quote content]
        else if kind = "thematic_break" then ⟨[.rule], none⟩
        else if kind = "blank_line" then ⟨[.blank], none⟩
        else ⟨[.other kind], none⟩
  | _ => ⟨[], some .notAMapping⟩

/-- The block tokens under `children`. -/
def blockContent : List (Value × Value) → Partial (List Block)
  | [] => ⟨[], some .missingPart⟩
  | (.text name, .list items) :: entries =>
      if name = "children" then blocksOf items else blockContent entries
  | (.text name, value) :: entries =>
      if name = "children" then ⟨[], emptySeries? value⟩ else blockContent entries
  | _ :: entries => blockContent entries

/-- The items of a list under `children`; tokens of another kind are no items. -/
def listItems : List (Value × Value) → Partial (List (List Block))
  | [] => ⟨[], some .missingPart⟩
  | (.text name, .list items) :: entries =>
      if name = "children" then itemsOf items else listItems entries
  | (.text name, value) :: entries =>
      if name = "children" then ⟨[], emptySeries? value⟩ else listItems entries
  | _ :: entries => listItems entries

def itemOf : Value → Partial (List (List Block))
  | .map entries =>
      .withPart (typeName entries) fun kind =>
        if kind = "list_item" then (blockContent entries).map fun content => [content]
        else ⟨[], none⟩
  | _ => ⟨[], some .notAMapping⟩

def itemsOf : List Value → Partial (List (List Block))
  | [] => ⟨[], none⟩
  | value :: values => .append (itemOf value) (itemsOf values)

def blocksOf : List Value → Partial (List Block)
  | [] => ⟨[], none⟩
  | value :: values => .append (blockOf value) (blocksOf values)

end

/-- The nodes that a description of tokens stands for. -/
def nodesOf (values : List Value) : Traced Fault (List Node) := do
  let blocks := blocksOf values
  let nodes ← (blockNodes blocks.value : Noted (List Node))
  match blocks.fault with
  | some fault => Traced.fail fault
  | none => return nodes

end Token

end RichText.Markdown
