import RichText.Node
import RichText.Text.Slug
import RichText.Traced

/-!
The section that a node stands in. Walking back from a node, the nearest heading with text gives its
key hint; an embedded entry met before any heading ends the section, and then there is no hint.
-/

namespace RichText

/-- Where a node stands among its siblings: those before it, the nearest first, and its index. -/
structure Place where
  before : List Node
  index : Int

namespace Place

/-- The place of an index in a list of siblings; a place out of the list has all of them before it, a
negative one none. -/
def ofSiblings (siblings : List Node) (index : Int) : Place :=
  ⟨(siblings.take index.toNat).reverse, index⟩

def alone : Place := ⟨[], -1⟩

end Place

namespace HeadingScope

/-- The key hint of a section, given the nodes before a place from the nearest on. -/
def hintBefore (index : Int) : List Node → Noted (Option Text)
  | [] => pure none
  | node :: before =>
      let heading := Text.trim node.plainText
      if node.isHeading then
        if heading.isEmpty then hintBefore index before
        else
          let hint := Text.hintSlug heading
          do
            Noted.note (.headingHint heading before.length hint)
            return if hint.isEmpty then none else some hint
      else if node.kind? = some .embeddedEntry then do
        Noted.note (.sectionBoundary before.length index)
        return none
      else hintBefore index before

def hint (place : Place) : Noted (Option Text) := hintBefore place.index place.before

end HeadingScope

end RichText
