import RichText.Marker.Reader
import RichText.Page.View

/-!
Expansion of a fragment into a page: each marker is replaced by its view, everything else stays. A
marker without an id stays too, with a notice. A heading or a marker with a reference that cannot be
read stops the expansion, the marker after the views before it.
-/

namespace RichText.Page

section Replacing

variable {ε : Type} (illegible : Text.Reference.Fault → ε) (replacement : Marker → Traced ε Text)

/-- What is put in the place of a marker. One without an id stays. -/
def replaced (raw : Text) (given : Option Marker) : Traced ε Text :=
  if raw.isLegible then
    match given with
    | some marker => replacement marker
    | none => do
        Traced.note (.markerWithoutId raw)
        return raw
  else Traced.fail (illegible .tooManyDigits)

/-- The pieces of a fragment with every marker replaced. -/
def replacePieces : List Marker.Piece → Traced ε Text
  | [] => pure []
  | .plain text :: pieces => do
      let rest ← replacePieces pieces
      return text ++ rest
  | .marker raw given :: pieces => do
      let first ← replaced illegible replacement raw given
      let rest ← replacePieces pieces
      return first ++ rest

/-- The fragment with every marker that has an id replaced. -/
def replaceMarkers (fragment : Text) : Traced ε Text :=
  replacePieces illegible replacement (Marker.pieces fragment)

end Replacing

/-- The fragment with the view of every marker. Tables of contents list the headings of the fragment
itself. -/
def expand (config : Config) (store : Store) (fragment : Text) : Traced Fault Text := do
  let headings ← Traced.ofExcept ((Heading.scan fragment).mapError .reference)
  replaceMarkers .reference (view config store headings) fragment

end RichText.Page
