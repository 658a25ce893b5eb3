import RichText.Component

/-!
Settings: which links leave the site, how tables, cards and charts are shown, and which further
content types stand for which components.
-/

namespace RichText

inductive TextFormat
  | plain
  | markdown
  deriving DecidableEq, Repr

structure LinkSettings where
  /-- Links to other hosts are external; without a domain all web links are. -/
  siteDomain : Option Text := none
  /-- External links open in a new tab. -/
  externalNewTab : Bool := true
  backToTopAnchor : Text := "top"
  deriving DecidableEq, Repr

structure TableSettings where
  /-- The header of the column that holds the keys. -/
  keyColumn : Text := "key"
  /-- The columns to show; all of them if none are named. -/
  displayColumns : List Text := []
  showTitle : Bool := true
  deriving DecidableEq, Repr

structure CardSettings where
  hiddenColumns : List Text := [("key" : Text), "slug"]
  deriving DecidableEq, Repr

structure ChartSettings where
  /-- What numeric cells start with, such as a currency sign. -/
  labelPrefix : Text := []
  deriving DecidableEq, Repr

structure RichTextSettings where
  textFormat : TextFormat := .plain
  deriving DecidableEq, Repr

structure ContentTypeSettings where
  aliases : List (Text × Component.Kind) := []
  deriving DecidableEq, Repr

structure Config where
  /-- The locale whose values are taken from localized fields. -/
  locale : Text := "en-US"
  links : LinkSettings := {}
  tables : TableSettings := {}
  cards : CardSettings := {}
  charts : ChartSettings := {}
  richText : RichTextSettings := {}
  contentTypes : ContentTypeSettings := {}
  deriving DecidableEq, Repr

end RichText
