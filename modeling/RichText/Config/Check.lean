import RichText.Checked.Truth
import RichText.Config

/-!
Reading settings from a mapping. Every group and every field may be left out, and fields that have no
meaning here are passed over.
-/

namespace RichText

open Checked

namespace LinkSettings

def check (entries : List (Value × Value)) : Checked LinkSettings :=
  let standard : LinkSettings := {}
  LinkSettings.mk
    <$> optional "site_domain" standard.siteDomain textOrNull entries
    <*> optional "external_new_tab" standard.externalNewTab truth entries
    <*> optional "back_to_top_anchor" standard.backToTopAnchor text entries

end LinkSettings

namespace TableSettings

def check (entries : List (Value × Value)) : Checked TableSettings :=
  let standard : TableSettings := {}
  TableSettings.mk
    <$> optional "key_column" standard.keyColumn text entries
    <*> optional "display_columns" standard.displayColumns (list text) entries
    <*> optional "show_title" standard.showTitle truth entries

end TableSettings

namespace CardSettings

def check (entries : List (Value × Value)) : Checked CardSettings :=
  let standard : CardSettings := {}
  CardSettings.mk <$> optional "hidden_columns" standard.hiddenColumns (list text) entries

end CardSettings

namespace ChartSettings

def check (entries : List (Value × Value)) : Checked ChartSettings :=
  let standard : ChartSettings := {}
  ChartSettings.mk <$> optional "label_prefix" standard.labelPrefix text entries

end ChartSettings

namespace TextFormat

def check (value : Value) : Checked TextFormat :=
  match value with
  | .text name =>
      if name = "plain" then .valid .plain
      else if name = "markdown" then .valid .markdown
      else fail .notAChoice
  | _ => fail .notAChoice

end TextFormat

namespace RichTextSettings

def check (entries : List (Value × Value)) : Checked RichTextSettings :=
  let standard : RichTextSettings := {}
  RichTextSettings.mk <$> optional "text_format" standard.textFormat TextFormat.check entries

end RichTextSettings

namespace ContentTypeSettings

def aliasKinds : List Component.Kind := Component.Kind.all.filter fun kind => kind ≠ .unknown

def kindRule (tag name : Text) : Flaw :=
  .rule ("Invalid component kind '" ++ name ++ "' for content type '" ++ tag ++ "'. Valid kinds: " ++
    Text.join ", " (Text.sorted (aliasKinds.map fun kind => kind.name)))

/-- Replaces names by kinds. The first name that is no kind is the issue. -/
def withKinds : List (Text × Text) → Checked (List (Text × Component.Kind))
  | [] => .valid []
  | (tag, name) :: others =>
      match aliasKinds.find? fun kind => kind.name = name with
      | none => fail (kindRule tag name)
      | some kind => (withKinds others).map fun aliases => (tag, kind) :: aliases

def check (entries : List (Value × Value)) : Checked ContentTypeSettings :=
  let standard : ContentTypeSettings := {}
  ContentTypeSettings.mk
    <$> optional "aliases" standard.aliases (fun value => (mapping text value).andThen withKinds)
      entries

end ContentTypeSettings

namespace Config

def check : Value → Checked Config :=
  fields fun entries =>
    let standard : Config := {}
    Config.mk
      <$> optional "locale" standard.locale text entries
      <*> optional "links" standard.links (fields LinkSettings.check) entries
      <*> optional "tables" standard.tables (fields TableSettings.check) entries
      <*> optional "cards" standard.cards (fields CardSettings.check) entries
      <*> optional "charts" standard.charts (fields ChartSettings.check) entries
      <*> optional "rich_text" standard.richText (fields RichTextSettings.check) entries
      <*> optional "content_types" standard.contentTypes (fields ContentTypeSettings.check) entries

end Config

end RichText
