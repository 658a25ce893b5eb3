import RichText.Marker
import RichText.Value.Spelling

/-!
What a run reports besides its result. Content that cannot be shown never stops a run, so the
notices are the only record of it. Each notice is a cause; its level and its wording follow from it.
-/

namespace RichText

/-- Levels of notices, from the finest to the gravest. -/
inductive Level
  | debug
  | checks
  | info
  | changes
  | warning
  | error
  deriving DecidableEq, Repr

namespace Level

def rank : Level → Nat
  | .debug => 10
  | .checks => 15
  | .info => 20
  | .changes => 25
  | .warning => 30
  | .error => 40

def name : Level → Text
  | .debug => "DEBUG"
  | .checks => "CHECKS"
  | .info => "INFO"
  | .changes => "CHANGES"
  | .warning => "WARNING"
  | .error => "ERROR"

end Level

inductive Notice
  -- text
  | malformedUrl (url reason : Text)
  | unknownMark (name : Text)
  -- headings and keys
  | headingHint (heading : Text) (index : Nat) (hint : Text)
  | sectionBoundary (boundary : Nat) (index : Int)
  | keyResolved (hint key rule : Text)
  | keyUnmatched (hint : Text) (keys : List Text)
  -- documents
  | notADocument (tag : Text)
  | unknownNode (tag : Text)
  | entryLinkWithoutUrl (id : Text)
  | assetLinkUnresolved (id : Option Text)
  -- embedded entries and assets
  | embedWithoutTarget
  | embedNotFound (id : Text)
  | embedWithoutRenderer (id contentType : Text)
  | renderingEntry (id kind : Text)
  | inlineWithoutTarget
  | inlineNotFound (id : Text)
  | inlineNotRenderable (id contentType : Text)
  | markerEmitted (marker : Marker)
  | linkWithoutTarget (id : Text)
  | linkEntryMissing (collection : Text) (reference : Value)
  | selfEmbedding (id : Text)
  | malformedBody (id reason : Text)
  | imageWithoutAsset (id : Text)
  | assetNotFound (id : Option Text)
  -- markdown
  | inlineTokenSkipped (kind : Text)
  | blockTokenSkipped (kind : Text)
  -- the display stage
  | markerWithoutId (raw : Text)
  | expandingMarker (kind id : Text)
  | rowsKept (dataset hint : Text) (kept total : Nat) (keys : List Text)
  | noKeyMatched (dataset hint : Text)
  | unknownDataset (id : Text)
  | unknownContents (id : Text)
  | emptyContents (id : Text)
  | chartWithoutDataset (id : Text)
  | cardsWithoutDataset (id : Text)
  -- loading
  | datasetWithoutRows (id : Text)
  | rowsLoaded (rows : Nat) (dataset path : Text)
  | snapshotLoaded (name : Text) (entries assets datasets : Nat)

namespace Notice

def level : Notice → Level
  | .headingHint .. => .checks
  | .sectionBoundary .. => .checks
  | .keyResolved .. => .checks
  | .keyUnmatched .. => .checks
  | .renderingEntry .. => .debug
  | .markerEmitted .. => .changes
  | .inlineTokenSkipped .. => .debug
  | .blockTokenSkipped .. => .debug
  | .expandingMarker .. => .debug
  | .rowsKept .. => .changes
  | .rowsLoaded .. => .debug
  | .snapshotLoaded .. => .debug
  | _ => .warning

def shownId : Option Text → Text
  | none => "None"
  | some id => id

def message : Notice → Text
  | .malformedUrl url reason =>
      "Malformed link URL '" ++ url ++ "' treated as internal: " ++ reason
  | .unknownMark name => "Unknown mark type: " ++ name
  | .headingHint heading index hint =>
      "Heading '" ++ heading ++ "' at index " ++ Text.ofNat index ++ " gives key hint '" ++ hint ++ "'"
  | .sectionBoundary boundary index =>
      "Section boundary at index " ++ Text.ofNat boundary ++ "; no key hint for index " ++
        Text.ofInt index
  | .keyResolved hint key rule =>
      "Key hint '" ++ hint ++ "' resolved to '" ++ key ++ "' by " ++ rule ++ " match"
  | .keyUnmatched hint keys => "Key hint '" ++ hint ++ "' matched none of: " ++ Text.join ", " keys
  | .notADocument tag => "Expected a document root, got '" ++ tag ++ "'"
  | .unknownNode tag => "Unknown node type: " ++ tag
  | .entryLinkWithoutUrl id => "Entry hyperlink to '" ++ id ++ "' has no URL; rendering text only"
  | .assetLinkUnresolved id =>
      "Asset hyperlink to '" ++ shownId id ++ "' not resolved; rendering text only"
  | .embedWithoutTarget => "Embedded entry without a target id"
  | .embedNotFound id => "Embedded entry '" ++ id ++ "' not found in snapshot"
  | .embedWithoutRenderer id contentType =>
      "No renderer for entry '" ++ id ++ "' of type '" ++ contentType ++ "'"
  | .renderingEntry id kind => "Rendering entry '" ++ id ++ "' as " ++ kind
  | .inlineWithoutTarget => "Inline entry without a target id"
  | .inlineNotFound id => "Inline entry '" ++ id ++ "' not found in snapshot"
  | .inlineNotRenderable id contentType =>
      "Entry '" ++ id ++ "' of type '" ++ contentType ++ "' cannot be rendered inline"
  | .markerEmitted marker => "Emitted marker " ++ marker.toText
  | .linkWithoutTarget id => "Link entry '" ++ id ++ "' has no usable target"
  | .linkEntryMissing collection reference =>
      "Link collection '" ++ collection ++ "' refers to missing entry " ++ reference.nested
  | .selfEmbedding id => "Rich text entry '" ++ id ++ "' embeds itself; not expanding again"
  | .malformedBody id reason => "Rich text entry '" ++ id ++ "' has a malformed body: " ++ reason
  | .imageWithoutAsset id => "Image entry '" ++ id ++ "' has no resolvable asset"
  | .assetNotFound id => "Embedded asset '" ++ shownId id ++ "' not found in snapshot"
  | .inlineTokenSkipped kind => "Skipping markdown inline token: " ++ kind
  | .blockTokenSkipped kind => "Skipping markdown block token: " ++ kind
  | .markerWithoutId raw => "Marker without id left in place: " ++ raw
  | .expandingMarker kind id => "Expanding " ++ kind ++ " marker for '" ++ id ++ "'"
  | .rowsKept dataset hint kept total keys =>
      "Table '" ++ dataset ++ "': key hint '" ++ hint ++ "' kept " ++ Text.ofNat kept ++ " of " ++
        Text.ofNat total ++ " rows for " ++ Text.join ", " keys
  | .noKeyMatched dataset hint =>
      "Table '" ++ dataset ++ "': key hint '" ++ hint ++ "' matched no key; showing all rows"
  | .unknownDataset id => "Table marker refers to unknown dataset '" ++ id ++ "'"
  | .unknownContents id => "TOC marker refers to unknown entry '" ++ id ++ "'"
  | .emptyContents id => "TOC '" ++ id ++ "' has no entries"
  | .chartWithoutDataset id => "Chart '" ++ id ++ "' has no dataset; rendering placeholder"
  | .cardsWithoutDataset id => "Cards '" ++ id ++ "' have no dataset; rendering placeholder"
  | .datasetWithoutRows id => "Dataset '" ++ id ++ "' has no rows"
  | .rowsLoaded rows dataset path =>
      "Loaded " ++ Text.ofNat rows ++ " rows for dataset '" ++ dataset ++ "' from " ++ path
  | .snapshotLoaded name entries assets datasets =>
      "Loaded snapshot " ++ name ++ ": " ++ Text.ofNat entries ++ " entries, " ++
        Text.ofNat assets ++ " assets, " ++ Text.ofNat datasets ++ " datasets"

end Notice

end RichText
