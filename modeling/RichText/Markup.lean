import RichText.Text.Escape

/-!
The markup of fragments. Every element is written by one of the three functions for elements, so that
tags are balanced and attribute values end where they should.
-/

namespace RichText.Markup

def attributeText (name value : Text) : Text :=
  " " ++ name ++ "=\"" ++ Text.escapeAttribute value ++ "\""

def attributesText (attributes : List (Text × Text)) : Text :=
  attributes.flatMap fun (name, value) => attributeText name value

def element (tag : Text) (attributes : List (Text × Text)) (content : Text) : Text :=
  "<" ++ tag ++ attributesText attributes ++ ">" ++ content ++ "</" ++ tag ++ ">"

/-- Flags are attributes without a value. -/
def flagsText (flags : List Text) : Text := flags.flatMap fun flag => ' ' :: flag

def flaggedElement (tag : Text) (attributes : List (Text × Text)) (flags : List Text)
    (content : Text) : Text :=
  "<" ++ tag ++ attributesText attributes ++ flagsText flags ++ ">" ++ content ++
    "</" ++ tag ++ ">"

def voidElement (tag : Text) (attributes : List (Text × Text)) (flags : List Text) : Text :=
  "<" ++ tag ++ attributesText attributes ++ flagsText flags ++ " />"

/-- An attribute that is left out when it is empty. -/
def optional (name value : Text) : List (Text × Text) :=
  if value.isEmpty then [] else [(name, value)]

def lines (content : Text) : Text := "\n" ++ content ++ "\n"

/-- The element that a mark wraps its text in, if the mark is known. -/
def markTag? (mark : Text) : Option Text :=
  if mark = "bold" then some "strong"
  else if mark = "italic" then some "em"
  else if mark = "underline" then some "u"
  else if mark = "code" then some "code"
  else if mark = "superscript" then some "sup"
  else if mark = "subscript" then some "sub"
  else none

def mark? (mark content : Text) : Option Text :=
  (markTag? mark).map fun tag => element tag [] content

def paragraph (content : Text) (cssClass : Text := []) : Text :=
  element "p" (optional "class" cssClass) content

def heading (level : Int) (content : Text) (anchor : Option Text := none) (cssClass : Text := []) :
    Text :=
  let anchors : List (Text × Text) := anchor.toList.map fun anchor => ("id", anchor)
  element ("h" ++ Text.ofInt level) (anchors ++ optional "class" cssClass) content

def division (content cssClass : Text) (id : Text := []) : Text :=
  element "div" (optional "class" cssClass ++ optional "id" id) (lines content)

def listBlock (items : List Text) (ordered : Bool) (cssClass : Text := []) : Text :=
  element (if ordered then "ol" else "ul") (optional "class" cssClass)
    (lines (Text.join "\n" items))

def listItem (content : Text) : Text := element "li" [] content

def blockquote (content : Text) : Text := element "blockquote" [] (lines content)

def rule : Text := voidElement "hr" [] []

def newTabAttributes : List (Text × Text) :=
  [("target", "_blank"), ("rel", "noopener noreferrer")]

def link (url content : Text) (newTab : Bool := false) (cssClass : Text := []) : Text :=
  element "a"
    ([(("href" : Text), url)] ++ optional "class" cssClass ++
      if newTab then newTabAttributes else [])
    content

def table (rows : List Text) : Text :=
  element "table" [("class", "wp-block-table")]
    (lines (element "tbody" [] (lines (Text.join "\n" rows))))

def tableRow (cells : List Text) : Text := element "tr" [] cells.flatten

/-- A span that is written only if it is more than one. -/
def spanAttribute (name : Text) (span : Option Int) : List (Text × Text) :=
  match span with
  | some size => if size > 1 then [(name, Text.ofInt size)] else []
  | none => []

def tableCell (content : Text) (isHeader : Bool) (colspan rowspan : Option Int) : Text :=
  element (if isHeader then "th" else "td")
    (spanAttribute "colspan" colspan ++ spanAttribute "rowspan" rowspan) content

def dataCells (tag : Text) (cells : List Text) : Text :=
  element "tr" [] (cells.flatMap fun cell => element tag [] (Text.escape cell))

/-- A table of texts. Rows without cells are left out. -/
def dataTable (header : List Text) (rows : List (List Text)) (cssClass : Text) : Text :=
  let body := (rows.filter fun row => !row.isEmpty).flatMap (dataCells "td")
  element "div" [("class", "table-responsive")]
    (element "table" (optional "class" cssClass)
      (element "thead" [] (dataCells "th" header) ++ element "tbody" [] body))

def figure (url alternative caption : Text) : Text :=
  let image := voidElement "img" [("src", url), ("alt", alternative)] []
  let captions : List Text :=
    if caption.isEmpty then [] else [element "figcaption" [] (Text.escape caption)]
  element "figure" [("class", "wp-block-image")] (lines (Text.join "\n" (image :: captions)))

/-- What stands for content that cannot be shown. -/
def placeholder (text : Text) : Text := Text.comment text

end RichText.Markup
