import RichText.Proofs.Render.Drawn
import RichText.Proofs.Text.Slug

/-!
Rendering of whole trees. Every node but links and embeddings writes markup of its own around what its
children render to, and its attributes hold slugs, numbers and fixed words only. So a tree renders to the
text of a tree as soon as its links and embeddings do.
-/

namespace RichText.Render

open Markup (Token Composed ComposedAll isNameText)

/-- A property of a node and of all nodes under it. -/
inductive Everywhere (holds : Node → Prop) : Node → Prop
  | node {given : Node} (here : holds given)
      (below : ∀ child ∈ given.children, Everywhere holds child) : Everywhere holds given

namespace Everywhere

variable {holds : Node → Prop} {given : Node} (everywhere : Everywhere holds given)

include everywhere

theorem at_root : holds given := by
  cases everywhere with
  | node here below => exact here

theorem at_children : ∀ child ∈ given.children, Everywhere holds child := by
  cases everywhere with
  | node here below => exact below

omit everywhere in
theorem imp {implied : Node → Prop} (step : ∀ given, holds given → implied given)
    (everywhere : Everywhere holds given) : Everywhere implied given := by
  induction everywhere with
  | node here below induction => exact .node (step _ here) induction

end Everywhere

mutual

theorem everywhere_of_forall {holds : Node → Prop} (all : ∀ given, holds given) (given : Node) :
    Everywhere holds given := by
  obtain ⟨tag, children, value, marks, payload⟩ := given
  exact .node (all _) (everywhere_among_of_forall all children)

theorem everywhere_among_of_forall {holds : Node → Prop} (all : ∀ given, holds given)
    (siblings : List Node) : ∀ child ∈ siblings, Everywhere holds child := by
  cases siblings with
  | nil => exact List.forall_mem_nil _
  | cons given siblings =>
      exact List.forall_mem_cons.mpr
        ⟨everywhere_of_forall all given, everywhere_among_of_forall all siblings⟩

end

theorem two_is_level : 1 ≤ 2 ∧ 2 ≤ 6 := by decide

/-- What links and embeddings have to satisfy. Links and assets put arbitrary text into attributes, so
they need all tokens to be allowed. -/
def Fits (allows : Token → Prop) (fails : Prop) (setting : Setting) (nested : Embed.Nested)
    (trail : Trail) (given : Node) : Prop :=
  match given.kind? with
  | some .hyperlink | some .entryHyperlink | some .assetHyperlink | some .embeddedAsset =>
      ∀ token, allows token
  | some .embeddedEntry => ∀ place,
      DrawnText allows fails
        (embeddedEntry setting nested { id := given.targetId, place, inline := false, trail })
  | some .embeddedEntryInline => ∀ place,
      DrawnText allows fails
        (embeddedEntry setting nested { id := given.targetId, place, inline := true, trail })
  | _ => True

section Trees

variable {allows : Token → Prop} {fails : Prop} {markers : List Marker}
  (plain : ∀ value, '[' ∉ value → allows (.value value))

/-! ## Leaves -/

theorem composed_mark {mark content text : Text} (marked : Markup.mark? mark content = some text)
    (inside : Composed allows markers content) : Composed allows markers text := by
  obtain ⟨tag, found, rfl⟩ := Option.map_eq_some_iff.mp marked
  apply Markup.composed_element ?_ Markup.attributed_nil inside
  unfold Markup.markTag? at found
  split_ifs at found
  all_goals
    obtain rfl := Option.some.inj found
    decide

theorem marked_quiet (content : Text) (marks : List Text) : Quiet (markedText content marks) := by
  induction marks with
  | nil => exact quiet_pure content
  | cons mark marks induction =>
      apply quiet_bind induction
      intro inner
      split
      · exact quiet_pure _
      · exact quiet_bind (quiet_note rfl) fun _ => quiet_pure inner

theorem composed_marked {content : Text} (marks : List Text) (inside : Composed allows [] content) :
    Composed allows [] (markedText content marks).value := by
  induction marks with
  | nil => exact inside
  | cons mark marks induction =>
      rw [markedText, Noted.bind_value]
      split
      · rename_i wrapped marked
        exact composed_mark marked induction
      · exact induction

/-! ## Blocks -/

include plain

theorem composed_paragraph {content : Text} (inside : Composed allows markers content) :
    Composed allows markers (paragraph content) := by
  unfold paragraph
  split
  · rename_i blank
    obtain rfl := Markup.composed_blank inside (List.isEmpty_iff.mp blank)
    exact Markup.composed_nil
  · exact Markup.composed_element (by decide)
      (Markup.attributed_optional (by decide) (plain [] (by decide))) inside

theorem composed_heading {content anchor : Text} (level : HeadingLevel) (noBracket : '[' ∉ anchor)
    (inside : Composed allows markers content) :
    Composed allows markers (Markup.heading level.number content anchor) := by
  obtain ⟨number, isLevel⟩ := level
  have valid : isNameText ("h" ++ Text.ofInt number) = true := by
    have cases : number = 1 ∨ number = 2 ∨ number = 3 ∨ number = 4 ∨ number = 5 ∨ number = 6 := by
      omega
    rcases cases with rfl | rfl | rfl | rfl | rfl | rfl
    all_goals decide
  exact Markup.composed_element valid
    (Markup.attributed_append
      (Markup.attributed_cons (by decide) (plain anchor noBracket) Markup.attributed_nil)
      (Markup.attributed_optional (by decide) (plain [] (by decide)))) inside

theorem composed_list {texts : List Text} (ordered : Bool) (all : ComposedAll allows markers texts) :
    Composed allows markers (Markup.listBlock texts ordered) := by
  have valid : isNameText (if ordered then "ol" else "ul") = true := by
    cases ordered
    · decide
    · decide
  exact Markup.composed_element valid
    (Markup.attributed_optional (by decide) (plain [] (by decide)))
    (Markup.composed_lines (Markup.composed_join (by decide) all))

theorem composed_table {rows : List Text} (all : ComposedAll allows markers rows) :
    Composed allows markers (Markup.table rows) := by
  have body : Composed allows markers
      (Markup.element "tbody" [] (Markup.lines (Text.join "\n" rows))) :=
    Markup.composed_element (by decide) Markup.attributed_nil
      (Markup.composed_lines (Markup.composed_join (by decide) all))
  exact Markup.composed_element (by decide)
    (Markup.attributed_cons (by decide) (plain _ (by decide)) Markup.attributed_nil)
    (Markup.composed_lines body)

theorem attributed_span {name : Text} (valid : isNameText name = true) (span : Option Int) :
    Markup.Attributed allows (Markup.spanAttribute name span) := by
  unfold Markup.spanAttribute
  split
  · split
    · exact Markup.attributed_cons valid (plain _ (Text.of_int_no_bracket _)) Markup.attributed_nil
    · exact Markup.attributed_nil
  · exact Markup.attributed_nil

theorem composed_cell {content : Text} (isHeader : Bool) (colspan rowspan : Option Int)
    (inside : Composed allows markers content) :
    Composed allows markers (Markup.tableCell content isHeader colspan rowspan) := by
  have valid : isNameText (if isHeader then "th" else "td") = true := by
    cases isHeader
    · decide
    · decide
  exact Markup.composed_element valid
    (Markup.attributed_append (attributed_span plain (by decide) colspan)
      (attributed_span plain (by decide) rowspan)) inside

omit plain in
theorem composed_rule : Composed allows [] Markup.rule :=
  Markup.composed_void (by decide) (.inl ⟨rfl, rfl⟩) Markup.attributed_nil

omit plain in
theorem composed_join_blocks {blocks : List Text} (all : ComposedAll allows markers blocks) :
    Composed allows markers (joinBlocks blocks) :=
  Markup.composed_join (by decide) (Markup.composed_filter all)

end Trees

/-! ## Links -/

section Links

variable {allows : Token → Prop} {markers : List Marker} (free : ∀ token, allows token)

include free

theorem composed_link {content : Text} (url : Text) (newTab : Bool) (cssClass : Text)
    (inside : Composed allows markers content) :
    Composed allows markers (Markup.link url content newTab cssClass) := by
  apply Markup.composed_element (by decide) _ inside
  apply Markup.attributed_append
  · exact Markup.attributed_append
      (Markup.attributed_cons (by decide) (free _) Markup.attributed_nil)
      (Markup.attributed_optional (by decide) (free _))
  · cases newTab
    · exact Markup.attributed_nil
    · exact Markup.attributed_cons (by decide) (free _)
        (Markup.attributed_cons (by decide) (free _) Markup.attributed_nil)

omit free in
theorem external_quiet (url : Text) (siteDomain : Option Text) : Quiet (Url.isExternal url siteDomain) := by
  unfold Url.isExternal
  split
  · exact quiet_pure _
  · exact quiet_bind (quiet_note rfl) fun _ => quiet_pure false

omit free in
theorem hyperlink_quiet (setting : Setting) (payload : Node.Payload) (content : Text) :
    Quiet (hyperlink setting payload content) := by
  unfold hyperlink
  simp only
  split
  · exact quiet_bind (external_quiet _ _) fun _ => quiet_pure _
  · exact quiet_bind (quiet_pure false) fun _ => quiet_pure _

omit free in
theorem hyperlink_value (setting : Setting) (payload : Node.Payload) (content : Text) :
    ∃ url newTab, (hyperlink setting payload content).value = Markup.link url content newTab := by
  unfold hyperlink
  simp only
  split
  · exact ⟨_, _, rfl⟩
  · exact ⟨_, _, rfl⟩

theorem hyperlink_drawn {content : Text} (setting : Setting) (payload : Node.Payload)
    (inside : Composed allows markers content) :
    Composed allows markers (hyperlink setting payload content).value := by
  obtain ⟨url, newTab, same⟩ := hyperlink_value setting payload content
  rw [same]
  exact composed_link free _ _ _ inside

omit free in
theorem entry_hyperlink_quiet (setting : Setting) (target : Option Text) (content : Text) :
    Quiet (entryHyperlink setting target content) := by
  unfold entryHyperlink
  split
  · exact quiet_pure content
  · simp only
    split
    · exact quiet_pure _
    · split
      · exact quiet_bind (quiet_note rfl) fun _ => quiet_pure content
      · exact quiet_pure _

omit free in
/-- A link to an entry or an asset that has no address is its content alone. -/
theorem entry_hyperlink_cases (setting : Setting) (target : Option Text) (content : Text) :
    (entryHyperlink setting target content).value = content ∨
      ∃ url, (entryHyperlink setting target content).value = Markup.link url content := by
  unfold entryHyperlink
  split
  · exact .inl rfl
  · simp only
    split
    · exact .inr ⟨_, rfl⟩
    · split
      · exact .inl rfl
      · exact .inr ⟨_, rfl⟩

theorem entry_hyperlink_drawn {content : Text} (setting : Setting) (target : Option Text)
    (inside : Composed allows markers content) :
    Composed allows markers (entryHyperlink setting target content).value := by
  rcases entry_hyperlink_cases setting target content with same | ⟨url, same⟩
  · rwa [same]
  · rw [same]
    exact composed_link free _ _ _ inside

omit free in
theorem asset_hyperlink_quiet (setting : Setting) (target : Option Text) (content : Text) :
    Quiet (assetHyperlink setting target content) := by
  unfold assetHyperlink
  split
  · exact quiet_bind (quiet_note rfl) fun _ => quiet_pure content
  · exact quiet_pure _

omit free in
theorem asset_hyperlink_cases (setting : Setting) (target : Option Text) (content : Text) :
    (assetHyperlink setting target content).value = content ∨
      ∃ url, (assetHyperlink setting target content).value = Markup.link url content true := by
  unfold assetHyperlink
  split
  · exact .inl rfl
  · exact .inr ⟨_, rfl⟩

theorem asset_hyperlink_drawn {content : Text} (setting : Setting) (target : Option Text)
    (inside : Composed allows markers content) :
    Composed allows markers (assetHyperlink setting target content).value := by
  rcases asset_hyperlink_cases setting target content with same | ⟨url, same⟩
  · rwa [same]
  · rw [same]
    exact composed_link free _ _ _ inside

theorem composed_block_paragraph {content : Text} (cssClass : Text)
    (inside : Composed allows markers content) :
    Composed allows markers (Markup.paragraph content cssClass) :=
  Markup.composed_element (by decide) (Markup.attributed_optional (by decide) (free _)) inside

theorem composed_figure (url alternative caption : Text) :
    Composed allows [] (Markup.figure url alternative caption) := by
  have image : Composed allows [] (Markup.voidElement "img" [("src", url), ("alt", alternative)] []) :=
    Markup.composed_void (by decide) (.inr rfl) (Markup.attributed_cons (by decide) (free _)
      (Markup.attributed_cons (by decide) (free _) Markup.attributed_nil))
  apply Markup.composed_element (by decide)
    (Markup.attributed_cons (by decide) (free _) Markup.attributed_nil)
  apply Markup.composed_lines
  apply Markup.composed_join (by decide)
  split
  · exact .cons image .nil
  · exact .cons image
      (.cons (Markup.composed_element (by decide) Markup.attributed_nil (Markup.composed_escape _)) .nil)

theorem asset_drawn {fails : Prop} (setting : Setting) (id : Option Text) :
    DrawnText allows fails (Embed.renderAsset setting id) := by
  unfold Embed.renderAsset
  split
  · exact drawn_unresolved rfl (free _)
  · rename_i asset found
    have download {label : Text} (cssClass : Text) (inside : Composed allows [] label) :
        Composed allows [] (Markup.paragraph
          (Markup.link (Url.normalized asset.url) label true cssClass)) :=
      composed_block_paragraph free _ (composed_link free _ _ _ inside)
    have labelled {sign : Text} (name : Text) (plain : Text.escape sign = sign) :
        Composed allows [] (sign ++ Text.escape name) :=
      Markup.composed_append (Markup.composed_plain plain) (Markup.composed_escape name)
    simp only
    split
    · exact drawn_pure (composed_figure free _ _ _)
    · split
      · exact drawn_pure (download _ (labelled _ (by decide)))
      · exact drawn_pure (download _ (labelled _ (by decide)))

end Links

/-! ## The induction over the tree -/

section Induction

variable {allows : Token → Prop} {fails : Prop} {setting : Setting} {nested : Embed.Nested}
  {trail : Trail}

mutual

theorem node_drawn (plain : ∀ value, '[' ∉ value → allows (.value value)) (given : Node)
    (fits : Everywhere (Fits allows fails setting nested trail) given) (place : Place) (unwrap : Bool) :
    DrawnText allows fails (node setting nested trail place unwrap given) := by
  obtain ⟨tag, children, value, marks, payload⟩ := given
  have here := fits.at_root
  have inside (unwrap : Bool) := nodes_drawn plain children fits.at_children [] unwrap
  cases tag with
  | other name unknown =>
      exact drawn_note rfl (drawn_map (inside false) fun _ _ all => Markup.composed_flatten all)
  | known kind =>
      cases kind with
      | document =>
          exact drawn_map (inside false) fun _ _ all => composed_join_blocks all
      | paragraph =>
          apply drawn_map (inside false)
          intro markers texts all
          cases unwrap
          · exact composed_paragraph plain (Markup.composed_flatten all)
          · exact Markup.composed_flatten all
      | heading level =>
          exact drawn_map (inside false) fun _ _ all =>
            composed_heading plain level (Text.slug_no_bracket _ _) (Markup.composed_flatten all)
      | unorderedList => exact drawn_map (inside false) fun _ _ all => composed_list plain false all
      | orderedList => exact drawn_map (inside false) fun _ _ all => composed_list plain true all
      | listItem =>
          exact drawn_map (inside true) fun _ _ all =>
            Markup.composed_element (by decide) Markup.attributed_nil (Markup.composed_flatten all)
      | blockquote =>
          exact drawn_map (inside false) fun _ _ all =>
            Markup.composed_element (by decide) Markup.attributed_nil
              (Markup.composed_lines (Markup.composed_join (by decide) all))
      | rule => exact drawn_pure composed_rule
      | hyperlink =>
          apply drawn_bind (inside false)
          intro markers texts all
          have drawn := hyperlink_drawn here setting payload (Markup.composed_flatten all)
          rw [← List.append_nil markers] at drawn
          exact drawn_of_quiet (hyperlink_quiet _ _ _) drawn
      | entryHyperlink =>
          apply drawn_bind (inside false)
          intro markers texts all
          have drawn := entry_hyperlink_drawn here setting (payload.target.map (·.id))
            (Markup.composed_flatten all)
          rw [← List.append_nil markers] at drawn
          exact drawn_of_quiet (entry_hyperlink_quiet _ _ _) drawn
      | assetHyperlink =>
          apply drawn_bind (inside false)
          intro markers texts all
          have drawn := asset_hyperlink_drawn here setting (payload.target.map (·.id))
            (Markup.composed_flatten all)
          rw [← List.append_nil markers] at drawn
          exact drawn_of_quiet (asset_hyperlink_quiet _ _ _) drawn
      | embeddedEntry => exact here place
      | embeddedEntryInline => exact here place
      | embeddedAsset => exact asset_drawn here setting _
      | text =>
          exact drawn_of_quiet (marked_quiet _ _)
            (composed_marked marks (Markup.composed_escape value))
      | table => exact drawn_map (inside false) fun _ _ all => composed_table plain all
      | tableRow =>
          exact drawn_map (inside false) fun _ _ all =>
            Markup.composed_element (by decide) Markup.attributed_nil (Markup.composed_flatten all)
      | tableCell =>
          exact drawn_map (inside true) fun _ _ all =>
            composed_cell plain false payload.colspan payload.rowspan (Markup.composed_flatten all)
      | tableHeaderCell =>
          exact drawn_map (inside true) fun _ _ all =>
            composed_cell plain true payload.colspan payload.rowspan (Markup.composed_flatten all)

theorem nodes_drawn (plain : ∀ value, '[' ∉ value → allows (.value value)) (siblings : List Node)
    (fits : ∀ child ∈ siblings, Everywhere (Fits allows fails setting nested trail) child)
    (before : List Node) (unwrap : Bool) :
    Drawn (ComposedAll allows) fails (nodes setting nested trail before unwrap siblings) := by
  cases siblings with
  | nil => exact drawn_pure .nil
  | cons child siblings =>
      have first := node_drawn plain child (fits child List.mem_cons_self) ⟨before, before.length⟩ unwrap
      have others := nodes_drawn plain siblings
        (fun other member => fits other (List.mem_cons_of_mem _ member)) (child :: before) unwrap
      apply drawn_bind first
      intro markers text composed
      exact drawn_map others fun more texts all => .cons composed all

end

end Induction

end RichText.Render
