import RichText.Proofs.Marker.RoundTrip
import RichText.Proofs.Render.Nesting
import RichText.Proofs.Render.Sections

/-!
Blocks that render to nothing. No heading and no embedded entry does, so such a block is none that a hint
is looked for in; and it emits no marker, since a marker is always seen in what is rendered around it. A
document is rendered as if the block were not there.
-/

namespace RichText.Render

open Markup (Composed Token)

/-! ## Visible texts -/

/-- A text with a character that is not blank. -/
def Visible (text : Text) : Prop := ∃ char ∈ text, Text.isBlank char = false

section Visible

variable {text : Text} {parts : List Text}

theorem visible_cons {char : Char} (seen : Text.isBlank char = false) (rest : Text) :
    Visible (char :: rest) := ⟨char, List.mem_cons_self, seen⟩

theorem visible_element (tag : Text) (attributes : List (Text × Text)) (content : Text) :
    Visible (Markup.element tag attributes content) := visible_cons (by decide) _

theorem visible_placeholder (raw : Text) : Visible (Markup.placeholder raw) :=
  visible_cons (by decide) _

theorem not_visible_nil : ¬Visible [] := by
  rintro ⟨char, member, -⟩
  exact absurd member List.not_mem_nil

theorem visible_of_not_blank (present : Text.trim text ≠ []) : Visible text := by
  by_contra hidden
  apply present
  rw [Text.trim_blank_iff]
  intro char member
  by_contra seen
  exact hidden ⟨char, member, by simpa using seen⟩

theorem visible_flatten {part : Text} (member : part ∈ parts) (visible : Visible part) :
    Visible parts.flatten := by
  obtain ⟨char, inside, seen⟩ := visible
  exact ⟨char, List.mem_flatten.mpr ⟨part, member, inside⟩, seen⟩

theorem visible_join (separator : Text) {part : Text} (member : part ∈ parts) (visible : Visible part) :
    Visible (Text.join separator parts) := by
  obtain ⟨char, inside, seen⟩ := visible
  exact ⟨char, Text.mem_join_of_mem member inside, seen⟩

theorem visible_join_blocks {part : Text} (member : part ∈ parts) (visible : Visible part) :
    Visible (joinBlocks parts) := by
  have present : part ≠ [] := by
    rintro rfl
    exact not_visible_nil visible
  exact visible_join _ (List.mem_filter.mpr ⟨member, by simp [present]⟩) visible

theorem visible_paragraph (visible : Visible text) : Visible (paragraph text) := by
  obtain ⟨char, member, seen⟩ := visible
  have present : Text.trim text ≠ [] := List.ne_nil_of_mem (Text.mem_trim member seen)
  unfold paragraph
  rw [if_neg (by simpa using present)]
  exact visible_element _ _ _

end Visible

/-! ## Headings and embedded entries -/

section Blocks

variable {setting : Setting} {nested : Embed.Nested} {trail : Trail}

theorem unresolved_visible (notice : Notice) (text : Text) :
    Gives (Embed.unresolved notice text) Visible :=
  gives_after fun _ => gives_pure (visible_placeholder text)

theorem emit_visible (marker : Marker) : Gives (Embed.emit marker) Visible := by
  apply gives_after
  intro _
  apply gives_pure
  rw [Marker.to_text_eq]
  exact visible_cons (by decide) _

theorem block_link_visible (entry : Entry) : Gives (Embed.blockLink setting entry) Visible := by
  unfold Embed.blockLink
  simp only
  split_ifs
  · exact gives_pure (visible_element _ _ _)
  · exact gives_pure (visible_element _ _ _)
  · exact gives_pure (visible_element _ _ _)
  · exact unresolved_visible _ _

theorem link_collection_visible (entry : Entry) : Visible (Embed.linkCollection setting entry).value := by
  unfold Embed.linkCollection
  rw [Noted.bind_value]
  split
  · exact visible_placeholder _
  · change Visible (if _ then _ else _)
    split
    · exact visible_element _ _ _
    · exact visible_join _ List.mem_cons_self (visible_element _ _ _)

theorem rich_text_visible (entry : Entry) :
    Gives (Embed.richText setting nested entry trail) Visible := by
  have inside (children : List Node) (inner : Trail) :
      Gives (nested children inner >>= fun content =>
        pure (Markup.division content Embed.richTextClass)) Visible :=
    gives_after fun _ => gives_pure (visible_element _ _ _)
  unfold Embed.richText
  split
  · exact unresolved_visible _ _
  · simp only
    split
    · unfold Embed.richTextOfText
      simp only
      split
      · exact gives_pure (visible_placeholder _)
      · split
        · exact gives_after fun nodes => inside nodes _
        · exact gives_pure (visible_element _ _ _)
    · exact inside _ _
    · split
      · exact unresolved_visible _ _
      · exact fun _ failed => absurd failed nofun

theorem image_visible (entry : Entry) : Gives (Embed.image setting entry) Visible := by
  unfold Embed.image
  simp only
  split
  · exact unresolved_visible _ _
  · exact gives_pure (visible_element _ _ _)

theorem component_visible (embed : Embed) (entry : Entry) (kind : Component.Kind) :
    ∀ rendered ∈ Embed.block? setting nested embed entry kind, Gives rendered Visible := by
  intro rendered found
  cases kind with
  | unknown => exact absurd found nofun
  | dataTable =>
      obtain rfl := Option.some.inj found
      exact gives_after fun marker => emit_visible marker
  | tableOfContents | chart | cards | form =>
      obtain rfl := Option.some.inj found
      exact emit_visible _
  | link =>
      obtain rfl := Option.some.inj found
      exact block_link_visible entry
  | linkCollection =>
      obtain rfl := Option.some.inj found
      intro text outcome
      obtain rfl := Except.ok.inj outcome
      exact link_collection_visible entry
  | navigation =>
      obtain rfl := Option.some.inj found
      exact gives_pure (visible_placeholder _)
  | modalForm =>
      obtain rfl := Option.some.inj found
      exact gives_pure (visible_element _ _ _)
  | richText =>
      obtain rfl := Option.some.inj found
      exact rich_text_visible entry
  | image =>
      obtain rfl := Option.some.inj found
      exact image_visible entry

theorem block_visible (embed : Embed) : Gives (Embed.block setting nested embed) Visible := by
  unfold Embed.block
  split
  · exact unresolved_visible _ _
  · split
    · exact unresolved_visible _ _
    · simp only
      split
      · exact unresolved_visible _ _
      · rename_i rendered found
        exact gives_after fun _ => component_visible embed _ _ rendered found

/-- What stands for an embedded block is visible, unless the caller renders it. -/
theorem embedded_cases (id : Option Text) (place : Place) :
    (∃ markup : Text, markup ≠ [] ∧
      embeddedEntry setting nested { id, place, inline := false, trail } = pure markup) ∨
      Gives (embeddedEntry setting nested { id, place, inline := false, trail }) Visible := by
  have visible : Gives (Embed.render setting nested { id, place, inline := false, trail }) Visible :=
    block_visible _
  unfold embeddedEntry
  cases id.filter fun id => !id.isEmpty with
  | none => exact .inr visible
  | some id =>
      simp only [Bool.false_eq_true, if_false]
      cases custom : hookResult setting.entryMarkup id (setting.store.entry? id) with
      | none => exact .inr visible
      | some markup =>
          have kept := (Option.filter_eq_some_iff.mp custom).2
          exact .inl ⟨markup, by simpa using kept, rfl⟩

end Blocks

/-! ## Markers -/

/-- A rendering is visible, or no marker has been emitted for it. -/
abbrev Seen (rendered : Rendered) : Prop :=
  Drawn (fun markers text => Visible text ∨ markers = []) True rendered

section Markers

variable {setting : Setting} {nested : Embed.Nested} {trail : Trail}

theorem seen_of_composed {rendered : Rendered} (drawn : DrawnText (fun _ => True) True rendered) :
    Seen rendered := by
  apply drawn_imp drawn
  intro markers text composed
  by_cases blank : Text.trim text = []
  · exact .inr (Markup.composed_blank composed blank)
  · exact .inl (visible_of_not_blank blank)

theorem seen_of_visible {rendered : Rendered} (visible : Gives rendered Visible) : Seen rendered := by
  unfold Seen Drawn
  split
  · rename_i text outcome
    exact .inl (visible text outcome)
  · trivial

theorem embedded_seen (id : Option Text) (place : Place) :
    Seen (embeddedEntry setting nested { id, place, inline := false, trail }) := by
  rcases @embedded_cases setting nested trail id place with ⟨markup, -, same⟩ | visible
  · rw [same]
    exact drawn_pure (.inr rfl)
  · exact seen_of_visible visible

theorem leaf_seen {given : Node} (isLeaf : given.isLeaf = true) (place : Place) (unwrap : Bool) :
    Seen (finished setting nested trail place unwrap given []) := by
  have free (token : Token) : True := trivial
  unfold finished
  split
  · exact embedded_seen given.targetId place
  · rename_i notEmbedded
    unfold Node.isLeaf at isLeaf
    unfold enclosed
    cases own : given.kind? with
    | none =>
        rw [own] at isLeaf
        exact absurd isLeaf nofun
    | some kind =>
        rw [own] at isLeaf notEmbedded
        cases kind with
        | text => exact drawn_of_quiet (marked_quiet _ _) (.inr rfl)
        | rule => exact drawn_pure (.inr rfl)
        | embeddedEntry => exact absurd rfl notEmbedded
        | embeddedEntryInline => exact seen_of_composed (inline_drawn free _)
        | embeddedAsset => exact seen_of_composed (asset_drawn free setting _)
        | _ => exact absurd isLeaf nofun

/-- A node around its children emits nothing of its own, and hides nothing of them. -/
theorem enclosed_container {given : Node} (container : given.isLeaf = false) (unwrap : Bool)
    (parts : List Text) :
    ∃ noted : Noted Text, enclosed setting unwrap given parts = Traced.ofNoted noted ∧ Quiet noted ∧
      ((∃ part ∈ parts, Visible part) → Visible noted.value) := by
  have flat : (∃ part ∈ parts, Visible part) → Visible parts.flatten :=
    fun ⟨part, member, visible⟩ => visible_flatten member visible
  unfold Node.isLeaf at container
  unfold enclosed
  cases own : given.kind? with
  | none => exact ⟨pure parts.flatten, rfl, quiet_pure _, flat⟩
  | some kind =>
      rw [own] at container
      cases kind with
      | text | rule | embeddedEntry | embeddedEntryInline | embeddedAsset => exact absurd container nofun
      | document =>
          refine ⟨pure (joinBlocks parts), rfl, quiet_pure _, ?_⟩
          rintro ⟨part, member, visible⟩
          exact visible_join_blocks member visible
      | paragraph =>
          refine ⟨pure (if unwrap then parts.flatten else paragraph parts.flatten), rfl, quiet_pure _, ?_⟩
          intro visible
          cases unwrap
          · exact visible_paragraph (flat visible)
          · exact flat visible
      | hyperlink =>
          refine ⟨_, rfl, hyperlink_quiet _ _ _, fun _ => ?_⟩
          obtain ⟨url, newTab, same⟩ := hyperlink_value setting given.payload parts.flatten
          rw [same]
          exact visible_element _ _ _
      | entryHyperlink =>
          refine ⟨_, rfl, entry_hyperlink_quiet _ _ _, fun visible => ?_⟩
          rcases entry_hyperlink_cases setting given.targetId parts.flatten with same | ⟨url, same⟩
          · rw [same]
            exact flat visible
          · rw [same]
            exact visible_element _ _ _
      | assetHyperlink =>
          refine ⟨_, rfl, asset_hyperlink_quiet _ _ _, fun visible => ?_⟩
          rcases asset_hyperlink_cases setting given.targetId parts.flatten with same | ⟨url, same⟩
          · rw [same]
            exact flat visible
          · rw [same]
            exact visible_element _ _ _
      | _ => exact ⟨pure _, rfl, quiet_pure _, fun _ => visible_element _ _ _⟩

theorem nodes_seen {siblings : List Node} {unwrap : Bool}
    (each : ∀ child ∈ siblings, ∀ place, Seen (node setting nested trail place unwrap child))
    (before : List Node) :
    Drawn (fun markers parts => (∃ part ∈ parts, Visible part) ∨ markers = []) True
      (nodes setting nested trail before unwrap siblings) := by
  induction siblings generalizing before with
  | nil => exact drawn_pure (.inr rfl)
  | cons child siblings induction =>
      obtain ⟨first, others⟩ := List.forall_mem_cons.mp each
      rw [nodes_cons]
      apply drawn_bind (first _)
      intro markers text seen
      apply drawn_map (induction others (child :: before))
      intro more parts further
      rcases seen with visible | rfl
      · exact .inl ⟨text, List.mem_cons_self, visible⟩
      · rcases further with ⟨part, member, visible⟩ | rfl
        · exact .inl ⟨part, List.mem_cons_of_mem _ member, visible⟩
        · exact .inr rfl

theorem node_seen (given : Node) :
    ∀ place unwrap, Seen (node setting nested trail place unwrap given) := by
  induction given using shown_induction with
  | step given induction =>
      intro place unwrap
      have quiet : Quiet (announced given) := by
        unfold announced
        split
        · exact quiet_pure _
        · exact quiet_note rfl
      have announces : Drawn (fun markers _ => markers = []) True
          (Traced.ofNoted (announced given) : Traced Fault Unit) := drawn_of_quiet quiet rfl
      rw [node_step]
      apply drawn_bind announces
      rintro markers _ rfl
      cases isLeaf : given.isLeaf with
      | true =>
          have none : given.shownChildren = [] := if_pos isLeaf
          rw [none]
          exact leaf_seen isLeaf place unwrap
      | false =>
          have each : ∀ child ∈ given.shownChildren, ∀ place,
              Seen (node setting nested trail place given.unwrapsParagraphs child) :=
            fun child member place => induction child member place _
          apply drawn_bind (nodes_seen each [])
          intro markers parts seen
          have notEmbedded : given.kind? ≠ some .embeddedEntry := by
            intro embeds
            rw [Node.isLeaf, embeds] at isLeaf
            exact absurd isLeaf nofun
          obtain ⟨noted, same, quiet, visible⟩ := @enclosed_container setting given isLeaf unwrap parts
          rw [finished, if_neg notEmbedded, same]
          apply drawn_of_quiet quiet
          rw [List.append_nil]
          exact seen.imp visible id

end Markers

/-! ## Documents -/

section Documents

variable {setting : Setting} {nested : Embed.Nested} {trail : Trail} {given : Node}

theorem block_present (block : given.isHeading = true ∨ given.kind? = some .embeddedEntry)
    (place : Place) (unwrap : Bool) :
    (node setting nested trail place unwrap given).outcome ≠ .ok [] := by
  intro outcome
  rcases block with isHeading | embeds
  · exact section_present isHeading outcome rfl
  · obtain ⟨tag, children, value, marks, payload⟩ := given
    obtain rfl : tag = .known .embeddedEntry := Node.tag_of_kind embeds
    have embedded : (embeddedEntry setting nested
      { id := payload.target.map (·.id), place, inline := false, trail }).outcome = .ok [] := outcome
    rcases embedded_cases (payload.target.map (·.id)) place with ⟨markup, present, same⟩ | visible
    · rw [same] at embedded
      exact present (Except.ok.inj embedded)
    · exact not_visible_nil (visible [] embedded)

theorem not_decisive_of_empty {place : Place} {unwrap : Bool}
    (empty : (node setting nested trail place unwrap given).outcome = .ok []) :
    ¬HeadingScope.Decisive given := by
  intro decisive
  exact block_present (decisive.imp_left And.left) place unwrap empty

theorem hint_before_idle (idle : ¬HeadingScope.Decisive given) (outer between : List Node)
    (index other : Int) :
    (HeadingScope.hintBefore index (between ++ given :: outer)).value =
      (HeadingScope.hintBefore other (between ++ outer)).value := by
  simp only [HeadingScope.hint_before_value, List.find?_append, List.find?_cons, decide_eq_false idle]

theorem agree_skip {α β : Type} {first : Traced Fault α} {value : α} (next : α → Traced Fault β)
    (outcome : first.outcome = .ok value) (quiet : emitted first.notices = []) :
    Agree (first >>= next) (next value) := by
  rw [Traced.bind_of_ok next outcome]
  exact ⟨rfl, by rw [emitted_append, quiet, List.nil_append]⟩

theorem empty_emits_nothing {place : Place} {unwrap : Bool}
    (empty : (node setting nested trail place unwrap given).outcome = .ok []) :
    emitted (node setting nested trail place unwrap given).notices = [] := by
  have seen := @node_seen setting nested trail given place unwrap
  unfold Seen Drawn at seen
  rw [empty] at seen
  exact seen.resolve_left not_visible_nil

theorem join_blocks_skip (parts others : List Text) :
    joinBlocks (parts ++ [] :: others) = joinBlocks (parts ++ others) := by
  unfold joinBlocks
  rw [List.filter_append, List.filter_append, List.filter_cons_of_neg (by simp)]

theorem blocks_without {first rest : List Node}
    (empty : (node setting (blocks setting) [] ⟨first.reverse, first.reverse.length⟩ false given).outcome =
      .ok []) :
    Agree (blocks setting (first ++ given :: rest) []) (blocks setting (first ++ rest) []) := by
  rw [blocks_eq trail_nil_known, blocks_eq trail_nil_known]
  simp only [nodes_append, nodes_cons, List.append_nil, bind_assoc, pure_bind]
  apply agree_bind (agree_refl _)
  intro parts _
  apply agree_trans (agree_skip _ empty (empty_emits_nothing empty))
  -- The nodes behind the block find the same hints without it.
  have idle := hint_before_idle (not_decisive_of_empty empty) first.reverse
  apply agree_bind (nodes_agree idle false rest [])
  intro others _
  rw [join_blocks_skip]
  exact agree_refl _

theorem document_without {root : Node} {first rest : List Node}
    (empty : (single setting [] (.ofSiblings (first ++ given :: rest) first.length) given).outcome =
      .ok []) :
    Agree (document setting { root with children := first ++ given :: rest })
      (document setting { root with children := first ++ rest }) := by
  have place : Place.ofSiblings (first ++ given :: rest) first.length =
      ⟨first.reverse, first.reverse.length⟩ := by
    rw [Place.ofSiblings, Int.toNat_natCast, List.take_left, List.length_reverse]
  rw [place] at empty
  by_cases isDocument : root.kind? = some .document
  · rw [document_with_children isDocument, document_with_children isDocument]
    exact blocks_without empty
  · have none (children : List Node) : document setting { root with children } = (do
        Traced.note (.notADocument root.tag.name)
        return []) := by
      unfold document
      split
      · rename_i same
        exact absurd same isDocument
      · rfl
    rw [none, none]
    exact agree_refl _

/-- A block that decides nothing leaves the hints behind it, one place further on. -/
theorem hint_at_without (idle : ¬HeadingScope.Decisive given) (first rest : List Node) {index : Int}
    (behind : first.length ≤ index) :
    HeadingScope.hintAt (first ++ given :: rest) (index + 1) =
      HeadingScope.hintAt (first ++ rest) index := by
  have put := @HeadingScope.Edit.idle first [] [given] rest index (List.forall_mem_nil _)
    (List.forall_mem_singleton.mpr idle) (by simpa using behind)
  have same : HeadingScope.lastDecisive? (first ++ given :: rest) (index + 1) =
      HeadingScope.lastDecisive? (first ++ rest) index := by
    simpa using HeadingScope.edit_last_decisive put
  rw [HeadingScope.hint_at_eq, HeadingScope.hint_at_eq, same]

/-- A block that renders to nothing is as good as not there: the document around it renders to the same
text with the same markers, and every place behind it keeps its hint. No heading and no embedded entry
is such a block. -/
theorem invisible_blocks_left_out (setting : Setting) :
    (∀ (root : Node) (first rest : List Node) (given : Node),
      (single setting [] (.ofSiblings (first ++ given :: rest) first.length) given).outcome = .ok [] →
        Agree (document setting { root with children := first ++ given :: rest })
            (document setting { root with children := first ++ rest }) ∧
          ∀ index : Int, first.length ≤ index →
            HeadingScope.hintAt (first ++ given :: rest) (index + 1) =
              HeadingScope.hintAt (first ++ rest) index) ∧
      ∀ given : Node, given.isHeading = true ∨ given.kind? = some .embeddedEntry →
        ∀ trail place, (single setting trail place given).outcome ≠ .ok [] := by
  constructor
  · intro root first rest given empty
    refine ⟨document_without empty, ?_⟩
    intro index behind
    exact hint_at_without (not_decisive_of_empty empty) first rest behind
  · intro given block trail place
    exact block_present block place false

/-- A blank paragraph between a heading and the table below it. -/
theorem blank_paragraph_left_out :
    let blank := Node.paragraph [.words " "]
    let children := [subject "One"] ++ blank :: [sharedTable]
    (single tableSetting [] (.ofSiblings children 1) blank).outcome = .ok [] ∧
      (document tableSetting { Node.document [] with children }).outcome =
        .ok ("<h2 id=\"one\">One</h2>\n\n[richdoc_table id=\"t\" key=\"one\"]" : Text) ∧
      HeadingScope.hintAt children 2 = some "one".toList ∧
      (subject "One").isHeading = true ∧
        (single tableSetting [] .alone (subject "One")).outcome ≠ .ok [] := by
  intro blank children
  obtain ⟨leftOut, shown⟩ := invisible_blocks_left_out tableSetting
  have empty : (single tableSetting [] (.ofSiblings children 1) blank).outcome = .ok [] := by
    rfl
  obtain ⟨agree, hints⟩ := leftOut (Node.document []) [subject "One"] [sharedTable] blank empty
  refine ⟨empty, agree.outcome.trans ?_, (hints 1 (Int.le_refl 1)).trans ?_, rfl, ?_⟩
  · rfl
  · decide +kernel
  · exact shown (subject "One") (.inl rfl) [] .alone

end Documents

end RichText.Render
