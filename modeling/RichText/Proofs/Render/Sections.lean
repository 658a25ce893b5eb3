import RichText.Proofs.HeadingScope
import RichText.Proofs.Render.Embed
import RichText.Proofs.Render.Step
import RichText.Proofs.Text.Join

/-!
Documents are rendered section by section. Of the nodes before it a node sees at most the last heading
with text, so what comes before such a heading changes nothing behind it.
-/

namespace RichText.Render

/-! ## Renderings that agree -/

/-- Two renderings with the same outcome that emit the same markers. -/
structure Agree {α : Type} (first second : Traced Fault α) : Prop where
  outcome : first.outcome = second.outcome
  markers : emitted first.notices = emitted second.notices

section Agree

variable {α β : Type} {first second : Traced Fault α}

theorem agree_refl (traced : Traced Fault α) : Agree traced traced := ⟨rfl, rfl⟩

theorem agree_trans {third : Traced Fault α} (same : Agree first second) (further : Agree second third) :
    Agree first third :=
  ⟨same.outcome.trans further.outcome, same.markers.trans further.markers⟩

theorem agree_bind {next further : α → Traced Fault β} (same : Agree first second)
    (step : ∀ value, second.outcome = .ok value → Agree (next value) (further value)) :
    Agree (first >>= next) (second >>= further) := by
  cases outcome : second.outcome with
  | error fault =>
      rw [Traced.bind_of_error next (same.outcome.trans outcome),
        Traced.bind_of_error further outcome]
      exact ⟨rfl, same.markers⟩
  | ok value =>
      rw [Traced.bind_of_ok next (same.outcome.trans outcome), Traced.bind_of_ok further outcome]
      have after := step value outcome
      refine ⟨after.outcome, ?_⟩
      rw [emitted_append, emitted_append, same.markers, after.markers]

theorem agree_of_quiet {noted other : Noted α} (quiet : Quiet noted) (otherQuiet : Quiet other)
    (same : noted.value = other.value) :
    Agree (Traced.ofNoted noted) (Traced.ofNoted other) where
  outcome := congrArg Except.ok same
  markers := quiet.trans otherQuiet.symm

end Agree

/-! ## Hints -/

/-- A heading with text. Walking back from a node for its hint ends here. -/
structure OpensSection (given : Node) : Prop where
  isHeading : given.isHeading = true
  named : Text.trim given.plainText ≠ []

theorem hint_before_section {heading : Node} (opens : OpensSection heading) (index other : Int)
    (before outer : List Node) :
    (HeadingScope.hintBefore index (before ++ heading :: outer)).value =
      (HeadingScope.hintBefore other (before ++ [heading])).value := by
  have decisive : decide (HeadingScope.Decisive heading) = true :=
    decide_eq_true (.inl ⟨opens.isHeading, opens.named⟩)
  simp only [HeadingScope.hint_before_value, List.find?_append, List.find?_cons, decisive]

section Agreement

variable {setting : Setting} {nested : Embed.Nested} {trail : Trail}

theorem embedded_agree {first second : Place}
    (same : (HeadingScope.hint first).value = (HeadingScope.hint second).value) (id : Option Text) :
    Agree (embeddedEntry setting nested { id, place := first, inline := false, trail })
      (embeddedEntry setting nested { id, place := second, inline := false, trail }) := by
  have markers (entry : Entry) :
      Agree (Traced.ofNoted (Embed.tableMarker entry first) : Traced Fault Marker)
        (Traced.ofNoted (Embed.tableMarker entry second)) := by
    apply agree_of_quiet (table_marker_quiet entry first) (table_marker_quiet entry second)
    unfold Embed.tableMarker
    rw [Noted.bind_value, Noted.bind_value, same]
  unfold embeddedEntry Embed.render Embed.block
  simp only [Bool.false_eq_true, if_false]
  cases id.filter fun id => !id.isEmpty with
  | none => exact agree_refl _
  | some id =>
      simp only
      cases hookResult setting.entryMarkup id (setting.store.entry? id) with
      | some markup => exact agree_refl _
      | none =>
          simp only
          cases setting.store.entry? id with
          | none => exact agree_refl _
          | some entry =>
              simp only
              cases setting.kindOf entry with
              | dataTable =>
                  apply agree_bind (agree_refl _)
                  intro _ _
                  apply agree_bind (markers entry)
                  intro marker _
                  exact agree_refl _
              | _ => exact agree_refl _

/-- A rendering sees nothing of its place but the hint. -/
theorem node_agree {first second : Place}
    (same : (HeadingScope.hint first).value = (HeadingScope.hint second).value) (unwrap : Bool)
    (given : Node) :
    Agree (node setting nested trail first unwrap given)
      (node setting nested trail second unwrap given) := by
  rw [node_step, node_step]
  apply agree_bind (agree_refl _)
  intro _ _
  apply agree_bind (agree_refl _)
  intro parts _
  unfold finished
  split
  · exact embedded_agree same given.targetId
  · exact agree_refl _

/-- What stands before some siblings matters to them only by the hints that it gives. -/
theorem nodes_agree {first second : List Node}
    (same : ∀ between index other, (HeadingScope.hintBefore index (between ++ first)).value =
      (HeadingScope.hintBefore other (between ++ second)).value)
    (unwrap : Bool) (siblings between : List Node) :
    Agree (nodes setting nested trail (between ++ first) unwrap siblings)
      (nodes setting nested trail (between ++ second) unwrap siblings) := by
  induction siblings generalizing between with
  | nil => exact agree_refl _
  | cons child siblings induction =>
      rw [nodes_cons, nodes_cons]
      have hints : (HeadingScope.hint ⟨between ++ first, (between ++ first).length⟩).value =
          (HeadingScope.hint ⟨between ++ second, (between ++ second).length⟩).value :=
        same between _ _
      apply agree_bind (node_agree hints unwrap child)
      intro block _
      apply agree_bind (induction (child :: between))
      intro others _
      exact agree_refl _

theorem section_agree {heading : Node} (opens : OpensSection heading) (outer rest : List Node) :
    Agree (nodes setting nested trail (outer ++ []) false (heading :: rest))
      (nodes setting nested trail [] false (heading :: rest)) := by
  have notEmbedded := HeadingScope.heading_not_embedded opens.isHeading
  rw [List.append_nil, nodes_cons, nodes_cons]
  apply agree_bind
  · rw [node_step, node_step]
    simp only [finished, if_neg notEmbedded]
    exact agree_refl _
  · intro block _
    have hints (between : List Node) (index other : Int) :=
      hint_before_section opens index other between outer
    apply agree_bind (nodes_agree hints false rest [])
    intro others _
    exact agree_refl _

theorem nodes_append (first second before : List Node) (unwrap : Bool) :
    nodes setting nested trail before unwrap (first ++ second) = (do
      let parts ← nodes setting nested trail before unwrap first
      let others ← nodes setting nested trail (first.reverse ++ before) unwrap second
      return parts ++ others) := by
  induction first generalizing before with
  | nil =>
      have none : nodes setting nested trail before unwrap [] = pure [] := rfl
      simp [none]
  | cons child first induction =>
      rw [List.cons_append, nodes_cons, nodes_cons, induction]
      simp

/-! ## The start of a section -/

theorem section_present {heading : Node} (isHeading : heading.isHeading = true) {place : Place}
    {unwrap : Bool} {text : Text}
    (outcome : (node setting nested trail place unwrap heading).outcome = .ok text) : text ≠ [] := by
  obtain ⟨tag, children, value, marks, payload⟩ := heading
  cases tag with
  | other name unknown => exact absurd isHeading nofun
  | known kind =>
      cases kind with
      | heading level =>
          obtain ⟨parts, -, written⟩ := Traced.ok_of_bind outcome
          obtain rfl := Except.ok.inj written
          exact List.cons_ne_nil _ _
      | _ => exact absurd isHeading nofun

theorem section_parts {heading : Node} (isHeading : heading.isHeading = true) {rest before : List Node}
    {unwrap : Bool} {parts : List Text}
    (outcome : (nodes setting nested trail before unwrap (heading :: rest)).outcome = .ok parts) :
    ∃ block others, parts = block :: others ∧ block ≠ [] := by
  rw [nodes_cons] at outcome
  obtain ⟨block, first, after⟩ := Traced.ok_of_bind outcome
  obtain ⟨others, -, all⟩ := Traced.ok_of_bind after
  exact ⟨block, others, (Except.ok.inj all).symm, section_present isHeading first⟩

end Agreement

/-! ## Blocks of two sections -/

theorem join_blocks_empty_iff (parts : List Text) :
    (joinBlocks parts).isEmpty = true ↔ parts.filter (fun block => !block.isEmpty) = [] := by
  unfold joinBlocks
  cases kept : parts.filter fun block => !block.isEmpty with
  | nil => exact iff_of_true rfl rfl
  | cons block others =>
      have member : block ∈ parts.filter fun block => !block.isEmpty := kept ▸ List.mem_cons_self
      have present : block ≠ [] := by simpa using (List.mem_filter.mp member).2
      apply iff_of_false
      · unfold Text.join
        cases others with
        | nil => simp [List.intercalate_singleton, present]
        | cons next others => simp [List.intercalate_cons_cons, present]
      · exact List.cons_ne_nil _ _

theorem join_blocks_append (parts : List Text) {block : Text} (present : block ≠ [])
    (others : List Text) :
    joinBlocks (parts ++ block :: others) =
      if (joinBlocks parts).isEmpty then joinBlocks (block :: others)
      else joinBlocks parts ++ blockSeparator ++ joinBlocks (block :: others) := by
  have kept : (block :: others).filter (fun block => !block.isEmpty) ≠ [] := by
    simp [present]
  by_cases empty : parts.filter (fun block => !block.isEmpty) = []
  · rw [if_pos ((join_blocks_empty_iff parts).mpr empty)]
    unfold joinBlocks
    rw [List.filter_append, empty, List.nil_append]
  · rw [if_neg (fun none => empty ((join_blocks_empty_iff parts).mp none))]
    unfold joinBlocks
    rw [List.filter_append, Text.join_append blockSeparator empty kept]

theorem blocks_sections (setting : Setting) (first : List Node) {heading : Node}
    (opens : OpensSection heading) (rest : List Node) (trail : Trail) :
    Agree (blocks setting (first ++ heading :: rest) trail) (do
      let before ← blocks setting first trail
      let after ← blocks setting (heading :: rest) trail
      return if before.isEmpty then after else before ++ blockSeparator ++ after) := by
  -- All three documents have the same limit on their nesting, so the nested renderings are the same.
  have unrolled (siblings : List Node) : blocks setting siblings trail = (do
      let parts ← nodes setting (blocksWithin setting setting.store.entries.length) trail [] false
        siblings
      return joinBlocks parts) := rfl
  simp only [unrolled, nodes_append, bind_assoc, pure_bind]
  apply agree_bind (agree_refl _)
  intro parts _
  apply agree_bind
  · exact section_agree opens first.reverse rest
  · intro others outcome
    obtain ⟨block, more, rfl, present⟩ := section_parts opens.isHeading outcome
    rw [join_blocks_append parts present more]
    exact agree_refl _

/-- A heading with text cuts a document in two parts that are rendered on their own, and no hint of a
place behind it depends on what is before it. -/
theorem document_sections (setting : Setting) (root : Node)
    (isDocument : root.kind? = some .document) (first : List Node) (heading : Node)
    (opens : OpensSection heading) (rest : List Node) :
    Agree (document setting { root with children := first ++ heading :: rest }) (do
      let before ← document setting { root with children := first }
      let after ← document setting { root with children := heading :: rest }
      return if before.isEmpty then after else before ++ "\n\n" ++ after) ∧
    ∀ index : Nat, 0 < index →
      (HeadingScope.hint (.ofSiblings (first ++ heading :: rest) (first.length + index))).value =
        (HeadingScope.hint (.ofSiblings (heading :: rest) index)).value := by
  constructor
  · simp only [document_with_children isDocument]
    exact blocks_sections setting first opens rest []
  · intro index positive
    obtain ⟨behind, rfl⟩ : ∃ behind, index = behind + 1 := ⟨index - 1, by omega⟩
    have place : ((first ++ heading :: rest).take (first.length + (behind + 1))).reverse =
        (rest.take behind).reverse ++ heading :: first.reverse := by
      rw [List.take_append, List.take_of_length_le (Nat.le_add_right _ _), Nat.add_sub_cancel_left]
      simp
    have alone : ((heading :: rest).take (behind + 1)).reverse =
        (rest.take behind).reverse ++ [heading] := by
      simp
    have count : ((first.length : Int) + ((behind + 1 : Nat) : Int)).toNat =
      first.length + (behind + 1) := by omega
    unfold Place.ofSiblings HeadingScope.hint
    simp only
    rw [count, place, Int.toNat_natCast, alone]
    exact hint_before_section opens _ _ _ _

/-- A table that is embedded twice, under two headings. -/
def tableSetting : Setting where
  store := { entries := [{ id := "t", contentType := "dataVisualizationTables" }] }

def subject (title : Text) : Node := Node.heading ⟨2, two_is_level⟩ [.words title]

def sharedTable : Node := Node.embeddedEntry "t" false

theorem shared_table_sections :
    (Node.document []).kind? = some .document ∧ OpensSection (subject "Two") ∧
      (document tableSetting { Node.document [] with
        children := [subject "One", sharedTable] ++ subject "Two" :: [sharedTable] }).outcome =
        .ok (("<h2 id=\"one\">One</h2>\n\n[richdoc_table id=\"t\" key=\"one\"]\n\n" : Text) ++
          "<h2 id=\"two\">Two</h2>\n\n[richdoc_table id=\"t\" key=\"two\"]") ∧
      0 < 1 ∧
      (HeadingScope.hint (.ofSiblings
        ([subject "One", sharedTable] ++ subject "Two" :: [sharedTable]) 3)).value =
        some "two".toList := by
  have opens : OpensSection (subject "Two") := ⟨rfl, by decide⟩
  obtain ⟨agree, hints⟩ := document_sections tableSetting (Node.document []) rfl
    [subject "One", sharedTable] (subject "Two") opens [sharedTable]
  refine ⟨rfl, opens, agree.outcome.trans ?_, Nat.one_pos, (hints 1 Nat.one_pos).trans ?_⟩
  · rfl
  · rfl

end RichText.Render
