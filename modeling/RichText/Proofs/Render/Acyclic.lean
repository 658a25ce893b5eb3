import Mathlib.Logic.Relation
import RichText.Proofs.Node.Order
import RichText.Proofs.Render.Nesting

/-!
The check of the trail. Where no rich text entry embeds itself, directly or through others, the trail of
every call is a path of embeddings, so the check finds nothing: documents are rendered as they are
without it.
-/

namespace RichText.Render

/-! ## Embeddings -/

/-- A rich text entry of the store, and the nodes of its content. -/
structure Opens (setting : Setting) (entry : Entry) (siblings : List Node) : Prop where
  found : setting.store.entry? entry.id = some entry
  isRichText : setting.kindOf entry = .richText
  contains : ∃ content, content? setting entry = some content ∧ content.value = siblings

/-- A rich text entry whose content holds, at any depth, an embedding of another one. -/
structure Embeds (setting : Setting) (outer inner : Entry) : Prop where
  found : setting.store.entry? inner.id = some inner
  isRichText : setting.kindOf inner = .richText
  holds : ∃ siblings, Opens setting outer siblings ∧ ∃ given ∈ Node.within siblings,
    given.kind? = some .embeddedEntry ∧ given.targetId = some inner.id

/-- No rich text entry embeds itself, directly or through others. -/
def Acyclic (setting : Setting) : Prop := ∀ entry, ¬Relation.TransGen (Embeds setting) entry entry

theorem acyclic_of_rank {setting : Setting} (rank : Entry → Nat)
    (falls : ∀ outer inner, Embeds setting outer inner → rank inner < rank outer) :
    Acyclic setting := by
  have path (outer inner : Entry) (leads : Relation.TransGen (Embeds setting) outer inner) :
      rank inner < rank outer := by
    induction leads with
    | single embeds => exact falls outer _ embeds
    | tail leads embeds induction => exact Nat.lt_trans (falls _ _ embeds) induction
  intro entry returns
  exact Nat.lt_irrefl _ (path entry entry returns)

theorem within_of_shown {given other : Node} (shown : Shown given other) :
    other ∈ given.inOrder fun _ => false := by
  induction shown with
  | self given =>
      rw [Node.in_order_eq]
      exact List.mem_cons_self
  | @child given child other member below induction =>
      rw [Node.in_order_eq]
      exact List.mem_cons_of_mem _
        (Node.mem_in_order_among (Node.mem_children_of_shown member) induction)

section Chains

variable {setting : Setting} {root : Node} {siblings : List Node} {trail : Trail}

theorem embeds_of_expands {outer inner : Entry} {given : Node} {around : Trail}
    (opens : Opens setting outer siblings) (shown : ShownAmong siblings given)
    (expands : Expands setting around given inner) : Embeds setting outer inner where
  found := expands.found
  isRichText := expands.isRichText
  holds := by
    obtain ⟨top, member, below⟩ := shown
    exact ⟨siblings, opens, given, Node.mem_in_order_among member (within_of_shown below),
      expands.embeds, expands.target⟩

/-- Every entry of a trail leads through embeddings to the last one, whose content is rendered. -/
def Trail.Chained (setting : Setting) (siblings : List Node) (trail : Trail) : Prop :=
  ∀ id ∈ trail, ∃ outer last, outer.id = id ∧ setting.store.entry? outer.id = some outer ∧
    Relation.ReflTransGen (Embeds setting) outer last ∧ Opens setting last siblings

theorem asked_chained {content : List Node} {inner : Trail}
    (chained : Trail.Chained setting siblings trail)
    (asks : Asks setting siblings trail content inner) : Trail.Chained setting content inner := by
  cases asks with
  | @expand given entry content shown expands contains =>
      have opens : Opens setting entry content.value :=
        ⟨expands.found, expands.isRichText, content, contains, rfl⟩
      intro id member
      rcases List.mem_append.mp member with before | last
      · obtain ⟨outer, last, named, found, path, opensLast⟩ := chained id before
        exact ⟨outer, entry, named, found,
          path.tail (embeds_of_expands opensLast shown expands), opens⟩
      · obtain rfl := List.mem_singleton.mp last
        exact ⟨entry, entry, rfl, expands.found, .refl, opens⟩

theorem reached_chained (reached : Reached setting root siblings trail) :
    Trail.Chained setting siblings trail := by
  induction reached with
  | root isDocument => exact fun id member => absurd member List.not_mem_nil
  | nested reached asks induction => exact asked_chained induction asks

/-- The check finds nothing: what is expanded on its own is expanded everywhere. -/
theorem expands_of_acyclic (acyclic : Acyclic setting) (chained : Trail.Chained setting siblings trail)
    {given : Node} {entry : Entry} (shown : ShownAmong siblings given)
    (expands : Expands setting [] given entry) : Expands setting trail given entry := by
  refine { expands with fresh := ?_ }
  intro inside
  obtain ⟨outer, last, named, found, path, opens⟩ := chained entry.id inside
  have same : outer = entry := by
    rw [named, expands.found] at found
    exact (Option.some.inj found).symm
  have returns := Relation.TransGen.tail' path (embeds_of_expands opens shown expands)
  rw [same] at returns
  exact acyclic entry returns

end Chains

/-! ## Rendering without the check -/

/-- A rich text entry that is expanded without a look at the entries around it. -/
def expandedText (setting : Setting) (unchecked : List Node → Rendered) (entry : Entry) : Rendered :=
  match Embed.bodyOf entry with
  | none => Embed.richTextOfText setting (fun content _ => unchecked content) entry []
  | some (.ok document) => do
      let content ← unchecked document.children
      return Markup.division content Embed.richTextClass
  | some (.error fault) =>
      if fault.isStructural then
        Embed.unresolved (.malformedBody entry.id fault.message)
          ("Rich text block: " ++ entry.id ++ " (malformed)")
      else Traced.fail (.node fault)

/-- When no trail is kept, the check has nothing to look at. -/
theorem rich_text_without_trail (setting : Setting) (unchecked : List Node → Rendered)
    (entry : Entry) : Embed.richText setting (fun content _ => unchecked content) entry [] =
      expandedText setting unchecked entry := rfl

/-- The blocks of a document when no trail is kept, so that every rich text entry is expanded wherever
it is embedded. The level of nesting is limited. -/
def uncheckedWithin (setting : Setting) : Nat → List Node → Rendered
  | 0, _ => pure []
  | depth + 1, children => do
      let blocks ← nodes setting (fun content _ => uncheckedWithin setting depth content) [] [] false
        children
      return joinBlocks blocks

section Step

variable {setting : Setting} {nested : Embed.Nested} {unchecked : List Node → Rendered} {trail : Trail}

theorem rich_text_unchecked {entry : Entry} (fresh : entry.id ∉ trail)
    (same : ∀ content, content? setting entry = some content →
      nested content.value (trail ++ [entry.id]) = unchecked content.value) :
    Embed.richText setting nested entry trail = expandedText setting unchecked entry := by
  have outside : trail.contains entry.id = false := by simpa using fresh
  unfold content? at same
  unfold Embed.richText expandedText
  simp only [outside, Bool.false_eq_true, if_false]
  cases body : Embed.bodyOf entry with
  | some outcome =>
      rw [body] at same
      cases outcome with
      | error fault => rfl
      | ok document =>
          have inner : nested document.children (trail ++ [entry.id]) = unchecked document.children :=
            same _ rfl
          simp only [inner]
  | none =>
      rw [body] at same
      simp only [Embed.richTextOfText]
      split
      · rfl
      · rename_i present
        cases format : setting.config.richText.textFormat with
        | plain => rfl
        | markdown =>
            simp only [format, if_neg present] at same
            apply Traced.of_noted_bind_congr
            exact congrArg (fun inner : Rendered => do
              let content ← inner
              return Markup.division content Embed.richTextClass) (same _ rfl)

/-- An embedded entry is tied to the trail by the rich text that it expands, and by nothing else. -/
theorem embedded_unchecked {given : Node} (embeds : given.kind? = some .embeddedEntry)
    (same : ∀ entry, Expands setting [] given entry →
      Embed.richText setting nested entry trail = expandedText setting unchecked entry)
    (place : Place) :
    embeddedEntry setting nested { id := given.targetId, place, inline := false, trail } =
      embeddedEntry setting (fun content _ => unchecked content)
        { id := given.targetId, place, inline := false, trail := [] } := by
  unfold embeddedEntry Embed.render Embed.block
  simp only [Bool.false_eq_true, if_false]
  cases target : given.targetId.filter fun id => !id.isEmpty with
  | none => rfl
  | some id =>
      have named : given.targetId = some id := (Option.filter_eq_some_iff.mp target).1
      simp only
      cases markup : hookResult setting.entryMarkup id (setting.store.entry? id) with
      | some text => rfl
      | none =>
          simp only
          cases found : setting.store.entry? id with
          | none => rfl
          | some entry =>
              obtain ⟨-, -, rfl⟩ := entry_of_id found
              rw [found] at markup
              cases kind : setting.kindOf entry with
              | richText =>
                  have expands : Expands setting [] given entry :=
                    ⟨embeds, named, found, markup, kind, List.not_mem_nil⟩
                  simp only [Embed.block?, kind, same entry expands, rich_text_without_trail]
              | _ => simp only [Embed.block?, kind]

theorem node_unchecked (given : Node) :
    (∀ below entry, Shown given below → Expands setting [] below entry →
      Embed.richText setting nested entry trail = expandedText setting unchecked entry) →
    ∀ place unwrap, node setting nested trail place unwrap given =
      node setting (fun content _ => unchecked content) [] place unwrap given := by
  induction given using shown_induction with
  | step given induction =>
      intro same place unwrap
      have inside : ∀ child ∈ given.shownChildren, ∀ place,
          node setting nested trail place given.unwrapsParagraphs child =
            node setting (fun content _ => unchecked content) [] place given.unwrapsParagraphs
              child := by
        intro child member place
        apply induction child member
        intro below entry shown expands
        exact same below entry (.child member shown) expands
      rw [node_step, node_step, nodes_congr inside]
      unfold finished
      split
      · rename_i embeds
        have here := embedded_unchecked embeds fun entry => same given entry (.self given)
        simp only [here]
      · rfl

end Step

section Unchecked

variable {setting : Setting} {root : Node} {siblings : List Node} {trail : Trail}

/-- A call is rendered without the check as soon as the calls that it asks for are. -/
theorem nodes_unchecked (acyclic : Acyclic setting) (reached : Reached setting root siblings trail)
    {nested : Embed.Nested} {unchecked : List Node → Rendered}
    (same : ∀ content inner, Asks setting siblings trail content inner →
      nested content inner = unchecked content) :
    nodes setting nested trail [] false siblings =
      nodes setting (fun content _ => unchecked content) [] [] false siblings := by
  apply nodes_congr
  intro top member place
  apply node_unchecked
  intro below entry shown expands
  have among : ShownAmong siblings below := ⟨top, member, shown⟩
  have everywhere := expands_of_acyclic acyclic (reached_chained reached) among expands
  apply rich_text_unchecked everywhere.fresh
  intro content contains
  exact same _ _ (.expand among everywhere contains)

theorem blocks_unchecked (acyclic : Acyclic setting) {depth : Nat}
    (reached : Reached setting root siblings trail)
    (enough : setting.store.entries.length < depth + trail.length) :
    blocks setting siblings trail = uncheckedWithin setting depth siblings := by
  have known := reached_trail reached
  induction depth generalizing siblings trail with
  | zero =>
      have short := known.length_le
      omega
  | succ depth induction =>
      have same : ∀ content inner, Asks setting siblings trail content inner →
          blocks setting content inner = uncheckedWithin setting depth content := by
        intro content inner asks
        obtain ⟨knownInside, longer⟩ := asked_trail known asks
        exact induction (.nested reached asks) (by omega) knownInside
      rw [blocks_eq known, nodes_unchecked acyclic reached same, uncheckedWithin]

theorem blocks_unchecked_unique (acyclic : Acyclic setting) {unchecked : List Node → Rendered}
    (solves : ∀ siblings trail, Reached setting root siblings trail → unchecked siblings = (do
      let parts ← nodes setting (fun content _ => unchecked content) [] [] false siblings
      return joinBlocks parts))
    (reached : Reached setting root siblings trail) :
    blocks setting siblings trail = unchecked siblings := by
  apply reached_induction ?_ reached
  intro siblings trail reached same
  rw [blocks_eq (reached_trail reached), nodes_unchecked acyclic reached same,
    ← solves siblings trail reached]

end Unchecked

/-- Where no rich text entry embeds itself, the check of the trail never fires: every embedding of a rich
text entry is expanded, however often the entry was met before. A document is then rendered as it is
without the check, with any limit on the nesting that is larger than the store, and without a limit. -/
theorem acyclic_check_transparent (setting : Setting) (acyclic : Acyclic setting) (root : Node)
    (isDocument : root.kind? = some .document) :
    (∀ siblings trail, Reached setting root siblings trail →
      ∀ given, ShownAmong siblings given → ∀ entry, Expands setting [] given entry →
        Expands setting trail given entry) ∧
    (∀ depth, setting.store.entries.length < depth →
      document setting root = uncheckedWithin setting depth root.children) ∧
    ∀ unchecked : List Node → Rendered,
      (∀ siblings trail, Reached setting root siblings trail → unchecked siblings = (do
        let parts ← nodes setting (fun content _ => unchecked content) [] [] false siblings
        return joinBlocks parts)) →
      document setting root = unchecked root.children := by
  have whole : document setting root = blocks setting root.children [] := document_eq isDocument
  refine ⟨?_, ?_, ?_⟩
  · intro siblings trail reached given shown entry expands
    exact expands_of_acyclic acyclic (reached_chained reached) shown expands
  · intro depth enough
    rw [whole]
    exact blocks_unchecked acyclic (.root isDocument) enough
  · intro unchecked solves
    rw [whole]
    exact blocks_unchecked_unique acyclic solves (.root isDocument)

/-- An entry that embeds another one twice. -/
def sharedSetting : Setting where
  store := {
    entries := [
      { id := "t", contentType := "richText",
        body := some (Node.document [Node.embeddedEntry "s" false, Node.embeddedEntry "s" false]) },
      { id := "s", contentType := "richText", fields := [("text", .text "S")] }] }

theorem shared_acyclic : Acyclic sharedSetting := by
  apply acyclic_of_rank fun entry => if entry.id = "s".toList then 0 else 1
  intro outer inner embeds
  obtain ⟨siblings, opens, given, member, embedded, target⟩ := embeds.holds
  obtain ⟨content, contains, rfl⟩ := opens.contains
  have among : outer.id ≠ "s".toList ∧ ∀ given ∈ Node.within content.value,
      given.kind? = some .embeddedEntry → given.targetId = some "s".toList := by
    have stored := (entry_of_id opens.found).2.1
    simp only [sharedSetting, List.mem_cons, List.not_mem_nil, or_false] at stored
    rcases stored with rfl | rfl
    · obtain rfl := Option.some.inj contains
      decide +kernel
    · exact absurd contains nofun
  obtain ⟨notShared, targets⟩ := among
  have named : inner.id = "s".toList :=
    Option.some.inj (target.symm.trans (targets given member embedded))
  rw [if_pos named, if_neg notShared]
  exact Nat.one_pos

def sharedDocument : Node := Node.document [Node.embeddedEntry "t" false]

theorem shared_text_everywhere :
    Acyclic sharedSetting ∧ sharedDocument.kind? = some .document ∧
      sharedSetting.store.entries.length < 3 ∧
      (document sharedSetting sharedDocument).outcome =
        .ok (("<div class=\"rich-text-block\">\n" : Text) ++
          "<div class=\"rich-text-block\">\nS\n</div>\n\n" ++
          "<div class=\"rich-text-block\">\nS\n</div>\n</div>") := by
  have isDocument : sharedDocument.kind? = some .document := rfl
  have larger : sharedSetting.store.entries.length < 3 := by decide
  have unchecked :=
    (acyclic_check_transparent sharedSetting shared_acyclic sharedDocument isDocument).2.1 3 larger
  refine ⟨shared_acyclic, isDocument, larger, ?_⟩
  rw [unchecked]
  rfl

end RichText.Render
