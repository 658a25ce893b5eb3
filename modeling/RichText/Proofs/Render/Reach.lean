import RichText.Proofs.Render.Embed
import RichText.Proofs.Render.Step

/-!
The documents that are rendered inside of each other. An embedded rich text entry is expanded unless it
is expanded already around the node that embeds it. Nothing else goes from one document into another, so
a rendering depends on nested documents only where an entry is expanded.
-/

namespace RichText.Render

/-- A node that is rendered as a part of another one, or is that node itself. -/
inductive Shown : Node → Node → Prop
  | self (given : Node) : Shown given given
  | child {given child other : Node} (member : child ∈ given.shownChildren)
      (below : Shown child other) : Shown given other

def ShownAmong (siblings : List Node) (other : Node) : Prop := ∃ top ∈ siblings, Shown top other

/-- A node embeds a rich text entry that is not being expanded yet. -/
structure Expands (setting : Setting) (trail : Trail) (given : Node) (entry : Entry) : Prop where
  embeds : given.kind? = some .embeddedEntry
  target : given.targetId = some entry.id
  found : setting.store.entry? entry.id = some entry
  noMarkup : hookResult setting.entryMarkup entry.id (some entry) = none
  isRichText : setting.kindOf entry = .richText
  fresh : entry.id ∉ trail

/-- The blocks inside of a rich text entry, if it has any: those of its body, or of its text. -/
def content? (setting : Setting) (entry : Entry) : Option (Noted (List Node)) :=
  match Embed.bodyOf entry with
  | some (.ok document) => some (pure document.children)
  | some (.error _) => none
  | none =>
      let text := Embed.firstText (entry.fieldText "text") (entry.fieldText "content")
      match setting.config.richText.textFormat with
      | .markdown => if text.isEmpty then none else some (Markdown.blockNodes (Markdown.read text))
      | .plain => none

/-- A fault in the body of an entry is one that leaves a placeholder. -/
def BodyReadable (entry : Entry) : Prop :=
  ∀ fault, Embed.bodyOf entry = some (.error fault) → fault.isStructural = true

section Embedding

variable {setting : Setting} {trail : Trail} {given : Node} {entry : Entry}

theorem Expands.unique {other : Entry} (expands : Expands setting trail given entry)
    (others : Expands setting trail given other) : other = entry := by
  have sameId : entry.id = other.id := by
    have target := expands.target.symm.trans others.target
    exact Option.some.inj target
  have found := expands.found
  rw [sameId, others.found] at found
  exact Option.some.inj found

/-! ## A rich text entry -/

variable (fresh : entry.id ∉ trail)

include fresh

theorem rich_text_nested {content : Noted (List Node)} (contains : content? setting entry = some content)
    (nested : Embed.Nested) :
    Embed.richText setting nested entry trail = (do
      let nodes ← (content : Traced Fault (List Node))
      let inner ← nested nodes (trail ++ [entry.id])
      return Markup.division inner Embed.richTextClass) := by
  have notInside : trail.contains entry.id = false := by simpa using fresh
  unfold Embed.richText
  rw [notInside]
  unfold content? at contains
  cases body : Embed.bodyOf entry with
  | some outcome =>
      rw [body] at contains
      cases outcome with
      | error fault => exact absurd contains (by simp)
      | ok document =>
          obtain rfl := Option.some.inj contains
          rfl
  | none =>
      rw [body] at contains
      simp only [Bool.false_eq_true, if_false, Embed.richTextOfText]
      cases format : setting.config.richText.textFormat with
      | plain => exact absurd contains (by simp [format])
      | markdown =>
          simp only [format] at contains
          split at contains
          · exact absurd contains (by simp)
          · rename_i present
            obtain rfl := Option.some.inj contains
            rw [if_neg present]

theorem rich_text_stopped {fault : Node.Fault} (body : Embed.bodyOf entry = some (.error fault))
    (stops : fault.isStructural = false) (nested : Embed.Nested) :
    Embed.richText setting nested entry trail = Traced.fail (.node fault) := by
  have notInside : trail.contains entry.id = false := by simpa using fresh
  unfold Embed.richText
  simp only [notInside, body, stops, Bool.false_eq_true, if_false]

theorem rich_text_flat (readable : BodyReadable entry) (flat : content? setting entry = none) :
    ∃ result : Rendered, Returns result.outcome ∧
      ∀ nested, Embed.richText setting nested entry trail = result := by
  have notInside : trail.contains entry.id = false := by simpa using fresh
  unfold Embed.richText
  simp only [notInside, Bool.false_eq_true, if_false]
  unfold content? at flat
  cases body : Embed.bodyOf entry with
  | some outcome =>
      rw [body] at flat
      cases outcome with
      | ok document => exact absurd flat (by simp)
      | error fault =>
          simp only [readable fault body, if_true]
          exact ⟨_, returns_ok _, fun _ => rfl⟩
  | none =>
      rw [body] at flat
      simp only [Embed.richTextOfText]
      split
      · exact ⟨_, returns_ok _, fun _ => rfl⟩
      · rename_i present
        cases format : setting.config.richText.textFormat with
        | plain => exact ⟨_, returns_ok _, fun _ => rfl⟩
        | markdown =>
            simp only [format, if_neg present] at flat
            exact absurd flat nofun

end Embedding

/-! ## Entries of other kinds -/

theorem block_link_returns (setting : Setting) (entry : Entry) :
    Returns (Embed.blockLink setting entry).outcome := by
  unfold Embed.blockLink
  simp only
  split_ifs
  all_goals exact returns_ok _

theorem image_returns (setting : Setting) (entry : Entry) :
    Returns (Embed.image setting entry).outcome := by
  unfold Embed.image
  simp only
  split
  all_goals exact returns_ok _

theorem other_block_returns (setting : Setting) (embed : Embed) (entry : Entry)
    {kind : Component.Kind} (other : kind ≠ .richText) :
    ∃ result : Option Rendered, (∀ rendered ∈ result, Returns rendered.outcome) ∧
      ∀ nested, Embed.block? setting nested embed entry kind = result := by
  have settled {rendered : Rendered} (returns : Returns rendered.outcome) :
      ∀ found ∈ some rendered, Returns found.outcome := by
    rintro found ⟨⟩
    exact returns
  cases kind with
  | richText => exact absurd rfl other
  | unknown => exact ⟨none, nofun, fun _ => rfl⟩
  | link => exact ⟨_, settled (block_link_returns setting entry), fun _ => rfl⟩
  | image => exact ⟨_, settled (image_returns setting entry), fun _ => rfl⟩
  | _ => exact ⟨_, settled (returns_ok _), fun _ => rfl⟩

/-! ## Embedded entries -/

/-- How the rendering of an embedded entry depends on nested documents: it goes into the content of an
expanded entry, or an expanded entry stops it, or it has a result whatever is nested. -/
inductive Embedding (setting : Setting) (trail : Trail) (given : Node)
    (rendered : Embed.Nested → Rendered) : Prop
  | nested {entry : Entry} {content : Noted (List Node)} (notices : List Notice)
      (expands : Expands setting trail given entry) (contains : content? setting entry = some content)
      (same : ∀ nested, rendered nested = (do
        (⟨notices, ()⟩ : Noted Unit)
        let inner ← nested content.value (trail ++ [entry.id])
        return Markup.division inner Embed.richTextClass))
  | stopped {entry : Entry} {fault : Node.Fault} (notices : List Notice)
      (expands : Expands setting trail given entry)
      (body : Embed.bodyOf entry = some (.error fault)) (stops : fault.isStructural = false)
      (same : ∀ nested, rendered nested = ⟨notices, .error (.node fault)⟩)
  | settled (result : Rendered) (returns : Returns result.outcome)
      (flat : ∀ entry, Expands setting trail given entry →
        BodyReadable entry ∧ content? setting entry = none)
      (same : ∀ nested, rendered nested = result)

section Embedded

variable {setting : Setting} {trail : Trail} {given : Node}

theorem embedded_of_expands {entry : Entry} (expands : Expands setting trail given entry)
    (nested : Embed.Nested) (place : Place) :
    embeddedEntry setting nested { id := given.targetId, place, inline := false, trail } = (do
      Traced.note (.renderingEntry entry.id Component.Kind.richText.name)
      Embed.richText setting nested entry trail) := by
  have block : Embed.block? setting nested { id := some entry.id, place, inline := false, trail }
      entry (setting.kindOf entry) = some (Embed.richText setting nested entry trail) := by
    rw [expands.isRichText]
    rfl
  rw [expands.target, embedded_found expands.found expands.noMarkup block, expands.isRichText]

theorem embedded_without_expansion (embeds : given.kind? = some .embeddedEntry)
    (none : ∀ entry, ¬Expands setting trail given entry) (place : Place) :
    ∃ result : Rendered, Returns result.outcome ∧ ∀ nested,
      embeddedEntry setting nested { id := given.targetId, place, inline := false, trail } = result := by
  unfold embeddedEntry Embed.render Embed.block
  simp only [Bool.false_eq_true, if_false]
  cases target : given.targetId.filter fun id => !id.isEmpty with
  | none => exact ⟨_, returns_ok _, fun _ => rfl⟩
  | some id =>
      have named : given.targetId = some id := (Option.filter_eq_some_iff.mp target).1
      simp only
      cases markup : hookResult setting.entryMarkup id (setting.store.entry? id) with
      | some text => exact ⟨_, returns_ok _, fun _ => rfl⟩
      | none =>
          simp only
          cases found : setting.store.entry? id with
          | none => exact ⟨_, returns_ok _, fun _ => rfl⟩
          | some entry =>
              obtain ⟨-, -, rfl⟩ := entry_of_id found
              simp only
              by_cases isRichText : setting.kindOf entry = .richText
              · -- The entry would be expanded here, so it must be among those around the node.
                have inside : trail.contains entry.id = true := by
                  by_contra outside
                  refine none entry ⟨embeds, named, found, ?_, isRichText, by simpa using outside⟩
                  rwa [found] at markup
                simp only [isRichText, Embed.block?, Embed.richText, inside, if_true]
                exact ⟨_, returns_ok _, fun _ => rfl⟩
              · obtain ⟨result, returns, same⟩ := other_block_returns setting
                  { id := given.targetId, place, inline := false, trail } entry isRichText
                simp only [same]
                cases result with
                | none => exact ⟨_, returns_ok _, fun _ => rfl⟩
                | some rendered =>
                    obtain ⟨text, outcome⟩ := returns rendered rfl
                    exact ⟨Traced.note _ >>= fun _ => rendered, ⟨text, outcome⟩, fun _ => rfl⟩

theorem embedding_of_node (embeds : given.kind? = some .embeddedEntry) (place : Place) :
    Embedding setting trail given fun nested =>
      embeddedEntry setting nested { id := given.targetId, place, inline := false, trail } := by
  by_cases expanded : ∃ entry, Expands setting trail given entry
  · obtain ⟨entry, expands⟩ := expanded
    have same := fun nested => embedded_of_expands expands nested place
    cases contains : content? setting entry with
    | some content =>
        refine .nested (.renderingEntry entry.id Component.Kind.richText.name :: content.notices)
          expands contains ?_
        intro nested
        rw [same, rich_text_nested expands.fresh contains]
        rfl
    | none =>
        by_cases readable : BodyReadable entry
        · obtain ⟨result, ⟨text, outcome⟩, flat⟩ := rich_text_flat expands.fresh readable contains
          refine .settled (Traced.note (.renderingEntry entry.id Component.Kind.richText.name) >>=
            fun _ => result) ⟨text, outcome⟩ ?_ ?_
          · intro other others
            obtain rfl := expands.unique others
            exact ⟨readable, contains⟩
          · intro nested
            rw [same, flat]
        · unfold BodyReadable at readable
          obtain ⟨fault, unreadable⟩ := not_forall.mp readable
          obtain ⟨body, stops⟩ := Classical.not_imp.mp unreadable
          have notStructural : fault.isStructural = false := by simpa using stops
          refine .stopped [.renderingEntry entry.id Component.Kind.richText.name] expands body
            notStructural ?_
          intro nested
          rw [same, rich_text_stopped expands.fresh body notStructural]
          rfl
  · have none := not_exists.mp expanded
    obtain ⟨result, returns, same⟩ := embedded_without_expansion embeds none place
    refine .settled result returns ?_ same
    intro entry expands
    exact absurd expands (none entry)

end Embedded

end RichText.Render
