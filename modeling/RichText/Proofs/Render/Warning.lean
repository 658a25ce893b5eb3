import RichText.Log
import RichText.Proofs.Marker.RoundTrip
import RichText.Proofs.Markup.Woven
import RichText.Proofs.Render.Embed
import RichText.Proofs.Render.Placeholder

/-!
The warnings that go with placeholders. A placeholder for an embedded entry or asset comes with a warning
that names it, so that even the tersest log mentions it. Besides navigation entries, two kinds of embedded
entries have a placeholder without a warning: rich text with neither a document nor a text, and link
collections without any references.
-/

namespace RichText

namespace Notice

/-- The id of the entry or asset that has a placeholder in its place. -/
def subject? : Notice → Option Text
  | .embedNotFound id => some id
  | .embedWithoutRenderer id _ => some id
  | .inlineNotFound id => some id
  | .inlineNotRenderable id _ => some id
  | .linkWithoutTarget id => some id
  | .linkEntryMissing collection _ => some collection
  | .selfEmbedding id => some id
  | .malformedBody id _ => some id
  | .imageWithoutAsset id => some id
  | .assetNotFound id => some (shownId id)
  | _ => none

theorem subject_in_message {notice : Notice} {id : Text} (subject : notice.subject? = some id) :
    id <:+: notice.message := by
  cases notice with
  | embedNotFound | inlineNotFound | linkWithoutTarget | selfEmbedding | imageWithoutAsset
  | assetNotFound =>
      obtain rfl := Option.some.inj subject
      exact List.infix_append _ _ _
  | linkEntryMissing | malformedBody =>
      obtain rfl := Option.some.inj subject
      exact List.infix_append_of_infix_left (List.infix_append _ _ _)
  | embedWithoutRenderer | inlineNotRenderable =>
      obtain rfl := Option.some.inj subject
      exact List.infix_append_of_infix_left (List.infix_append_of_infix_left (List.infix_append _ _ _))
  | _ => exact absurd subject nofun

end Notice

/-! ## Warnings in the log -/

def Warned (notices : List Notice) : Prop := ∃ notice ∈ notices, notice.level = .warning

/-- Notices with a warning about what has an id, or about a missing id. -/
def Reports (id : Option Text) (notices : List Notice) : Prop :=
  ∃ notice ∈ notices, notice.level = .warning ∧ notice.subject? = id

section Reports

variable {id : Option Text} {notices : List Notice}

theorem warned_of_reports (reports : Reports id notices) : Warned notices := by
  obtain ⟨notice, member, warning, -⟩ := reports
  exact ⟨notice, member, warning⟩

theorem reports_append_left (before : List Notice) (reports : Reports id notices) :
    Reports id (before ++ notices) := by
  obtain ⟨notice, member, about⟩ := reports
  exact ⟨notice, List.mem_append_right before member, about⟩

theorem reports_append_right (after : List Notice) (reports : Reports id notices) :
    Reports id (notices ++ after) := by
  obtain ⟨notice, member, about⟩ := reports
  exact ⟨notice, List.mem_append_left after member, about⟩

theorem mentioned_of_reports {id : Text} (reports : Reports (some id) notices) :
    id <:+: (Log.forVerbosity 0).transcript notices := by
  obtain ⟨notice, member, warning, subject⟩ := reports
  obtain ⟨before, after, rfl⟩ := List.append_of_mem member
  have line : (Log.forVerbosity 0).written notice.level notice.message =
      "WARNING: " ++ notice.message ++ "\n" := by
    rw [warning]
    rfl
  have inLine : id <:+: (Log.forVerbosity 0).written notice.level notice.message := by
    rw [line]
    exact (Notice.subject_in_message subject).trans (List.infix_append _ _ _)
  unfold Log.transcript
  rw [List.flatMap_append, List.flatMap_cons]
  exact inLine.trans (List.infix_append' _ _ _)

end Reports

namespace Embed

/-! ## Texts that are no placeholder -/

def Shown (text : Text) : Prop := ∀ inner, text ≠ Markup.placeholder inner

/-- A placeholder has an exclamation mark behind its first bracket, where a tag has a letter. -/
theorem shown_of_second {text : Text} (other : text[1]? ≠ some '!') : Shown text := by
  intro inner same
  rw [same] at other
  exact other rfl

theorem shown_element {tag : Text} (letter : tag.head?.any Char.isAlpha = true)
    (attributes : List (Text × Text)) (content : Text) :
    Shown (Markup.element tag attributes content) := by
  apply shown_of_second
  cases tag with
  | nil => exact absurd letter nofun
  | cons first rest =>
      have second : (Markup.element (first :: rest) attributes content)[1]? = some first := rfl
      rw [second]
      rintro ⟨⟩
      exact absurd letter nofun

theorem shown_marker (marker : Marker) : Shown marker.toText := by
  intro inner same
  obtain ⟨content, bracketed⟩ := Marker.to_text_bracketed marker
  rw [bracketed] at same
  exact absurd (List.cons.inj same).1 (by decide)

theorem shown_escape (text : Text) : Shown (Text.escape text) := by
  intro inner same
  have opening : '<' ∈ Text.escape text := by
    rw [same]
    exact List.mem_cons_self
  exact Markup.escape_free (.inr (.inl rfl)) text opening

/-- Whatever placeholder a rendering results in, a warning is about what has an id. -/
def Announced (id : Option Text) (rendered : Rendered) : Prop :=
  ∀ text, rendered.outcome = .ok (Markup.placeholder text) → Reports id rendered.notices

section Announced

variable {id : Option Text} {rendered : Rendered}

theorem announced_of_shown (shown : Gives rendered Shown) : Announced id rendered := by
  intro text stands
  exact absurd rfl (shown _ stands text)

theorem announced_unresolved {notice : Notice} (warning : notice.level = .warning)
    (subject : notice.subject? = id) (text : Text) : Announced id (unresolved notice text) :=
  fun _ _ => ⟨notice, List.mem_cons_self, warning, subject⟩

theorem announced_note (notice : Notice) (announced : Announced id rendered) :
    Announced id (Traced.note notice >>= fun _ => rendered) := by
  intro text stands
  exact reports_append_left [notice] (announced text stands)

end Announced

/-! ## Blocks of each kind -/

/-- An entry that has nothing to render, though nothing of it is missing. -/
inductive Hollow (trail : Trail) (entry : Entry) : Component.Kind → Prop
  | richText (outside : entry.id ∉ trail) (bodiless : bodyOf entry = none)
      (blank : firstText (entry.fieldText "text") (entry.fieldText "content") = []) :
      Hollow trail entry .richText
  | linkCollection (bare : listOf (entry.field "links") = []) : Hollow trail entry .linkCollection

section Kinds

variable {setting : Setting} {nested : Nested} {embed : Embed} {entry : Entry} {trail : Trail}

theorem emit_announced (id : Option Text) (marker : Marker) : Announced id (emit marker) :=
  announced_of_shown (gives_after fun _ => gives_pure (shown_marker marker))

theorem block_link_announced (setting : Setting) (entry : Entry) :
    Announced (some entry.id) (blockLink setting entry) := by
  unfold blockLink
  simp only
  split
  · exact announced_of_shown (gives_pure (shown_element rfl _ _))
  · split
    · exact announced_of_shown (gives_pure (shown_element rfl _ _))
    · split
      · exact announced_of_shown (gives_pure (shown_element rfl _ _))
      · exact announced_unresolved rfl rfl _

theorem link_items_missing {collection : Text} {references : List Value} (present : references ≠ [])
    (empty : (linkItems setting collection references).value = []) :
    Reports (some collection) (linkItems setting collection references).notices := by
  -- A reference is either missing and reported, or it gives an item; so the first one decides.
  cases references with
  | nil => exact absurd rfl present
  | cons reference references =>
      unfold linkItems at empty ⊢
      cases found : (referenceId reference).bind setting.store.entry? with
      | none => exact ⟨.linkEntryMissing collection reference, List.mem_cons_self, rfl, rfl⟩
      | some linked =>
          simp only [found, Noted.bind_value] at empty
          exact absurd empty (List.cons_ne_nil _ _)

theorem shown_titled_list (title : Text) (items : List Text) (cssClass : Text) :
    let list := Markup.listBlock items false cssClass
    Shown (if title.isEmpty then list
      else Text.join "\n" [Markup.heading 3 (Text.escape title), list]) := by
  intro list
  split
  · exact shown_element rfl _ _
  · apply shown_of_second
    have second : (Text.join "\n" [Markup.heading 3 (Text.escape title), list])[1]? = some 'h' := rfl
    rw [second]
    decide

theorem link_collection_announced (present : listOf (entry.field "links") ≠ []) :
    Announced (some entry.id) (Traced.ofNoted (linkCollection setting entry)) := by
  intro text stands
  have value : (linkCollection setting entry).value = Markup.placeholder text := Except.ok.inj stands
  change Reports (some entry.id) (linkCollection setting entry).notices
  unfold linkCollection at value ⊢
  rw [Noted.bind_value] at value
  rw [Noted.bind_notices]
  by_cases empty : (linkItems setting entry.id (listOf (entry.field "links"))).value = []
  · exact reports_append_right _ (link_items_missing present empty)
  · rw [if_neg (by simpa using empty)] at value
    exact absurd value (shown_titled_list _ _ _ text)

theorem rich_text_of_text_announced
    (present : firstText (entry.fieldText "text") (entry.fieldText "content") ≠ []) :
    Announced (some entry.id) (richTextOfText setting nested entry trail) := by
  have nonempty : ¬(firstText (entry.fieldText "text") (entry.fieldText "content")).isEmpty = true := by
    simpa using present
  unfold richTextOfText
  simp only
  rw [if_neg nonempty]
  split
  · refine announced_of_shown (gives_after fun nodes => gives_after fun content => gives_pure ?_)
    exact shown_element rfl _ _
  · exact announced_of_shown (gives_pure (shown_element rfl _ _))

theorem rich_text_announced (full : ¬Hollow trail entry .richText) :
    Announced (some entry.id) (richText setting nested entry trail) := by
  unfold richText
  simp only
  split
  · exact announced_unresolved rfl rfl _
  · rename_i fresh
    have outside : entry.id ∉ trail := by simpa using fresh
    cases body : bodyOf entry with
    | none => exact rich_text_of_text_announced fun blank => full (.richText outside body blank)
    | some read =>
        cases read with
        | ok document =>
            refine announced_of_shown (gives_after fun content => gives_pure ?_)
            exact shown_element rfl _ _
        | error fault =>
            by_cases structural : fault.isStructural = true
            · simp only [if_pos structural]
              exact announced_unresolved rfl rfl _
            · simp only [if_neg structural]
              exact fun text stands => absurd stands nofun

theorem image_announced (setting : Setting) (entry : Entry) :
    Announced (some entry.id) (image setting entry) := by
  unfold image
  simp only
  split
  · exact announced_unresolved rfl rfl _
  · exact announced_of_shown (gives_pure (shown_element rfl _ _))

theorem kind_announced {kind : Component.Kind} {rendered : Rendered}
    (renders : block? setting nested embed entry kind = some rendered)
    (full : ¬Hollow embed.trail entry kind) (other : kind ≠ .navigation) :
    Announced (some entry.id) rendered := by
  cases kind with
  | navigation => exact absurd rfl other
  | unknown => exact absurd renders nofun
  | tableOfContents | chart | cards | form =>
      obtain rfl := Option.some.inj renders
      exact emit_announced _ _
  | dataTable =>
      obtain rfl := Option.some.inj renders
      exact announced_of_shown (gives_after fun marker => gives_after fun _ =>
        gives_pure (shown_marker marker))
  | modalForm =>
      obtain rfl := Option.some.inj renders
      exact announced_of_shown (gives_pure (shown_element rfl _ _))
  | link =>
      obtain rfl := Option.some.inj renders
      exact block_link_announced setting entry
  | linkCollection =>
      obtain rfl := Option.some.inj renders
      exact link_collection_announced fun bare => full (.linkCollection bare)
  | richText =>
      obtain rfl := Option.some.inj renders
      exact rich_text_announced full
  | image =>
      obtain rfl := Option.some.inj renders
      exact image_announced setting entry

theorem hollow_unnoticed {kind : Component.Kind} (setting : Setting) (nested : Nested)
    (hollow : Hollow embed.trail entry kind) :
    ∃ rendered, block? setting nested embed entry kind = some rendered ∧ rendered.notices = [] := by
  cases hollow with
  | richText outside bodiless blank =>
      have fresh : ¬embed.trail.contains entry.id = true := by simpa using outside
      refine ⟨_, rfl, ?_⟩
      simp only [richText, if_neg fresh, bodiless, richTextOfText, blank]
      rfl
  | linkCollection bare =>
      refine ⟨_, rfl, ?_⟩
      simp only [linkCollection, bare]
      rfl

end Kinds

/-! ## Embedded entries and assets -/

/-- An embedded entry for which a placeholder stands without a warning. -/
def Silent (setting : Setting) (embed : Embed) : Prop :=
  embed.inline = false ∧ ∃ entry, embed.entry? setting = some entry ∧
    Hollow embed.trail entry (setting.kindOf entry)

section Entries

variable {setting : Setting} {nested : Nested} {embed : Embed} {entry : Entry}

theorem inline_link_shown (setting : Setting) (entry : Entry) : Shown (inlineLink setting entry) := by
  unfold inlineLink
  simp only
  split
  · exact shown_element rfl _ _
  · split
    · exact shown_element rfl _ _
    · split
      · exact shown_element rfl _ _
      · exact shown_escape _

theorem inline_entry_announced (setting : Setting) (embed : Embed) :
    Announced embed.target? (inlineEntry setting embed) := by
  unfold inlineEntry target?
  split
  · rename_i absent
    rw [absent]
    exact announced_unresolved rfl rfl _
  · rename_i id target
    rw [target]
    split
    · exact announced_unresolved rfl rfl _
    · rename_i entry found
      obtain ⟨-, -, rfl⟩ := Render.entry_of_id found
      split
      · exact announced_of_shown (gives_pure (inline_link_shown setting entry))
      · exact announced_of_shown (gives_pure (shown_element rfl _ _))
      · exact announced_unresolved rfl rfl _

theorem block_announced (nested : Nested) (loud : ¬Silent setting embed)
    (isBlock : embed.inline = false)
    (other : ∀ entry, embed.entry? setting = some entry → setting.kindOf entry ≠ .navigation) :
    Announced embed.target? (block setting nested embed) := by
  have target : embed.target? = embed.id.filter fun id => !id.isEmpty := rfl
  unfold block
  rw [← target]
  cases given : embed.target? with
  | none => exact announced_unresolved rfl rfl _
  | some id =>
      simp only
      cases found : setting.store.entry? id with
      | none => exact announced_unresolved rfl rfl _
      | some entry =>
          have embedded : embed.entry? setting = some entry := by
            unfold entry?
            rw [given]
            exact found
          obtain ⟨-, -, rfl⟩ := Render.entry_of_id found
          simp only
          cases renders : block? setting nested embed entry (setting.kindOf entry) with
          | none => exact announced_unresolved rfl rfl _
          | some rendered =>
              apply announced_note
              apply kind_announced renders
              · intro hollow
                exact loud ⟨isBlock, entry, embedded, hollow⟩
              · exact other entry embedded

theorem embed_announced (nested : Nested) (loud : ¬Silent setting embed)
    (other : ∀ entry, embed.entry? setting = some entry → setting.kindOf entry ≠ .navigation) :
    Announced embed.target? (embed.render setting nested) := by
  unfold render
  split
  · exact inline_entry_announced setting embed
  · rename_i notInline
    exact block_announced nested loud (by simpa using notInline) other

theorem silent_unwarned (nested : Nested) (silent : Silent setting embed) :
    ¬Warned (embed.render setting nested).notices := by
  obtain ⟨isBlock, entry, found, hollow⟩ := silent
  obtain ⟨id, target, stored⟩ := Option.bind_eq_some_iff.mp found
  obtain ⟨rendered, renders, unnoticed⟩ := hollow_unnoticed setting nested hollow
  have only : (embed.render setting nested).notices =
      [.renderingEntry entry.id (setting.kindOf entry).name] := by
    unfold target? at target
    have notInline : ¬embed.inline = true := by simp [isBlock]
    simp only [render, if_neg notInline, block, target, stored, renders, Traced.note_bind, unnoticed]
  rw [only]
  rintro ⟨notice, member, warning⟩
  obtain rfl := List.mem_singleton.mp member
  have debug : (Notice.renderingEntry entry.id (setting.kindOf entry).name).level = .debug := rfl
  rw [debug] at warning
  exact absurd warning (by decide)

theorem asset_announced (setting : Setting) (id : Option Text) :
    Announced (some (Notice.shownId id)) (renderAsset setting id) := by
  unfold renderAsset
  split
  · exact announced_unresolved rfl rfl _
  · simp only
    split
    · exact announced_of_shown (gives_pure (shown_element rfl _ _))
    · split
      · exact announced_of_shown (gives_pure (shown_element rfl _ _))
      · exact announced_of_shown (gives_pure (shown_element rfl _ _))

end Entries

/-- A placeholder for anything but a navigation entry comes with a warning, and the tersest log mentions
the entry or asset; only a hollow entry has a placeholder and no warning. -/
theorem placeholders_warned (setting : Setting) (nested : Nested) :
    (∀ embed text, (embed.render setting nested).outcome = .ok (Markup.placeholder text) →
      (∀ entry, embed.entry? setting = some entry → setting.kindOf entry ≠ .navigation) →
      let notices := (embed.render setting nested).notices
      (Warned notices ↔ ¬Silent setting embed) ∧
        (Warned notices → ∀ id ∈ embed.target?, id <:+: (Log.forVerbosity 0).transcript notices)) ∧
    ∀ id text, (renderAsset setting id).outcome = .ok (Markup.placeholder text) →
      let notices := (renderAsset setting id).notices
      Warned notices ∧ ∀ name ∈ id, name <:+: (Log.forVerbosity 0).transcript notices := by
  constructor
  · intro embed text stands other notices
    have loud (warned : Warned notices) : ¬Silent setting embed :=
      fun silent => silent_unwarned nested silent warned
    have reports (loud : ¬Silent setting embed) : Reports embed.target? notices :=
      embed_announced nested loud other text stands
    refine ⟨⟨loud, fun loud => warned_of_reports (reports loud)⟩, ?_⟩
    rintro warned id target
    have about := reports (loud warned)
    rw [target] at about
    exact mentioned_of_reports about
  · intro id text stands notices
    have reports : Reports (some (Notice.shownId id)) notices := asset_announced setting id text stands
    refine ⟨warned_of_reports reports, ?_⟩
    rintro name rfl
    exact mentioned_of_reports reports

/-- A rich text entry with no fields, and a link collection whose only link leads nowhere. -/
def sparseSetting : Setting where
  store.entries := [{ id := "r", contentType := "richText" },
    { id := "l", contentType := "linkReference", fields := [("links", .list [.text "x"])] }]

theorem sparse_text_unwarned :
    ¬Warned (render sparseSetting (fun _ _ => pure []) { id := some "r" }).notices ∧
      Warned (render sparseSetting (fun _ _ => pure []) { id := some "l" }).notices ∧
        Warned (renderAsset sparseSetting (some "a")).notices := by
  obtain ⟨embeds, assets⟩ := placeholders_warned sparseSetting fun _ _ => pure []
  refine ⟨?_, ?_, ?_⟩
  · have silent : Silent sparseSetting { id := some "r" } :=
      ⟨rfl, _, rfl, .richText List.not_mem_nil rfl rfl⟩
    have text := embeds { id := some "r" } "Rich text block: r (empty)" rfl <| by
      rintro entry ⟨⟩
      decide
    exact fun warned => text.1.mp warned silent
  · have links := embeds { id := some "l" } "Link reference: l (empty)" rfl <| by
      rintro entry ⟨⟩
      decide
    refine links.1.mpr ?_
    rintro ⟨-, entry, ⟨⟩, hollow⟩
    exact absurd hollow nofun
  · exact (assets (some "a") "Embedded asset: a (not resolved)" rfl).1

end Embed

end RichText
