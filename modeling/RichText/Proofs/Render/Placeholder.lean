import RichText.Proofs.Traced
import RichText.Render.Embed

/-!
What is wrong with an embedded entry, and the text that the placeholder in its place has for it.
-/

namespace RichText

namespace Embed

def target? (embed : Embed) : Option Text := embed.id.filter fun id => !id.isEmpty

def entry? (setting : Setting) (embed : Embed) : Option Entry :=
  embed.target?.bind setting.store.entry?

def label (embed : Embed) : Text := if embed.inline then "Inline entry: " else "Embedded entry: "

/-- An address that a block link can lead to. -/
def HasAddress (entry : Entry) : Prop :=
  entry.fieldText "type" = "backtotop" ∨
    entry.fieldText "type" = "internal" ∧ linkText entry "Learn More" ≠ [] ∨
      entry.fieldText "url" ≠ []

/-- An entry lacks what its kind is rendered from. -/
inductive Incomplete (setting : Setting) (trail : Trail) (entry : Entry) :
    Component.Kind → Text → Prop
  | unknown : Incomplete setting trail entry .unknown
      ("Embedded entry: " ++ entry.id ++ " (type: " ++ entry.contentType ++ ")")
  | link (nowhere : ¬HasAddress entry) : Incomplete setting trail entry .link
      ("Link component: " ++ entry.id ++ " (type: " ++ entry.fieldText "type" ++ ")")
  | linkCollection
      (empty : (linkItems setting entry.id (listOf (entry.field "links"))).value = []) :
      Incomplete setting trail entry .linkCollection
        ("Link reference: " ++ entry.id ++ " (empty)")
  | image (absent : usableAsset? setting (referenceId (entry.field "image")) = none) :
      Incomplete setting trail entry .image ("Image component: " ++ entry.id)
  | recursive (inside : entry.id ∈ trail) : Incomplete setting trail entry .richText
      ("Rich text block: " ++ entry.id ++ " (recursive)")
  | malformed {fault : Node.Fault} (outside : entry.id ∉ trail)
      (body : bodyOf entry = some (.error fault)) (structural : fault.isStructural = true) :
      Incomplete setting trail entry .richText
        ("Rich text block: " ++ entry.id ++ " (malformed)")
  | empty (outside : entry.id ∉ trail) (body : bodyOf entry = none)
      (blank : firstText (entry.fieldText "text") (entry.fieldText "content") = []) :
      Incomplete setting trail entry .richText ("Rich text block: " ++ entry.id ++ " (empty)")

/-- An embedded entry that cannot be rendered. -/
inductive Unrenderable (setting : Setting) (embed : Embed) : Text → Prop
  | withoutTarget (absent : embed.target? = none) :
      Unrenderable setting embed (embed.label ++ "missing ID")
  | notFound {id : Text} (target : embed.target? = some id)
      (absent : setting.store.entry? id = none) :
      Unrenderable setting embed (embed.label ++ id ++ " (not resolved)")
  | notInline {entry : Entry} (inline : embed.inline = true)
      (found : embed.entry? setting = some entry)
      (other : setting.kindOf entry ∉ [Component.Kind.link, .modalForm]) :
      Unrenderable setting embed
        ("Inline entry: " ++ entry.id ++ " (type: " ++ entry.contentType ++ ")")
  | incomplete {entry : Entry} {text : Text} (block : embed.inline = false)
      (found : embed.entry? setting = some entry)
      (lacks : Incomplete setting embed.trail entry (setting.kindOf entry) text) :
      Unrenderable setting embed text

section Placeholder

variable {setting : Setting} {embed : Embed} {entry : Entry} {text : Text}

theorem block_link_nowhere (nowhere : ¬HasAddress entry) : blockLink setting entry =
    unresolved (.linkWithoutTarget entry.id)
      ("Link component: " ++ entry.id ++ " (type: " ++ entry.fieldText "type" ++ ")") := by
  obtain ⟨notToTop, others⟩ := not_or.mp nowhere
  obtain ⟨notInternal, noUrl⟩ := not_or.mp others
  have present {text : Text} (shown : (!text.isEmpty) = true) : text ≠ [] := by simpa using shown
  have unnamed : ¬(decide (entry.fieldText "type" = "internal") &&
      !(linkText entry "Learn More").isEmpty) = true := by
    intro both
    rw [Bool.and_eq_true, decide_eq_true_eq] at both
    exact notInternal ⟨both.1, present both.2⟩
  have unaddressed : ¬(!(entry.fieldText "url").isEmpty) = true := fun shown => noUrl (present shown)
  unfold blockLink
  simp only
  rw [if_neg notToTop, if_neg unnamed, if_neg unaddressed]

theorem incomplete_placeholder {kind : Component.Kind} (nested : Nested)
    (lacks : Incomplete setting embed.trail entry kind text) :
    (∃ rendered, block? setting nested embed entry kind = some rendered ∧
      rendered.outcome = .ok (Markup.placeholder text)) ∨
    block? setting nested embed entry kind = none ∧
      text = "Embedded entry: " ++ entry.id ++ " (type: " ++ entry.contentType ++ ")" := by
  cases lacks with
  | unknown => exact .inr ⟨rfl, rfl⟩
  | link nowhere => exact .inl ⟨_, rfl, by rw [block_link_nowhere nowhere]; rfl⟩
  | linkCollection empty =>
      refine .inl ⟨_, rfl, ?_⟩
      unfold linkCollection
      simp only [Traced.ofNoted, Noted.bind_value, empty]
      rfl
  | image absent => exact .inl ⟨_, rfl, by rw [image, absent]; rfl⟩
  | recursive inside =>
      have recursive : embed.trail.contains entry.id = true := by simpa using inside
      exact .inl ⟨_, rfl, by rw [richText, if_pos recursive]; rfl⟩
  | malformed outside body structural =>
      have fresh : ¬embed.trail.contains entry.id = true := by simpa using outside
      refine .inl ⟨_, rfl, ?_⟩
      simp only [richText, if_neg fresh, body, if_pos structural]
      rfl
  | empty outside body blank =>
      have fresh : ¬embed.trail.contains entry.id = true := by simpa using outside
      refine .inl ⟨_, rfl, ?_⟩
      simp only [richText, if_neg fresh, body, richTextOfText, blank]
      rfl

/-- A placeholder stands for every embedded entry that cannot be rendered. -/
theorem unrenderable_placeholder (nested : Nested) (fails : Unrenderable setting embed text) :
    (embed.render setting nested).outcome = .ok (Markup.placeholder text) := by
  cases fails with
  | withoutTarget absent =>
      unfold target? at absent
      unfold render label
      split
      · rw [inlineEntry, absent]
        rfl
      · rw [block, absent]
        rfl
  | notFound target absent =>
      unfold target? at target
      unfold render label
      split
      · simp only [inlineEntry, target, absent]
        rfl
      · simp only [block, target, absent]
        rfl
  | notInline inline found other =>
      obtain ⟨id, target, same⟩ := Option.bind_eq_some_iff.mp found
      unfold target? at target
      simp only [render, if_pos inline, inlineEntry, target, same]
      split
      · rename_i isLink
        exact absurd (by simp [isLink]) other
      · rename_i isForm
        exact absurd (by simp [isForm]) other
      · rfl
  | incomplete isBlock found lacks =>
      obtain ⟨id, target, same⟩ := Option.bind_eq_some_iff.mp found
      unfold target? at target
      have notInline : ¬embed.inline = true := by simp [isBlock]
      simp only [render, if_neg notInline, block, target, same]
      obtain ⟨rendered, renders, outcome⟩ | ⟨renders, rfl⟩ := incomplete_placeholder nested lacks
      · simp only [renders]
        exact outcome
      · simp only [renders]
        rfl

end Placeholder

end Embed

end RichText
