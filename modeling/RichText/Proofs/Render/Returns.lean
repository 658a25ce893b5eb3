import RichText.Proofs.Node.Reading
import RichText.Proofs.Render.Nesting
import RichText.Proofs.Render.Placeholder

/-!
When a document has a rendering. Whatever is wrong with an embedded entry leaves a placeholder in its
place, the body of a rich text entry excepted: reading it may stop, and then nothing of the document is
rendered.
-/

namespace RichText.Render

/-! ## Bodies -/

/-- Reading the body of an entry stops at marks or spans of a shape that is not reported. -/
structure StopsReading (entry : Entry) : Prop where
  unread : entry.body = none
  isDocument : Node.isDocumentValue (entry.field "body") = true
  stops : Node.Stops (entry.field "body")

theorem body_readable_iff {entry : Entry} (finite : (entry.field "body").isFinite = true) :
    BodyReadable entry ↔ ¬StopsReading entry := by
  have stopped := Node.of_value_stopped_iff _ finite
  constructor
  · rintro readable ⟨unread, isDocument, stops⟩
    obtain ⟨fault, same, notStructural⟩ := stopped.mpr stops
    have body : Embed.bodyOf entry = some (.error fault) := by
      rw [Embed.bodyOf, unread]
      simp only [isDocument, if_true, same]
    have structural := readable fault body
    rw [notStructural] at structural
    exact absurd structural nofun
  · intro passes fault body
    by_contra stops
    apply passes
    unfold Embed.bodyOf at body
    split at body
    · exact absurd body nofun
    · rename_i unread
      simp only at body
      split at body
      · rename_i isDocument
        have same := Option.some.inj body
        exact ⟨unread, isDocument, stopped.mp ⟨fault, same, by simpa using stops⟩⟩
      · exact absurd body nofun

theorem readable_of_content {setting : Setting} {entry : Entry} {content : Noted (List Node)}
    (contains : content? setting entry = some content) : BodyReadable entry := by
  intro fault body
  rw [content?, body] at contains
  exact absurd contains nofun

/-! ## One node -/

theorem inline_entry_returns (setting : Setting) (embed : Embed) :
    Returns (Embed.inlineEntry setting embed).outcome := by
  unfold Embed.inlineEntry
  split
  · exact returns_ok _
  · split
    · exact returns_ok _
    · split
      all_goals exact returns_ok _

theorem asset_returns (setting : Setting) (id : Option Text) :
    Returns (Embed.renderAsset setting id).outcome := by
  unfold Embed.renderAsset
  split
  · exact returns_ok _
  · simp only
    split_ifs
    all_goals exact returns_ok _

theorem enclosed_returns (setting : Setting) (unwrap : Bool) (given : Node) (parts : List Text) :
    Returns (enclosed setting unwrap given parts).outcome := by
  unfold enclosed
  cases given.kind? with
  | none => exact returns_ok _
  | some kind =>
      cases kind with
      | embeddedEntryInline => exact inline_entry_returns setting _
      | embeddedAsset => exact asset_returns setting _
      | _ => exact returns_ok _

/-- An entry that a node expands has a readable body, and its content a rendering. -/
def Passes (setting : Setting) (nested : Embed.Nested) (trail : Trail) (given : Node) : Prop :=
  ∀ entry, Expands setting trail given entry → BodyReadable entry ∧
    ∀ content, content? setting entry = some content →
      Returns (nested content.value (trail ++ [entry.id])).outcome

section Node

variable {setting : Setting} {nested : Embed.Nested} {trail : Trail}

theorem embedded_returns_iff {given : Node} (embeds : given.kind? = some .embeddedEntry)
    (place : Place) :
    Returns (embeddedEntry setting nested
      { id := given.targetId, place, inline := false, trail }).outcome ↔
      Passes setting nested trail given := by
  cases @embedding_of_node setting trail given embeds place with
  | @nested entry content notices expands contains same =>
      have renders : Returns (embeddedEntry setting nested
          { id := given.targetId, place, inline := false, trail }).outcome ↔
          Returns (nested content.value (trail ++ [entry.id])).outcome := by
        rw [same nested]
        exact returns_traced_map_iff (nested content.value (trail ++ [entry.id])) _
      rw [renders]
      constructor
      · intro returns other others
        obtain rfl := expands.unique others
        refine ⟨readable_of_content contains, ?_⟩
        intro found containsFound
        obtain rfl := Option.some.inj (contains.symm.trans containsFound)
        exact returns
      · intro passes
        exact (passes entry expands).2 content contains
  | @stopped entry fault notices expands body stops same =>
      rw [same nested]
      apply returns_error_iff
      intro passes
      have structural := (passes entry expands).1 fault body
      rw [stops] at structural
      exact absurd structural nofun
  | settled result returns flat same =>
      rw [same nested]
      apply iff_of_true returns
      intro entry expands
      obtain ⟨readable, none⟩ := flat entry expands
      refine ⟨readable, ?_⟩
      intro content contains
      exact absurd (none.symm.trans contains) nofun

theorem finished_returns_iff (place : Place) (unwrap : Bool) (given : Node) (parts : List Text) :
    Returns (finished setting nested trail place unwrap given parts).outcome ↔
      Passes setting nested trail given := by
  unfold finished
  split
  · rename_i embeds
    exact embedded_returns_iff embeds place
  · rename_i other
    apply iff_of_true (enclosed_returns setting unwrap given parts)
    intro entry expands
    exact absurd expands.embeds other

theorem nodes_returns_of_each {siblings : List Node} {passes : Node → Prop} {unwrap : Bool}
    (each : ∀ child ∈ siblings, ∀ place,
      Returns (node setting nested trail place unwrap child).outcome ↔ passes child)
    (before : List Node) :
    Returns (nodes setting nested trail before unwrap siblings).outcome ↔
      ∀ child ∈ siblings, passes child := by
  induction siblings generalizing before with
  | nil =>
      apply returns_ok_iff
      intro child member
      exact absurd member List.not_mem_nil
  | cons child siblings induction =>
      have others := induction fun other member => each other (List.mem_cons_of_mem _ member)
      rw [nodes_cons, List.forall_mem_cons, Traced.bind_outcome, returns_bind_iff]
      simp only [returns_traced_map_iff, others, exists_and_right]
      rw [← each child List.mem_cons_self ⟨before, before.length⟩]
      rfl

theorem node_returns_iff (given : Node) (place : Place) (unwrap : Bool) :
    Returns (node setting nested trail place unwrap given).outcome ↔
      ∀ other, Shown given other → Passes setting nested trail other := by
  induction given using shown_induction generalizing place unwrap with
  | step given induction =>
      have inside := nodes_returns_of_each
        (fun child member place => induction child member place given.unwrapsParagraphs) []
      have outcome : (node setting nested trail place unwrap given).outcome =
          (nodes setting nested trail [] given.unwrapsParagraphs given.shownChildren >>=
            finished setting nested trail place unwrap given).outcome := by
        rw [node_step]
        rfl
      rw [outcome, Traced.bind_outcome, returns_bind_iff]
      simp only [finished_returns_iff, exists_and_right]
      constructor
      · rintro ⟨children, here⟩ other shown
        cases shown with
        | self => exact here
        | child member below => exact inside.mp children _ member other below
      · intro passes
        refine ⟨inside.mpr ?_, passes given (.self given)⟩
        intro child member other below
        exact passes other (.child member below)

theorem nodes_returns_iff (siblings before : List Node) (unwrap : Bool) :
    Returns (nodes setting nested trail before unwrap siblings).outcome ↔
      ∀ given, ShownAmong siblings given → Passes setting nested trail given := by
  rw [nodes_returns_of_each (fun child _ place => node_returns_iff child place unwrap) before]
  constructor
  · rintro passes given ⟨top, member, shown⟩
    exact passes top member given shown
  · intro passes top member given shown
    exact passes given ⟨top, member, shown⟩

end Node

/-! ## A whole rendering -/

section Document

variable {setting : Setting} {root : Node} {siblings : List Node} {trail : Trail}

theorem blocks_returns_iff (known : Trail.Known setting trail) :
    Returns (blocks setting siblings trail).outcome ↔
      ∀ given, ShownAmong siblings given → Passes setting (blocks setting) trail given := by
  rw [blocks_eq known, returns_traced_map_iff, nodes_returns_iff]

theorem reached_passes (returns : Returns (document setting root).outcome)
    (reached : Reached setting root siblings trail) :
    Returns (blocks setting siblings trail).outcome := by
  induction reached with
  | root isDocument =>
      rwa [document_eq isDocument] at returns
  | nested reached asks induction =>
      have passes := (blocks_returns_iff (reached_trail reached)).mp induction
      cases asks with
      | expand shown expands contains => exact (passes _ shown _ expands).2 _ contains

theorem reached_returns
    (readable : ∀ siblings trail, Reached setting root siblings trail → ∀ given entry,
      ShownAmong siblings given → Expands setting trail given entry → BodyReadable entry)
    (reached : Reached setting root siblings trail) :
    Returns (blocks setting siblings trail).outcome := by
  apply reached_induction ?_ reached
  intro siblings trail reached inside
  rw [blocks_returns_iff (reached_trail reached)]
  intro given shown entry expands
  refine ⟨readable siblings trail reached given entry shown expands, ?_⟩
  intro content contains
  exact inside content.value _ (.expand shown expands contains)

theorem document_returns_of_readable (isDocument : root.kind? = some .document) :
    Returns (document setting root).outcome ↔
      ∀ siblings trail, Reached setting root siblings trail → ∀ given entry,
        ShownAmong siblings given → Expands setting trail given entry → BodyReadable entry := by
  constructor
  · intro returns siblings trail reached given entry shown expands
    have passes := (blocks_returns_iff (reached_trail reached)).mp (reached_passes returns reached)
    exact (passes given shown entry expands).1
  · intro readable
    have returns := reached_returns readable (.root isDocument)
    rwa [document_eq isDocument]

end Document

/-- A document has a rendering exactly if no entry that is expanded in it has a body that stops the
reader. A placeholder stands for every embedded entry that cannot be rendered. -/
theorem document_returns_iff (setting : Setting) (root : Node)
    (isDocument : root.kind? = some .document)
    (finite : ∀ entry ∈ setting.store.entries, (entry.field "body").isFinite = true) :
    ((∃ text, (document setting root).outcome = .ok text) ↔
      ∀ siblings trail, Reached setting root siblings trail → ∀ given entry,
        ShownAmong siblings given → Expands setting trail given entry → ¬StopsReading entry) ∧
    ∀ embed nested text, Embed.Unrenderable setting embed text →
      (embed.render setting nested).outcome = .ok (Markup.placeholder text) := by
  refine ⟨?_, fun embed nested text => Embed.unrenderable_placeholder nested⟩
  have readable {given : Node} {trail : Trail} {entry : Entry}
      (expands : Expands setting trail given entry) : BodyReadable entry ↔ ¬StopsReading entry :=
    body_readable_iff (finite entry (entry_of_id expands.found).2.1)
  apply (document_returns_of_readable isDocument).trans
  constructor
  · intro all siblings trail reached given entry shown expands
    exact (readable expands).mp (all siblings trail reached given entry shown expands)
  · intro all siblings trail reached given entry shown expands
    exact (readable expands).mpr (all siblings trail reached given entry shown expands)

/-- A text with a number for marks. -/
def numberedMarks : Value :=
  .map [(.text "nodeType", .text "text"), (.text "value", .text "x"), (.text "marks", .int 5)]

def numberedMarksEntry : Entry where
  id := "r"
  contentType := "richText"
  fields := [("body", .map [
    (.text "nodeType", .text "document"), (.text "content", .list [numberedMarks])])]

theorem numbered_marks_stop : Node.Stops (numberedMarksEntry.field "body") := by
  have tagged : Value.field "nodeType" [(.text "nodeType", .text "document"),
      (.text "content", .list [numberedMarks])] = .text "document" := rfl
  have marked : Node.Stops numberedMarks := .marks ⟨⟨"text", rfl, by decide⟩, .inr rfl⟩ rfl rfl
  exact @Node.Stops.child _ [] [] numberedMarks ⟨⟨"document", tagged, by decide⟩, .inl ⟨_, rfl⟩⟩
    (fun present => absurd present nofun) rfl (List.forall_mem_nil _) marked

def numberedMarksSetting : Setting where
  store := { entries := [numberedMarksEntry] }

def embedding : Node := Node.document [.node (Node.embeddedEntry "r" false)]

theorem numbered_marks_stop_document :
    embedding.kind? = some .document ∧
      (∀ entry ∈ numberedMarksSetting.store.entries, (entry.field "body").isFinite = true) ∧
      ¬∃ text, (document numberedMarksSetting embedding).outcome = .ok text := by
  have finite : ∀ entry ∈ numberedMarksSetting.store.entries,
      (entry.field "body").isFinite = true := by
    intro entry member
    obtain rfl := List.mem_singleton.mp member
    rfl
  refine ⟨rfl, finite, ?_⟩
  rw [(document_returns_iff numberedMarksSetting embedding rfl finite).1]
  intro passes
  have shown : ShownAmong embedding.children (Node.embeddedEntry "r" false) :=
    ⟨_, List.mem_cons_self, .self _⟩
  have expands : Expands numberedMarksSetting [] (Node.embeddedEntry "r" false)
      numberedMarksEntry :=
    ⟨rfl, rfl, rfl, rfl, rfl, List.not_mem_nil⟩
  exact passes _ _ (.root rfl) _ _ shown expands ⟨rfl, rfl, numbered_marks_stop⟩

end RichText.Render
