import RichText.Proofs.Markup.WellFormed
import RichText.Proofs.Render.Embed

/-!
Well-formedness of whole renderings. Whatever texts a store and a document hold, a document that emits
no marker is rendered to a well-formed fragment, at every depth of its rich texts.
-/

namespace RichText.Render

theorem document_well_formed (setting : Setting) (noHook : setting.entryMarkup = none) (root : Node)
    (noComponent : emitted (document setting root).notices = []) (fragment : Text)
    (rendered : (document setting root).outcome = .ok fragment) : Markup.WellFormed fragment := by
  have drawn : DrawnText (fun _ => True) True (document setting root) :=
    any_document_drawn (fun _ => trivial) trivial noHook root
  unfold DrawnText Drawn at drawn
  rw [rendered, noComponent] at drawn
  exact Markup.composed_well_formed drawn

/-- A link, its text and a missing entry that look like the ends of what is written around them. -/
def enclosing : Node :=
  Node.document [
    .node (Node.paragraph [
      .node (Node.hyperlink (some "\"><hr>") [.words "</a>"]),
      .node (Node.embeddedEntry "--><b>" true)]),
    .node Node.rule]

theorem enclosing_well_formed :
    ({} : Setting).entryMarkup = none ∧ emitted (document {} enclosing).notices = [] ∧
      ∃ fragment, (document {} enclosing).outcome = .ok fragment ∧ Markup.WellFormed fragment := by
  have none : emitted (document {} enclosing).notices = [] := by decide +kernel
  have rendered : (document {} enclosing).outcome = .ok ("<p><a href=\"&quot;><hr>\">&lt;/a&gt;</a>" ++
      "<!-- Inline entry: -&gt;<b&gt; (not resolved) --></p>\n\n<hr />").toList := by rfl
  exact ⟨rfl, none, _, rendered, document_well_formed {} rfl enclosing none _ rendered⟩

end RichText.Render
