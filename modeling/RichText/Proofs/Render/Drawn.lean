import RichText.Proofs.Markup.Composed
import RichText.Proofs.Traced
import RichText.Render.Document

/-!
Renderings whose text is that of a tree with the markers that were emitted on the way. The rules follow
the ways of putting computations together, so that a rendering is checked one step at a time.
-/

namespace RichText

def Notice.emitted? : Notice → Option Marker
  | .markerEmitted given => some given
  | _ => none

namespace Render

open Markup (Token Composed ComposedAll)

/-- The markers that a run has emitted, in order. -/
def emitted (notices : List Notice) : List Marker := notices.filterMap Notice.emitted?

theorem emitted_append (first second : List Notice) :
    emitted (first ++ second) = emitted first ++ emitted second := List.filterMap_append ..

/-- A computation that emits no marker. -/
def Quiet {α : Type} (noted : Noted α) : Prop := emitted noted.notices = []

section Quiet

variable {α β : Type}

theorem quiet_pure (value : α) : Quiet (pure value) := rfl

theorem quiet_note {notice : Notice} (quiet : notice.emitted? = none) : Quiet (Noted.note notice) :=
  List.filterMap_cons_none quiet

theorem quiet_bind {first : Noted α} {next : α → Noted β} (quiet : Quiet first)
    (further : ∀ value, Quiet (next value)) : Quiet (first >>= next) := by
  unfold Quiet at quiet ⊢
  rw [Noted.bind_notices, emitted_append, quiet, further first.value]
  rfl

end Quiet

/-- The result of a computation fits the markers that it has emitted. Where it may fail it may also have
no result. -/
def Drawn {α : Type} (fits : List Marker → α → Prop) (fails : Prop) (traced : Traced Fault α) : Prop :=
  match traced.outcome with
  | .ok value => fits (emitted traced.notices) value
  | .error _ => fails

section Rules

variable {α β : Type} {fits : List Marker → α → Prop} {fails : Prop}

theorem drawn_imp {traced : Traced Fault α} {weaker : List Marker → α → Prop}
    (drawn : Drawn fits fails traced) (implies : ∀ markers value, fits markers value → weaker markers value) :
    Drawn weaker fails traced := by
  unfold Drawn at drawn ⊢
  cases outcome : traced.outcome with
  | ok value =>
      rw [outcome] at drawn
      exact implies _ value drawn
  | error fault =>
      rw [outcome] at drawn
      exact drawn

theorem drawn_pure {value : α} (fit : fits [] value) : Drawn fits fails (pure value) := fit

theorem drawn_of_quiet {noted : Noted α} (quiet : Quiet noted) (fit : fits [] noted.value) :
    Drawn fits fails (Traced.ofNoted noted) := by
  unfold Quiet at quiet
  change fits (emitted noted.notices) noted.value
  rwa [quiet]

theorem drawn_note {notice : Notice} {rest : Unit → Traced Fault α} (quiet : notice.emitted? = none)
    (drawn : Drawn fits fails (rest ())) : Drawn fits fails (Traced.note notice >>= rest) := by
  rw [Traced.note_bind]
  have same : emitted (notice :: (rest ()).notices) = emitted (rest ()).notices :=
    List.filterMap_cons_none quiet
  unfold Drawn at drawn ⊢
  rw [same]
  exact drawn

/-- A computation that goes on with the result of another one emits its markers after those of the
first. -/
theorem drawn_bind {first : Traced Fault α} {next : α → Traced Fault β}
    {result : List Marker → β → Prop} (drawn : Drawn fits fails first)
    (further : ∀ markers value, fits markers value →
      Drawn (fun more => result (markers ++ more)) fails (next value)) :
    Drawn result fails (first >>= next) := by
  unfold Drawn at drawn
  split at drawn
  · rename_i value outcome
    have drawnNext := further _ value drawn
    rw [Traced.bind_of_ok next outcome]
    unfold Drawn at drawnNext ⊢
    rw [emitted_append]
    exact drawnNext
  · rename_i fault outcome
    rw [Traced.bind_of_error next outcome]
    exact drawn

theorem drawn_map {first : Traced Fault α} {build : α → β} {result : List Marker → β → Prop}
    (drawn : Drawn fits fails first)
    (builds : ∀ markers value, fits markers value → result markers (build value)) :
    Drawn result fails (first >>= fun value => pure (build value)) := by
  apply drawn_bind drawn
  intro markers value fit
  apply drawn_pure
  rw [List.append_nil]
  exact builds markers value fit

end Rules

/-- A rendering is the text of a tree with allowed tokens. -/
abbrev DrawnText (allows : Token → Prop) (fails : Prop) (rendered : Rendered) : Prop :=
  Drawn (Composed allows) fails rendered

theorem drawn_emit {allows : Token → Prop} {fails : Prop} {given : Marker}
    (allowed : allows (.marker given)) : DrawnText allows fails (Embed.emit given) :=
  Markup.composed_marker allowed

theorem drawn_unresolved {allows : Token → Prop} {fails : Prop} {notice : Notice} {text : Text}
    (quiet : notice.emitted? = none) (allowed : allows (.comment text)) :
    DrawnText allows fails (Embed.unresolved notice text) :=
  drawn_note quiet (drawn_pure (Markup.composed_comment allowed))

end Render

end RichText
