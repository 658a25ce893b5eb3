import Mathlib.Data.List.Basic
import Mathlib.Logic.Relation
import RichText.HeadingScope
import RichText.Node.Build
import RichText.Proofs.Traced

/-!
How far a heading reaches. The hint of a place is settled by one sibling before it, the last that is a
heading with text or an embedded entry; a heading gives its slug, an embedded entry nothing. Edits of all
other siblings, of what stands before that one, and of what stands behind the place change no hint.
-/

namespace RichText.HeadingScope

/-- A heading with text, or an embedded entry. -/
def Decisive (node : Node) : Prop :=
  (node.isHeading = true ∧ Text.trim node.plainText ≠ []) ∨ node.kind? = some .embeddedEntry

instance : DecidablePred Decisive := fun _ => inferInstanceAs (Decidable (_ ∨ _))

/-- The hint that a decisive node leaves to the siblings behind it. -/
def hintOf? (node : Node) : Option Text :=
  if node.isHeading then
    let hint := Text.hintSlug (Text.trim node.plainText)
    if hint = [] then none else some hint
  else none

/-- The siblings before an index; all of them if the index is behind the last. -/
def siblingsBefore (siblings : List Node) (index : Int) : List Node :=
  siblings.take (min index siblings.length).toNat

def lastDecisive? (siblings : List Node) (index : Int) : Option Node :=
  ((siblingsBefore siblings index).filter fun node => Decisive node).getLast?

/-- The hint of the node at an index. -/
def hintAt (siblings : List Node) (index : Int) : Option Text :=
  (hint (.ofSiblings siblings index)).value

/-! ## The last decisive sibling -/

section Decisive

variable {node : Node}

theorem heading_not_embedded (isHeading : node.isHeading = true) :
    node.kind? ≠ some .embeddedEntry := by
  intro embeds
  unfold Node.isHeading Node.headingLevel? Node.Tag.headingLevel? at isHeading
  unfold Node.kind? Node.Tag.kind? at embeds
  split at isHeading
  · rename_i level tag
    rw [tag] at embeds
    exact absurd embeds nofun
  · exact absurd isHeading nofun

theorem heading_decisive_iff (isHeading : node.isHeading = true) :
    Decisive node ↔ Text.trim node.plainText ≠ [] := by
  have notEmbedded := heading_not_embedded isHeading
  simp only [Decisive, isHeading, notEmbedded, true_and, or_false]

theorem other_decisive_iff (other : ¬node.isHeading = true) :
    Decisive node ↔ node.kind? = some .embeddedEntry := by
  rw [Decisive, or_iff_right]
  rintro ⟨isHeading, -⟩
  exact other isHeading

/-- A hint is the slug of a heading, with at least one character. -/
theorem hint_of_heading {hint : Text} (given : hintOf? node = some hint) :
    node.isHeading = true ∧ hint = Text.hintSlug (Text.trim node.plainText) ∧ hint ≠ [] := by
  simp only [hintOf?] at given
  split_ifs at given with isHeading blank
  obtain rfl := Option.some.inj given
  exact ⟨isHeading, rfl, blank⟩

end Decisive

/-- The walk ends at the first decisive node that it meets. -/
theorem hint_before_value (index : Int) (before : List Node) :
    (hintBefore index before).value =
      (before.find? fun node => Decisive node).bind hintOf? := by
  induction before with
  | nil => rfl
  | cons node before induction =>
      rw [hintBefore, List.find?_cons]
      by_cases isHeading : node.isHeading = true
      · simp only [heading_decisive_iff isHeading, if_pos isHeading]
        by_cases blank : Text.trim node.plainText = []
        · simp only [blank]
          exact induction
        · simp only [List.isEmpty_iff, if_neg blank, decide_eq_true blank, Option.bind_some, hintOf?,
            if_pos isHeading]
          rfl
      · simp only [other_decisive_iff isHeading, if_neg isHeading]
        by_cases embeds : node.kind? = some .embeddedEntry
        · simp only [if_pos embeds, decide_eq_true embeds, Option.bind_some, hintOf?,
            if_neg isHeading]
          rfl
        · simp only [if_neg embeds, decide_eq_false embeds]
          exact induction

theorem siblings_before_eq (siblings : List Node) (index : Int) :
    siblingsBefore siblings index = siblings.take index.toNat := by
  unfold siblingsBefore
  rcases Int.le_total index siblings.length with inside | outside
  · rw [Int.min_eq_left inside]
  · rw [Int.min_eq_right outside, Int.toNat_natCast, List.take_length,
      List.take_of_length_le (by omega)]

theorem hint_at_eq (siblings : List Node) (index : Int) :
    hintAt siblings index = (lastDecisive? siblings index).bind hintOf? := by
  rw [lastDecisive?, siblings_before_eq, ← List.head?_reverse, ← List.filter_reverse,
    List.head?_filter]
  exact hint_before_value index _

/-! ## Edits -/

/-- An edit of siblings that moves an index along: of those that decide nothing, of those before a
decisive one, or of those from the index on. -/
inductive Edit : List Node × Int → List Node × Int → Prop
  | idle {front old new back : List Node} {index : Int}
      (oldIdle : ∀ node ∈ old, ¬Decisive node) (newIdle : ∀ node ∈ new, ¬Decisive node)
      (passed : front.length + old.length ≤ index) :
      Edit (front ++ old ++ back, index) (front ++ new ++ back, index - old.length + new.length)
  | outer {old new back : List Node} {node : Node} {index : Int} (decisive : Decisive node)
      (passed : old.length < index) :
      Edit (old ++ node :: back, index) (new ++ node :: back, index - old.length + new.length)
  | behind {front old new : List Node} {index : Int} (ahead : index ≤ front.length) :
      Edit (front ++ old, index) (front ++ new, index)

/-- Siblings that decide nothing leave the decisive ones as they are. -/
theorem filter_idle {front idle : List Node} (rest : List Node)
    (none : ∀ node ∈ idle, ¬Decisive node) :
    (front ++ idle ++ rest).filter (fun node => Decisive node) =
      front.filter (fun node => Decisive node) ++ rest.filter fun node => Decisive node := by
  have empty : idle.filter (fun node => Decisive node) = [] := by
    rw [List.filter_eq_nil_iff]
    simpa using none
  rw [List.filter_append, List.filter_append, empty, List.append_nil]

/-- What stands before a decisive sibling does not reach beyond it. -/
theorem last_from_decisive {node : Node} (outer rest : List Node) (decisive : Decisive node) :
    ((outer ++ node :: rest).filter fun node => Decisive node).getLast? =
      ((node :: rest).filter fun node => Decisive node).getLast? := by
  have kept : (node :: rest).filter (fun node => Decisive node) ≠ [] := by
    rw [List.filter_cons_of_pos (by simpa using decisive)]
    exact List.cons_ne_nil _ _
  rw [List.filter_append, List.getLast?_append_of_ne_nil _ kept]

theorem edit_last_decisive {first second : List Node × Int} (edit : Edit first second) :
    lastDecisive? second.1 second.2 = lastDecisive? first.1 first.2 := by
  simp only [lastDecisive?, siblings_before_eq]
  cases edit with
  | @idle front old new back index oldIdle newIdle passed =>
      -- The index lies behind the edited siblings, so as much of the back is before it as it was.
      obtain ⟨more, rfl⟩ : ∃ more : Nat, index = front.length + old.length + more :=
        ⟨(index - front.length - old.length).toNat, by omega⟩
      have before : ((front.length + old.length + more : Int)).toNat =
          (front ++ old).length + more := by
        rw [List.length_append]
        omega
      have after : ((front.length + old.length + more : Int) - old.length + new.length).toNat =
          (front ++ new).length + more := by
        rw [List.length_append]
        omega
      simp only [before, after, List.take_length_add_append, filter_idle _ oldIdle,
        filter_idle _ newIdle]
  | @outer old new back node index decisive passed =>
      -- One more than the edited siblings: the decisive one itself is before the index.
      obtain ⟨more, rfl⟩ : ∃ more : Nat, index = old.length + (more + 1 : Nat) :=
        ⟨(index - old.length - 1).toNat, by omega⟩
      have before : ((old.length + (more + 1 : Nat) : Int)).toNat = old.length + (more + 1) := by
        omega
      have after : ((old.length + (more + 1 : Nat) : Int) - old.length + new.length).toNat =
          new.length + (more + 1) := by
        omega
      simp only [before, after, List.take_length_add_append, List.take_succ_cons,
        last_from_decisive _ _ decisive]
  | @behind front old new index ahead =>
      have inside : index.toNat ≤ front.length := by omega
      simp only [List.take_append_of_le_length inside]

theorem edits_last_decisive {first second : List Node × Int}
    (edits : Relation.ReflTransGen Edit first second) :
    lastDecisive? second.1 second.2 = lastDecisive? first.1 first.2 := by
  induction edits with
  | refl => rfl
  | tail _ edit induction => exact (edit_last_decisive edit).trans induction

/-- The hint of a place is the one of the last decisive sibling before it; there is none without such a
sibling, and none before the first node. However siblings are edited that decide nothing, or stand before
the last decisive one, or from the place on, its hint stays the same. -/
theorem hint_of_last_decisive (siblings : List Node) (index : Int) :
    hintAt siblings index = (lastDecisive? siblings index).bind hintOf? ∧
      ((index ≤ 0 ∨ ∀ node ∈ siblingsBefore siblings index, ¬Decisive node) →
        hintAt siblings index = none) ∧
        ∀ others further, Relation.ReflTransGen Edit (siblings, index) (others, further) →
          hintAt others further = hintAt siblings index := by
  refine ⟨hint_at_eq siblings index, ?_, ?_⟩
  · intro nothing
    have idle : (siblingsBefore siblings index).filter (fun node => Decisive node) = [] := by
      rcases nothing with early | idle
      · rw [siblings_before_eq, Int.toNat_of_nonpos early, List.take_zero, List.filter_nil]
      · rw [List.filter_eq_nil_iff]
        simpa using idle
    rw [hint_at_eq, lastDecisive?, idle]
    rfl
  · intro others further edits
    rw [hint_at_eq, hint_at_eq, edits_last_decisive edits]

def namedHeading (title : Text) : Node :=
  { tag := .ofName "heading-2", children := [Node.text title []] }

/-- A table below its heading, and the same place after a blank heading and a paragraph are put between
them, an embedded entry before the heading, and the table is taken away. -/
theorem edited_table_hint :
    let heading := namedHeading "Food Banks"
    let entry := Node.embeddedEntry "A" false
    let idle := [namedHeading "  ", Node.paragraph [.words "Intro"]]
    hintAt [heading, entry] 1 = some "food-banks".toList ∧
      hintAt (entry :: heading :: idle) 4 = some "food-banks".toList ∧
        hintAt [heading, entry] 0 = none := by
  intro heading entry idle
  have decisive : Decisive heading := by decide +kernel
  have blank : ∀ node ∈ idle, ¬Decisive node := by decide +kernel
  have put : Edit ([heading, entry], 1) (heading :: idle ++ [entry], 3) :=
    @Edit.idle [heading] [] idle [entry] 1 (List.forall_mem_nil _) blank (by decide)
  have before : Edit (heading :: idle ++ [entry], 3) (entry :: heading :: idle ++ [entry], 4) :=
    @Edit.outer [] [entry] (idle ++ [entry]) heading 3 decisive (by decide)
  have behind : Edit (entry :: heading :: idle ++ [entry], 4) (entry :: heading :: idle ++ [], 4) :=
    @Edit.behind (entry :: heading :: idle) [entry] [] 4 (by decide)
  obtain ⟨last, -, edited⟩ := hint_of_last_decisive [heading, entry] 1
  obtain ⟨-, early, -⟩ := hint_of_last_decisive [heading, entry] 0
  have hint : hintAt [heading, entry] 1 = some "food-banks".toList := by
    rw [last]
    decide +kernel
  refine ⟨hint, ?_, early (.inl (Int.le_refl 0))⟩
  rw [← hint]
  exact edited _ _ ((Relation.ReflTransGen.single put).tail before |>.tail behind)

end RichText.HeadingScope
