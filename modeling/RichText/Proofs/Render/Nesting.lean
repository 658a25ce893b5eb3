import Mathlib.Data.List.Perm.Subperm
import RichText.Proofs.Render.Reach

/-!
The nesting of rich text ends. Every call on the way to a nested document adds the id of one entry to
the trail, which has it nowhere yet. A trail holds ids of the store only, so it is never longer than the
store, and the limit on the depth of a rendering is not met.
-/

namespace RichText.Render

/-! ## Calls -/

/-- Rendering siblings inside of a trail goes into the blocks of a nested document. -/
inductive Asks (setting : Setting) (siblings : List Node) (trail : Trail) : List Node → Trail → Prop
  | expand {given : Node} {entry : Entry} {content : Noted (List Node)}
      (shown : ShownAmong siblings given) (expands : Expands setting trail given entry)
      (contains : content? setting entry = some content) :
      Asks setting siblings trail content.value (trail ++ [entry.id])

/-- The calls that the rendering of a document makes, directly or through others. -/
inductive Reached (setting : Setting) (root : Node) : List Node → Trail → Prop
  | root (isDocument : root.kind? = some .document) : Reached setting root root.children []
  | nested {siblings content : List Node} {trail inner : Trail}
      (reached : Reached setting root siblings trail)
      (asks : Asks setting siblings trail content inner) : Reached setting root content inner

section Agreement

variable {setting : Setting} {first second : Embed.Nested} {trail : Trail}

theorem embedded_of_asked {given : Node} (embeds : given.kind? = some .embeddedEntry)
    (same : ∀ content inner, Asks setting [given] trail content inner →
      first content inner = second content inner) (place : Place) :
    embeddedEntry setting first { id := given.targetId, place, inline := false, trail } =
      embeddedEntry setting second { id := given.targetId, place, inline := false, trail } := by
  cases @embedding_of_node setting trail given embeds place with
  | nested notices expands contains equation =>
      have shown : ShownAmong [given] given := ⟨given, List.mem_singleton_self given, .self given⟩
      rw [equation first, equation second, same _ _ (.expand shown expands contains)]
  | stopped notices expands body stops equation => rw [equation first, equation second]
  | settled result returns flat equation => rw [equation first, equation second]

theorem nodes_congr {other : Trail} {unwrap : Bool} {siblings : List Node}
    (same : ∀ child ∈ siblings, ∀ place, node setting first trail place unwrap child =
      node setting second other place unwrap child) (before : List Node) :
    nodes setting first trail before unwrap siblings =
      nodes setting second other before unwrap siblings := by
  induction siblings generalizing before with
  | nil => rfl
  | cons child siblings induction =>
      have others := induction fun other member => same other (List.mem_cons_of_mem _ member)
      rw [nodes_cons, nodes_cons, same child List.mem_cons_self, others]

theorem node_of_asked (given : Node) :
    (∀ content inner, Asks setting [given] trail content inner →
      first content inner = second content inner) →
    ∀ place unwrap, node setting first trail place unwrap given =
      node setting second trail place unwrap given := by
  induction given using shown_induction with
  | step given induction =>
      intro same place unwrap
      have inside : ∀ child ∈ given.shownChildren, ∀ place,
          node setting first trail place given.unwrapsParagraphs child =
            node setting second trail place given.unwrapsParagraphs child := by
        intro child member place
        apply induction child member
        rintro _ _ ⟨⟨top, isChild, shown⟩, expands, contains⟩
        obtain rfl := List.mem_singleton.mp isChild
        exact same _ _ (.expand ⟨given, List.mem_singleton_self given, .child member shown⟩
          expands contains)
      rw [node_step, node_step, nodes_congr inside]
      unfold finished
      split
      · rename_i embeds
        simp only [embedded_of_asked embeds same]
      · rfl

/-- A rendering depends on nested documents only where it asks for them. -/
theorem nodes_of_asked {siblings : List Node}
    (same : ∀ content inner, Asks setting siblings trail content inner →
      first content inner = second content inner) (before : List Node) (unwrap : Bool) :
    nodes setting first trail before unwrap siblings =
      nodes setting second trail before unwrap siblings := by
  apply nodes_congr
  intro child member place
  apply node_of_asked
  rintro _ _ ⟨⟨top, isChild, shown⟩, expands, contains⟩
  obtain rfl := List.mem_singleton.mp isChild
  exact same _ _ (.expand ⟨top, member, shown⟩ expands contains)

end Agreement

/-! ## Trails -/

/-- A trail of entries of the store, each of them once. -/
structure Trail.Known (setting : Setting) (trail : Trail) : Prop where
  distinct : trail.Nodup
  stored : ∀ id ∈ trail, ∃ entry ∈ setting.store.entries, entry.id = id

section Trails

variable {setting : Setting} {root : Node} {siblings content : List Node} {trail inner : Trail}

theorem trail_nil_known : Trail.Known setting [] where
  distinct := List.nodup_nil
  stored := fun _ member => absurd member List.not_mem_nil

theorem Trail.Known.length_le (known : Trail.Known setting trail) :
    trail.length ≤ setting.store.entries.length := by
  have inside : trail ⊆ setting.store.entries.map Entry.id := by
    intro id member
    obtain ⟨entry, stored, rfl⟩ := known.stored id member
    exact List.mem_map_of_mem stored
  have shorter := (List.subperm_of_subset known.distinct inside).length_le
  rwa [List.length_map] at shorter

/-- A call for a nested document adds an entry that is not in the trail. -/
theorem asked_trail (known : Trail.Known setting trail)
    (asks : Asks setting siblings trail content inner) :
    Trail.Known setting inner ∧ inner.length = trail.length + 1 := by
  obtain ⟨shown, expands, contains⟩ := asks
  rename_i entry content
  refine ⟨⟨?_, ?_⟩, by simp⟩
  · rw [List.nodup_append]
    refine ⟨known.distinct, List.pairwise_singleton _ _, ?_⟩
    rintro id member other last rfl
    obtain rfl := List.mem_singleton.mp last
    exact expands.fresh member
  · intro id member
    rcases List.mem_append.mp member with before | last
    · exact known.stored id before
    · obtain rfl := List.mem_singleton.mp last
      exact ⟨entry, (entry_of_id expands.found).2.1, rfl⟩

theorem reached_trail (reached : Reached setting root siblings trail) :
    Trail.Known setting trail := by
  induction reached with
  | root isDocument => exact trail_nil_known
  | nested reached asks induction => exact (asked_trail induction asks).1

/-! ## The limit on the depth -/

theorem blocks_within_succ (depth : Nat) :
    blocksWithin setting (depth + 1) siblings trail = (do
      let parts ← nodes setting (blocksWithin setting depth) trail [] false siblings
      return joinBlocks parts) := rfl

/-- Two limits that no trail exceeds give the same rendering. -/
theorem blocks_within_enough {first second : Nat} (known : Trail.Known setting trail)
    (enough : setting.store.entries.length < first + trail.length)
    (others : setting.store.entries.length < second + trail.length) :
    blocksWithin setting first siblings trail = blocksWithin setting second siblings trail := by
  have short := known.length_le
  induction first generalizing second siblings trail with
  | zero => omega
  | succ first induction =>
      obtain ⟨rest, rfl⟩ : ∃ rest, second = rest + 1 := ⟨second - 1, by omega⟩
      have same : ∀ content inner, Asks setting siblings trail content inner →
          blocksWithin setting first content inner = blocksWithin setting rest content inner := by
        intro content inner asks
        obtain ⟨knownInside, longer⟩ := asked_trail known asks
        exact induction knownInside (by omega) (by omega) knownInside.length_le
      rw [blocks_within_succ, blocks_within_succ, nodes_of_asked same]

/-- Inside of a trail of stored entries the recursion has no limit. -/
theorem blocks_eq (known : Trail.Known setting trail) :
    blocks setting siblings trail = (do
      let parts ← nodes setting (blocks setting) trail [] false siblings
      return joinBlocks parts) := by
  have same : ∀ content inner, Asks setting siblings trail content inner →
      blocksWithin setting setting.store.entries.length content inner =
        blocks setting content inner := by
    intro content inner asks
    obtain ⟨knownInside, longer⟩ := asked_trail known asks
    apply blocks_within_enough knownInside
    · omega
    · unfold depthLimit
      omega
  have unrolled : blocks setting siblings trail = (do
      let parts ← nodes setting (blocksWithin setting setting.store.entries.length) trail [] false
        siblings
      return joinBlocks parts) := rfl
  rw [unrolled, nodes_of_asked same]

/-- What holds of a call as soon as it holds of the calls that it asks for holds of all calls. -/
theorem reached_induction {holds : List Node → Trail → Prop}
    (step : ∀ siblings trail, Reached setting root siblings trail →
      (∀ content inner, Asks setting siblings trail content inner → holds content inner) →
      holds siblings trail)
    (reached : Reached setting root siblings trail) : holds siblings trail := by
  -- The induction is on the entries that the trail does not hold yet.
  induction remaining : setting.store.entries.length - trail.length using Nat.strongRecOn
    generalizing siblings trail with
  | ind remaining induction =>
      apply step siblings trail reached
      intro content inner asks
      obtain ⟨knownInside, longer⟩ := asked_trail (reached_trail reached) asks
      have short := knownInside.length_le
      exact induction _ (by omega) (.nested reached asks) rfl

theorem blocks_unique {nested : Embed.Nested}
    (solves : ∀ siblings trail, Reached setting root siblings trail → nested siblings trail = (do
      let parts ← nodes setting nested trail [] false siblings
      return joinBlocks parts))
    (reached : Reached setting root siblings trail) :
    nested siblings trail = blocks setting siblings trail := by
  apply reached_induction ?_ reached
  intro siblings trail reached same
  rw [solves siblings trail reached, blocks_eq (reached_trail reached), nodes_of_asked same]

end Trails

/-- Every call on the way through nested rich text has a trail of different entries of the store, so
nesting is never deeper than the store is large. The rendering of a call goes into nested documents only
where it asks for them, and it is the only solution of the recursion without a limit. -/
theorem nesting_ends (setting : Setting) (root : Node) :
    (∀ siblings trail, Reached setting root siblings trail →
      trail.Nodup ∧ (∀ id ∈ trail, ∃ entry ∈ setting.store.entries, entry.id = id) ∧
        trail.length ≤ setting.store.entries.length) ∧
    (∀ siblings trail, Reached setting root siblings trail → ∀ nested : Embed.Nested,
      (∀ content inner, Asks setting siblings trail content inner →
        nested content inner = blocks setting content inner) →
      blocks setting siblings trail = (do
        let parts ← nodes setting nested trail [] false siblings
        return joinBlocks parts)) ∧
    ∀ nested : Embed.Nested,
      (∀ siblings trail, Reached setting root siblings trail → nested siblings trail = (do
        let parts ← nodes setting nested trail [] false siblings
        return joinBlocks parts)) →
      ∀ siblings trail, Reached setting root siblings trail →
        nested siblings trail = blocks setting siblings trail := by
  refine ⟨?_, ?_, ?_⟩
  · intro siblings trail reached
    have known := reached_trail reached
    exact ⟨known.distinct, known.stored, known.length_le⟩
  · intro siblings trail reached nested same
    rw [blocks_eq (reached_trail reached), nodes_of_asked same]
  · intro nested solves siblings trail reached
    exact blocks_unique solves reached

end RichText.Render
