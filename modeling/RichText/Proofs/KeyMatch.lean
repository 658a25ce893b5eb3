import Mathlib.Data.List.Infix
import RichText.KeyMatch
import RichText.Proofs.Text.Case
import RichText.Proofs.Text.Pieces

/-!
Which key a hint means. Keys are compared in their normal form, and each is ranked by the closest rule
under which the hint means it. The key that is found has the least rank, and of the keys with this rank
it comes first; there is none exactly if no key is a part of the hint. The keys of a set are sorted first,
so it does not count how they are listed.
-/

namespace RichText.Text

/-! ## Texts in order -/

theorem precedes_cons_iff {char other : Char} {others rest : Text} :
    precedes (char :: others) (other :: rest) = true ↔
      char < other ∨ char = other ∧ precedes others rest = true := by
  rw [precedes, Bool.or_eq_true, Bool.and_eq_true, decide_eq_true_eq, decide_eq_true_eq]

theorem precedes_total (left right : Text) :
    precedes left right = true ∨ precedes right left = true := by
  induction left generalizing right with
  | nil => exact .inl rfl
  | cons char others induction =>
      cases right with
      | nil => exact .inr rfl
      | cons other rest =>
          rw [precedes_cons_iff, precedes_cons_iff]
          rcases Std.lt_trichotomy char other with before | rfl | behind
          · exact .inl (.inl before)
          · rcases induction rest with ordered | ordered
            · exact .inl (.inr ⟨rfl, ordered⟩)
            · exact .inr (.inr ⟨rfl, ordered⟩)
          · exact .inr (.inl behind)

theorem precedes_trans {first second third : Text} (before : precedes first second = true)
    (behind : precedes second third = true) : precedes first third = true := by
  induction first generalizing second third with
  | nil => rfl
  | cons char others induction =>
      cases second with
      | nil => exact absurd before Bool.false_ne_true
      | cons other rest =>
          cases third with
          | nil => exact absurd behind Bool.false_ne_true
          | cons last further =>
              rw [precedes_cons_iff] at before behind ⊢
              rcases before with less | ⟨rfl, before⟩
              · rcases behind with more | ⟨rfl, -⟩
                · exact .inl (Std.lt_trans less more)
                · exact .inl less
              · rcases behind with more | ⟨rfl, behind⟩
                · exact .inl more
                · exact .inr ⟨rfl, induction before behind⟩

theorem precedes_antisymm {left right : Text} (before : precedes left right = true)
    (behind : precedes right left = true) : left = right := by
  induction left generalizing right with
  | nil =>
      cases right with
      | nil => rfl
      | cons other rest => exact absurd behind Bool.false_ne_true
  | cons char others induction =>
      cases right with
      | nil => exact absurd before Bool.false_ne_true
      | cons other rest =>
          rw [precedes_cons_iff] at before behind
          rcases before with less | ⟨rfl, before⟩
          · rcases behind with more | ⟨rfl, -⟩
            · exact (Std.lt_irrefl (Std.lt_trans less more)).elim
            · exact (Std.lt_irrefl less).elim
          · rcases behind with more | ⟨-, behind⟩
            · exact (Std.lt_irrefl more).elim
            · rw [induction before behind]

/-- Sorting leaves nothing of the order in which texts are listed. -/
theorem sorted_of_perm {texts others : List Text} (same : texts.Perm others) :
    sorted texts = sorted others := by
  have ordered (texts : List Text) :
      (sorted texts).Pairwise fun left right => precedes left right = true := by
    apply List.pairwise_mergeSort
    · intro first second third
      exact precedes_trans
    · intro left right
      rw [Bool.or_eq_true]
      exact precedes_total left right
  have listed : (sorted texts).Perm (sorted others) :=
    (List.mergeSort_perm texts _).trans (same.trans (List.mergeSort_perm others _).symm)
  apply List.Perm.eq_of_pairwise ?_ (ordered texts) (ordered others) listed
  intro left right _ _
  exact precedes_antisymm

end RichText.Text

namespace RichText.KeyMatch

variable {hint key : Text} {keys : List Text}

/-! ## Keys in normal form -/

theorem normal_normal (text : Text) : normal (normal text) = normal text := by
  rw [normal, normal, Text.trim_lower_trim, Text.lower_lower]

theorem mem_normal_keys :
    key ∈ normalKeys keys ↔ (∃ written ∈ keys, normal written = key) ∧ key ≠ [] := by
  rw [normalKeys, Text.mem_distinct, List.mem_filter, List.mem_map, Bool.not_eq_true',
    List.isEmpty_eq_false_iff]

/-- Keys in normal form are not changed by being collected once more. -/
theorem of_mem_normal_keys_twice (member : key ∈ normalKeys (normalKeys keys)) :
    key ∈ normalKeys keys := by
  obtain ⟨⟨written, inside, rfl⟩, -⟩ := mem_normal_keys.mp member
  obtain ⟨⟨first, -, rfl⟩, -⟩ := mem_normal_keys.mp inside
  rwa [normal_normal]

theorem normal_of_mem (member : key ∈ normalKeys keys) : normal key = key := by
  obtain ⟨⟨written, -, rfl⟩, -⟩ := mem_normal_keys.mp member
  exact normal_normal written

theorem mem_normal_keys_twice (member : key ∈ normalKeys keys) :
    key ∈ normalKeys (normalKeys keys) :=
  mem_normal_keys.mpr ⟨⟨key, member, normal_of_mem member⟩, (mem_normal_keys.mp member).2⟩

theorem trim_of_normal (same : normal key = key) : Text.trim key = key := by
  rw [← same, normal, Text.trim_lower_trim]

/-! ## Ranks -/

/-- How closely a hint means a key: 1 if they are the same, 2 if the key is a word of the hint, 3 if the
hint starts with it, and 4 if it holds it anywhere else. -/
def rank? (hint key : Text) : Option Nat :=
  if hint = key then some 1
  else if Text.IsWord Text.isAnchorSeparator key hint then some 2
  else if key <+: hint then some 3
  else if key <:+: hint then some 4
  else none

/-- The rank that a rule gives. -/
def Rule.rank : Rule → Nat
  | .exact => 1
  | .word => 2
  | .start => 3
  | .part => 4

theorem mem_all (rule : Rule) : rule ∈ Rule.all := by cases rule <;> decide

theorem closer_rules {rule other : Rule} {before after : List Rule}
    (same : Rule.all = before ++ rule :: after) : other ∈ before ↔ other.rank < rule.rank := by
  have ascending : Rule.all.Pairwise fun first second => first.rank < second.rank := by decide
  have listed := mem_all other
  rw [same, List.pairwise_append, List.pairwise_cons] at ascending
  obtain ⟨-, ⟨behind, -⟩, front⟩ := ascending
  constructor
  · intro member
    exact front other member rule List.mem_cons_self
  · intro closer
    rw [same, List.mem_append, List.mem_cons] at listed
    rcases listed with member | rfl | member
    · exact member
    · exact absurd closer (lt_irrefl _)
    · exact absurd (behind other member) (lt_asymm closer)

theorem rule_of_rank {rule other : Rule} (same : rule.rank = other.rank) : rule = other := by
  cases rule <;> cases other <;> first | rfl | exact absurd same (by decide)

theorem rank_eq (hint key : Text) :
    rank? hint key = (Rule.all.find? fun rule => rule.holds hint key).map Rule.rank := by
  have exact : hint = key ↔ Rule.exact.holds hint key = true := by
    rw [Rule.holds, decide_eq_true_eq]
  have word : Text.IsWord Text.isAnchorSeparator key hint ↔ Rule.word.holds hint key = true := by
    rw [Rule.holds, List.contains_iff_mem, Text.mem_words_iff]
  have start : key <+: hint ↔ Rule.start.holds hint key = true := List.isPrefixOf_iff_prefix.symm
  have part : key <:+: hint ↔ Rule.part.holds hint key = true := (Text.has_part_iff key hint).symm
  simp only [rank?, exact, word, start, part, Rule.all, List.find?_cons]
  cases Rule.exact.holds hint key
  · cases Rule.word.holds hint key
    · cases Rule.start.holds hint key
      · cases Rule.part.holds hint key <;> rfl
      · rfl
    · rfl
  · rfl

/-- The rank of a key is the one of the closest rule under which the hint means it. -/
theorem rank_eq_some_iff {rank : Nat} : rank? hint key = some rank ↔
    ∃ rule : Rule, rule.rank = rank ∧ rule.holds hint key = true ∧
      ∀ other : Rule, other.rank < rule.rank → other.holds hint key = false := by
  rw [rank_eq, Option.map_eq_some_iff]
  constructor
  · rintro ⟨rule, found, rfl⟩
    obtain ⟨holds, before, after, same, fails⟩ := List.find?_eq_some_iff_append.mp found
    refine ⟨rule, rfl, holds, ?_⟩
    intro other closer
    simpa using fails other ((closer_rules same).mpr closer)
  · rintro ⟨rule, rfl, holds, fails⟩
    obtain ⟨before, after, same⟩ := List.append_of_mem (mem_all rule)
    refine ⟨rule, List.find?_eq_some_iff_append.mpr ⟨holds, before, after, same, ?_⟩, rfl⟩
    intro other member
    simp [fails other ((closer_rules same).mp member)]

theorem unranked_iff : rank? hint key = none ↔ ∀ rule : Rule, rule.holds hint key = false := by
  rw [rank_eq, Option.map_eq_none_iff, List.find?_eq_none]
  constructor
  · intro fails rule
    simpa using fails rule (mem_all rule)
  · intro fails rule _
    simp [fails rule]

/-- Every rule is met by parts of the hint only, and every part meets the last one. -/
theorem rank_eq_none_iff : rank? hint key = none ↔ ¬key <:+: hint := by
  constructor
  · intro unranked inside
    unfold rank? at unranked
    split_ifs at unranked
  · intro outside
    unfold rank?
    split_ifs with same isWord starts
    · exact absurd (same ▸ List.infix_rfl) outside
    · obtain ⟨-, -, before, after, rfl, -⟩ := isWord
      exact absurd ⟨before, after, by simp⟩ outside
    · exact absurd starts.isInfix outside
    · rfl

/-! ## The closest key -/

/-- The key of the least rank, and of those with this rank the one that comes first. -/
def Closest (hint : Text) (keys : List Text) (key : Text) : Prop :=
  key ∈ keys ∧ ∃ rank, rank? hint key = some rank ∧
    ∀ other ∈ keys, ∀ further, rank? hint other = some further →
      rank < further ∨ rank = further ∧ keys.idxOf key ≤ keys.idxOf other

theorem Closest.unique {other : Text} (closest : Closest hint keys key)
    (also : Closest hint keys other) : key = other := by
  obtain ⟨member, rank, ranked, least⟩ := closest
  obtain ⟨otherMember, otherRank, otherRanked, otherLeast⟩ := also
  have before := least other otherMember otherRank otherRanked
  have after := otherLeast key member rank ranked
  have place : keys.idxOf key = keys.idxOf other := by omega
  exact (List.idxOf_inj member).mp place

/-- The key that is found is the first that its rule holds for, and no closer rule holds for any. -/
theorem found_first {rule : Rule} (found : find? hint keys = some (rule, key)) :
    rule.holds hint key = true ∧
      (∃ before after, keys = before ++ key :: after ∧
        ∀ other ∈ before, rule.holds hint other = false) ∧
        ∀ closer : Rule, closer.rank < rule.rank → ∀ other ∈ keys, closer.holds hint other = false := by
  obtain ⟨closer, tried, looser, order, first, none⟩ := List.findSome?_eq_some_iff.mp found
  obtain ⟨other, located, same⟩ := Option.map_eq_some_iff.mp first
  obtain ⟨rfl, rfl⟩ := Prod.mk.inj same
  obtain ⟨holds, before, after, split, fails⟩ := List.find?_eq_some_iff_append.mp located
  refine ⟨holds, ⟨before, after, split, ?_⟩, ?_⟩
  · intro key member
    simpa using fails key member
  · intro rule less key member
    have nowhere := Option.map_eq_none_iff.mp (none rule ((closer_rules order).mpr less))
    simpa using List.find?_eq_none.mp nowhere key member

theorem first_place {holds : Text → Bool} {before after : List Text} {other : Text}
    (fails : ∀ key ∈ before, holds key = false) (held : holds key = true)
    (further : holds other = true) :
    (before ++ key :: after).idxOf key ≤ (before ++ key :: after).idxOf other := by
  have later {key : Text} (held : holds key = true) : key ∉ before := by
    intro early
    exact absurd (held.symm.trans (fails key early)) (by decide)
  rw [List.idxOf_append_of_notMem (later held), List.idxOf_append_of_notMem (later further),
    List.idxOf_cons_self]
  omega

theorem closest_of_found {rule : Rule} (found : find? hint keys = some (rule, key)) :
    Closest hint keys key := by
  obtain ⟨holds, ⟨before, after, rfl, fails⟩, unmeant⟩ := found_first found
  have member : key ∈ before ++ key :: after := by simp
  refine ⟨member, rule.rank, ?_, ?_⟩
  · exact rank_eq_some_iff.mpr ⟨rule, rfl, holds, fun closer less => unmeant closer less key member⟩
  · intro other inside further ranked
    obtain ⟨tried, rfl, meant, -⟩ := rank_eq_some_iff.mp ranked
    rcases lt_trichotomy rule.rank tried.rank with less | equal | more
    · exact .inl less
    · obtain rfl := rule_of_rank equal
      exact .inr ⟨rfl, first_place fails holds meant⟩
    · exact absurd (meant.symm.trans (unmeant tried more other inside)) (by decide)

theorem found_none_iff : find? hint keys = none ↔ ∀ key ∈ keys, ¬key <:+: hint := by
  rw [find?, List.findSome?_eq_none_iff]
  constructor
  · intro none key member
    rw [← rank_eq_none_iff, unranked_iff]
    intro rule
    have nowhere := Option.map_eq_none_iff.mp (none rule (mem_all rule))
    simpa using List.find?_eq_none.mp nowhere key member
  · intro outside rule _
    rw [Option.map_eq_none_iff, List.find?_eq_none]
    intro key member
    simp [unranked_iff.mp (rank_eq_none_iff.mpr (outside key member)) rule]

theorem resolve_value (hint : Text) (keys : List Text) :
    (resolve hint keys).value = (find? (normal hint) (normalKeys keys)).map Prod.snd := by
  unfold resolve
  simp only
  split_ifs with empty
  · -- No key is a part of an empty hint, and where there is no key none is found.
    have none : find? (normal hint) (normalKeys keys) = none := by
      rw [found_none_iff]
      intro key member inside
      rcases Bool.or_eq_true_iff.mp empty with noHint | noKeys
      · rw [List.isEmpty_iff.mp noHint] at inside
        exact (mem_normal_keys.mp member).2 (List.infix_nil.mp inside)
      · rw [List.isEmpty_iff.mp noKeys] at member
        exact absurd member List.not_mem_nil
    rw [none]
    rfl
  · cases find? (normal hint) (normalKeys keys) with
    | none => rfl
    | some found => rfl

/-- A key means itself, whatever other keys are parts of it. -/
theorem found_exact (member : key ∈ keys) : find? key keys = some (.exact, key) := by
  have first : (keys.find? fun other => Rule.exact.holds key other) = some key := by
    cases found : keys.find? fun other => Rule.exact.holds key other with
    | none =>
        have missed := List.find?_eq_none.mp found key member
        exact absurd (decide_eq_true rfl) missed
    | some other =>
        have holds := List.find?_some found
        obtain rfl : key = other := of_decide_eq_true holds
        rfl
  rw [find?, Rule.all, List.findSome?_cons, first]
  rfl

theorem resolve_known (member : key ∈ normalKeys keys) : (resolve key keys).value = some key := by
  rw [resolve_value, normal_of_mem member, found_exact member]
  rfl

theorem resolved_closest (resolved : (resolve hint keys).value = some key) :
    Closest (normal hint) (normalKeys keys) key := by
  rw [resolve_value] at resolved
  obtain ⟨⟨rule, other⟩, found, rfl⟩ := Option.map_eq_some_iff.mp resolved
  exact closest_of_found found

theorem unresolved_iff :
    (resolve hint keys).value = none ↔ ∀ key ∈ normalKeys keys, ¬key <:+: normal hint := by
  rw [resolve_value, Option.map_eq_none_iff, found_none_iff]

/-- Whichever rule decides, a hint is resolved to one of the keys. -/
theorem resolved_mem (resolved : (resolve hint keys).value = some key) : key ∈ normalKeys keys :=
  (resolved_closest resolved).1

theorem normal_keys_eq (keys : List Text) :
    normalKeys keys = ((keys.map normal).filter fun key => key ≠ []).eraseDups := by
  rw [normalKeys, Text.distinct_eq]
  congr 1
  apply List.filter_congr
  intro key _
  cases key <;> rfl

/-- The exact meaning of a hint. With the keys in normal form, without empty ones and each at its first
place, a hint means none of them exactly if it is blank or no key is a part of it, and otherwise it means
the closest of them. -/
theorem resolved_iff_closest (hint : Text) (keys : List Text) :
    let meant := ((keys.map normal).filter fun key => key ≠ []).eraseDups
    ((resolve hint keys).value = none ↔ normal hint = [] ∨ ∀ key ∈ meant, ¬key <:+: normal hint) ∧
      ∀ key, (resolve hint keys).value = some key ↔ Closest (normal hint) meant key := by
  intro meant
  have collected : normalKeys keys = meant := normal_keys_eq keys
  rw [← collected, unresolved_iff]
  refine ⟨?_, ?_⟩
  · constructor
    · exact .inr
    · rintro (blank | outside)
      · intro key member inside
        rw [blank] at inside
        exact (mem_normal_keys.mp member).2 (List.infix_nil.mp inside)
      · exact outside
  · intro key
    constructor
    · exact resolved_closest
    · intro closest
      cases resolved : (resolve hint keys).value with
      | none =>
          obtain ⟨member, rank, ranked, -⟩ := closest
          have unranked := rank_eq_none_iff.mpr (unresolved_iff.mp resolved key member)
          rw [ranked] at unranked
          exact absurd unranked nofun
      | some other => rw [(resolved_closest resolved).unique closest]

/-- A whole word goes before the start of the hint, though its key comes later. -/
example : (resolve " FOODBANK-services" ["food", "bank", " FoodBank "]).value =
    some "foodbank".toList := by decide +kernel

/-! ## Sets of keys -/

/-- What a hint means among the keys of a set, and what is reported, does not depend on how the set is
listed. -/
theorem resolve_among_listed {others : List Text} (hint : Option Text) (same : keys.Perm others) :
    resolveAmong hint (.set keys) = resolveAmong hint (.set others) := by
  have tried : Known.keys (.set keys) = Known.keys (.set others) := Text.sorted_of_perm same
  cases hint with
  | none => rfl
  | some hint => rw [resolveAmong, resolveAmong, tried]

end RichText.KeyMatch
