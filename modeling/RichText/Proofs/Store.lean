import Mathlib.Data.List.Nodup
import Mathlib.Tactic.SplitIfs
import RichText.Store

/-!
Entities by their ids. Each id is stored once, with the last of the entities that have it.
-/

namespace RichText

variable {α : Type} {idOf : α → Text} {entities : List α} {entity other : α}

theorem ids_insert_by_id (idOf : α → Text) (entities : List α) (entity : α) :
    (insertById idOf entities entity).map idOf =
      if idOf entity ∈ entities.map idOf then entities.map idOf
      else entities.map idOf ++ [idOf entity] := by
  induction entities with
  | nil => rfl
  | cons first entities induction =>
      unfold insertById
      by_cases same : idOf first = idOf entity
      · simp [same]
      · rw [if_neg same, List.map_cons, induction, List.map_cons]
        simp only [List.mem_cons, Ne.symm same, false_or]
        split_ifs <;> rfl

theorem insert_by_id_nodup (distinct : (entities.map idOf).Nodup) (entity : α) :
    ((insertById idOf entities entity).map idOf).Nodup := by
  rw [ids_insert_by_id]
  split_ifs with stored
  · exact distinct
  · exact List.nodup_append.mpr ⟨distinct, List.nodup_singleton _, by simpa using stored⟩

theorem mem_insert_by_id : entity ∈ insertById idOf entities entity := by
  induction entities with
  | nil => exact List.mem_singleton_self entity
  | cons first entities induction =>
      unfold insertById
      split
      · exact List.mem_cons_self
      · exact List.mem_cons_of_mem _ induction

theorem mem_insert_by_id_of_mem (member : other ∈ entities) (different : idOf other ≠ idOf entity) :
    other ∈ insertById idOf entities entity := by
  induction entities with
  | nil => exact absurd member List.not_mem_nil
  | cons first entities induction =>
      unfold insertById
      rcases List.mem_cons.mp member with rfl | member
      · rw [if_neg different]
        exact List.mem_cons_self
      · split
        · exact List.mem_cons_of_mem _ member
        · exact List.mem_cons_of_mem _ (induction member)

theorem by_id_nodup (idOf : α → Text) (entities : List α) : ((byId idOf entities).map idOf).Nodup := by
  unfold byId
  rw [← List.foldr_reverse]
  induction entities.reverse with
  | nil => exact List.nodup_nil
  | cons entity entities induction => exact insert_by_id_nodup induction entity

/-- Of the entities with an id, the last one is stored, and no other. -/
theorem stored_by_id {before after : List α} (last : ∀ other ∈ after, idOf other ≠ idOf entity) :
    entity ∈ byId idOf (before ++ entity :: after) ∧
      ∀ other ∈ byId idOf (before ++ entity :: after), idOf other = idOf entity → other = entity := by
  have stored : entity ∈ byId idOf (before ++ entity :: after) := by
    rw [byId, List.foldl_append, List.foldl_cons]
    have start : entity ∈ insertById idOf (before.foldl (insertById idOf) []) entity := mem_insert_by_id
    generalize insertById idOf (before.foldl (insertById idOf) []) entity = entities at start
    induction after generalizing entities with
    | nil => exact start
    | cons next after induction =>
        obtain ⟨different, others⟩ := List.forall_mem_cons.mp last
        exact induction others _ (mem_insert_by_id_of_mem start (Ne.symm different))
  refine ⟨stored, ?_⟩
  intro other member same
  exact List.inj_on_of_nodup_map (by_id_nodup idOf _) member stored same

end RichText
