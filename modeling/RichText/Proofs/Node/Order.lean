import RichText.Node

/-!
The nodes of a tree in the order of the document.
-/

namespace RichText.Node

mutual

/-- The nodes of a tree in the order of the document; those inside of a closed node are left out. -/
def inOrder (closed : Node → Bool) : Node → List Node
  | ⟨tag, children, value, marks, payload⟩ =>
      ⟨tag, children, value, marks, payload⟩ ::
        if closed ⟨tag, children, value, marks, payload⟩ then [] else inOrderAmong closed children

def inOrderAmong (closed : Node → Bool) : List Node → List Node
  | [] => []
  | given :: siblings => inOrder closed given ++ inOrderAmong closed siblings

end

theorem in_order_eq (closed : Node → Bool) (given : Node) :
    given.inOrder closed =
      given :: if closed given then [] else inOrderAmong closed given.children := by
  obtain ⟨tag, children, value, marks, payload⟩ := given
  rw [inOrder]

theorem in_order_among_eq (closed : Node → Bool) (siblings : List Node) :
    inOrderAmong closed siblings = siblings.flatMap (inOrder closed) := by
  induction siblings with
  | nil => rfl
  | cons given siblings induction => rw [inOrderAmong, induction, List.flatMap_cons]

/-- What is found in a tree: at its root, and then in what stands under it. -/
theorem filter_map_in_order {β : Type} (closed : Node → Bool) (found : Node → Option β) (given : Node) :
    (given.inOrder closed).filterMap found = (found given).toList ++
      if closed given then []
      else given.children.flatMap fun child => (child.inOrder closed).filterMap found := by
  rw [in_order_eq, List.filterMap_cons, in_order_among_eq]
  by_cases isClosed : closed given = true
  · rw [if_pos isClosed, if_pos isClosed]
    cases found given
    all_goals rfl
  · rw [if_neg isClosed, if_neg isClosed, List.filterMap_flatMap]
    cases found given
    all_goals rfl

theorem mem_in_order_among {closed : Node → Bool} {siblings : List Node} {top other : Node}
    (member : top ∈ siblings) (inside : other ∈ top.inOrder closed) :
    other ∈ inOrderAmong closed siblings := by
  rw [in_order_among_eq]
  exact List.mem_flatMap_of_mem member inside

/-- All nodes of a document, at every depth. -/
def within (siblings : List Node) : List Node := inOrderAmong (fun _ => false) siblings

end RichText.Node
