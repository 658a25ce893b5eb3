import RichText.Proofs.Markup.Woven

/-!
What markup tells about the texts in it. An escaped text ends where the next tag begins, and an element
where its own closing tag ends; so a series of elements can be taken apart again, and a table of texts is
known from its markup, cell by cell.
-/

namespace RichText.Markup

open Text (escape)

section Delimited

variable {Item : Type} {written : Item → Text}

/-- Where a written item ends is seen in what is written, whatever comes after it. -/
def Delimited (written : Item → Text) : Prop :=
  ∀ first second rest other, written first ++ rest = written second ++ other →
    first = second ∧ rest = other

/-- Where a written item ends is seen if a closing tag comes after it. -/
def DelimitedInside (written : Item → Text) : Prop :=
  ∀ first second rest other, written first ++ '<' :: '/' :: rest = written second ++ '<' :: '/' :: other →
    first = second ∧ rest = other

/-- Written items start with an opening tag. -/
def Opened (written : Item → Text) : Prop :=
  ∀ item, ∃ first rest, written item = '<' :: first :: rest ∧ first ≠ '/'

theorem injective_of_delimited (delimited : Delimited written) : Function.Injective written := by
  intro first second same
  exact (delimited first second [] [] (by rw [same])).1

theorem inside_of_delimited (delimited : Delimited written) : DelimitedInside written := by
  intro first second rest other same
  obtain ⟨items, remains⟩ := delimited first second _ _ same
  exact ⟨items, (List.cons.inj (List.cons.inj remains).2).2⟩

theorem escape_delimited_inside : DelimitedInside escape := by
  intro first second rest other same
  have free (text : Text) : '<' ∉ escape text := escape_free (.inr (.inl rfl)) text
  obtain ⟨escaped, remains⟩ := Text.cut_at_first (free first) (free second) same
  exact ⟨Text.escape_injective escaped, (List.cons.inj remains).2⟩

theorem element_delimited (tag : Text) (attributes : List (Text × Text))
    (delimited : DelimitedInside written) :
    Delimited fun item => element tag attributes (written item) := by
  intro first second rest other same
  have split (content rest : Text) : element tag attributes content ++ rest =
      ('<' :: tag ++ attributesText attributes ++ [('>' : Char)]) ++
        (content ++ '<' :: '/' :: (tag ++ [('>' : Char)] ++ rest)) := by
    simp [element]
  simp only [split] at same
  obtain ⟨items, remains⟩ := delimited first second _ _ (List.append_cancel_left same)
  exact ⟨items, List.append_cancel_left remains⟩

theorem element_opened {tag : Text} (name : isNameText tag = true) (content : Item → Text) :
    Opened fun item => element tag [] (content item) := by
  intro item
  rw [isNameText, Bool.and_eq_true] at name
  cases tag with
  | nil => exact absurd name.1 Bool.false_ne_true
  | cons first more =>
      refine ⟨first, _, rfl, ?_⟩
      rintro rfl
      exact absurd (List.all_eq_true.mp name.2 '/' List.mem_cons_self) (by decide)

/-- Items in a row end where something else than another item begins. -/
theorem each_delimited (delimited : Delimited written) (opened : Opened written) :
    DelimitedInside fun items : List Item => items.flatMap written := by
  have apart (item : Item) (items : List Item) (rest other : Text) :
      '<' :: '/' :: rest ≠ (item :: items).flatMap written ++ '<' :: '/' :: other := by
    obtain ⟨first, more, start, name⟩ := opened item
    rw [List.flatMap_cons, start]
    intro same
    exact name (List.cons.inj (List.cons.inj same).2).1.symm
  intro first
  induction first with
  | nil =>
      intro second rest other same
      cases second with
      | nil => exact ⟨rfl, (List.cons.inj (List.cons.inj same).2).2⟩
      | cons item second => exact absurd same (apart item second rest other)
  | cons item first induction =>
      intro second rest other same
      cases second with
      | nil => exact absurd same.symm (apart item first other rest)
      | cons next second =>
          simp only [List.flatMap_cons, List.append_assoc] at same
          obtain ⟨rfl, remains⟩ := delimited item next _ _ same
          obtain ⟨rfl, ends⟩ := induction second rest other remains
          exact ⟨rfl, ends⟩

end Delimited

/-! ## Tables -/

theorem data_cells_delimited {tag : Text} (name : isNameText tag = true) :
    Delimited (dataCells tag) :=
  element_delimited "tr" []
    (each_delimited (element_delimited tag [] escape_delimited_inside) (element_opened name escape))

theorem data_rows_delimited :
    DelimitedInside fun rows : List (List Text) => rows.flatMap (dataCells "td") :=
  each_delimited (data_cells_delimited (by decide)) (element_opened (by decide) _)

theorem content_of_element {tag first second : Text} {attributes : List (Text × Text)}
    (same : element tag attributes first = element tag attributes second) : first = second := by
  delta element at same
  have cut := List.append_cancel_right (List.append_cancel_right (List.append_cancel_right same))
  exact List.append_cancel_left cut

/-- Two tables have the same markup exactly if they have the same header and the same rows, those without
cells left out. -/
theorem data_table_eq_iff (cssClass : Text) (header other : List Text) (rows others : List (List Text)) :
    dataTable header rows cssClass = dataTable other others cssClass ↔
      header = other ∧ (rows.filter fun row => !row.isEmpty) = others.filter fun row => !row.isEmpty := by
  constructor
  · intro same
    have heads : Delimited fun header : List Text => element "thead" [] (dataCells "th" header) :=
      element_delimited "thead" [] (inside_of_delimited (data_cells_delimited (by decide)))
    have bodies : Delimited fun rows : List (List Text) =>
        element "tbody" [] (rows.flatMap (dataCells "td")) :=
      element_delimited "tbody" [] data_rows_delimited
    obtain ⟨headers, remains⟩ := heads header other _ _ (content_of_element (content_of_element same))
    exact ⟨headers, injective_of_delimited bodies remains⟩
  · rintro ⟨rfl, same⟩
    delta dataTable
    rw [same]

/-- A cell that spells the end of a cell is still one cell. -/
example : dataTable [] [["a</td><td>b"]] [] ≠ dataTable [] [["a", "b"]] [] := by decide

end RichText.Markup
