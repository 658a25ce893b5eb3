import RichText.Proofs.Marker.Legible
import RichText.Proofs.Text.Join

/-!
Markers survive being written and read. The writer spells a marker that the grammar of the reader
knows, and undoing the references of the values gives back the attributes in their order.
-/

namespace RichText.Marker

open Text (isBlank escapeAttribute unescape trim trim_of_ends)

/-- What a marker must satisfy so that its text says all of it: an id and a key hint without blanks
around them, and further attributes under distinct names of their own, in small letters. -/
structure Writable (marker : Marker) : Prop where
  idPresent : marker.id ≠ []
  idTrimmed : trim marker.id = marker.id
  keyPresent : ∀ key, marker.key = some key → key ≠ []
  keyTrimmed : ∀ key, marker.key = some key → trim key = key
  namesDistinct : (marker.attributes.map Prod.fst).Nodup
  namesFree : ∀ pair ∈ marker.attributes, pair.1 ≠ "id" ∧ pair.1 ≠ "key"
  namesValid : ∀ pair ∈ marker.attributes, isName pair.1 = true
  namesSmall : ∀ pair ∈ marker.attributes, Text.lower pair.1 = pair.1

/-! ## The text of a marker is spelled as the reader expects -/

/-- Attributes with their values as they are written. -/
def escaped (attributes : List (Text × Text)) : List (Text × Text) :=
  attributes.map fun (name, value) => (name, escapeAttribute value)

theorem escape_attribute_no_quote (value : Text) : '"' ∉ escapeAttribute value := by
  intro member
  obtain ⟨char, _, written⟩ := List.mem_flatMap.mp member
  unfold Text.escapeAttributeChar at written
  split_ifs at written with ampersand quote apostrophe
  · exact absurd written (by decide)
  · exact absurd written (by decide)
  · exact absurd written (by decide)
  · exact quote (List.mem_singleton.mp written).symm

theorem spelled_attribute_texts {attributes : List (Text × Text)}
    (valid : ∀ pair ∈ attributes, isName pair.1 = true) :
    SpelledAttributes (escaped attributes)
      (attributes.flatMap fun (name, value) => ' ' :: attributeText name value) := by
  induction attributes with
  | nil => exact .none
  | cons pair attributes induction =>
      obtain ⟨name, value⟩ := pair
      have further := induction fun other member => valid other (List.mem_cons_of_mem _ member)
      have first : SpelledAttributes ((name, escapeAttribute value) :: escaped attributes)
          ([' '] ++ (name ++ '=' :: '"' :: (escapeAttribute value ++ '"' ::
            attributes.flatMap fun (name, value) => ' ' :: attributeText name value))) :=
        .more (by simp) (List.all_eq_true.mp (by decide)) (valid (name, value) (by simp))
          (escape_attribute_no_quote value) further
      simpa [escaped, attributeText] using first

theorem to_text_eq (marker : Marker) :
    marker.toText = "[richdoc".toList ++ '_' :: (marker.kind.label ++
      ((marker.written.flatMap fun (name, value) => ' ' :: attributeText name value) ++ [']'])) := by
  have joined := Text.join_cons " " marker.kind.tag
    (marker.written.map fun (name, value) => attributeText name value)
  have opening (rest : Text) : "[".toList ++ ("richdoc_".toList ++ rest) =
      "[richdoc".toList ++ '_' :: rest := rfl
  unfold toText
  rw [joined, List.flatMap_map]
  unfold Kind.tag
  simp only [List.append_assoc]
  rw [opening]
  rfl

theorem to_text_spelled {marker : Marker}
    (valid : ∀ pair ∈ marker.written, isName pair.1 = true) :
    Spelled marker.kind (escaped marker.written) marker.toText := by
  rw [to_text_eq]
  exact .marker (.inl rfl) (spelled_attribute_texts valid) (List.forall_mem_nil _)

/-- What is written is legible, whatever the values are. -/
theorem to_text_legible {marker : Marker}
    (valid : ∀ pair ∈ marker.written, isName pair.1 = true) : marker.toText.isLegible = true := by
  rw [spelled_legible (to_text_spelled valid), List.all_eq_true]
  intro pair member
  obtain ⟨original, -, rfl⟩ := List.mem_map.mp member
  exact Text.legible_of_nondecimal (Text.nondecimal_of_finished (Text.escape_attribute_finished original.2))

/-! ## Reading the attributes back by name -/

theorem insert_attribute_new {attributes : List (Text × Text)} {name : Text} (value : Text)
    (new : name ∉ attributes.map Prod.fst) :
    insertAttribute attributes name value = attributes ++ [(name, value)] := by
  induction attributes with
  | nil => rfl
  | cons pair attributes induction =>
      obtain ⟨other, old⟩ := pair
      simp only [List.map_cons, List.mem_cons, not_or] at new
      rw [insertAttribute, if_neg (Ne.symm new.1), induction new.2]
      rfl

theorem named_attributes_escaped {attributes : List (Text × Text)}
    (distinct : (attributes.map Prod.fst).Nodup)
    (small : ∀ pair ∈ attributes, Text.lower pair.1 = pair.1) :
    namedAttributes (escaped attributes) = attributes := by
  have unescaped (value : Text) : unescape (escapeAttribute value) = value :=
    Text.unescape_escaped_attribute value
  -- The attributes that are stored already keep their places, so the fold appends at the end.
  have appended : ∀ rest stored : List (Text × Text), ((stored ++ rest).map Prod.fst).Nodup →
      (∀ pair ∈ rest, Text.lower pair.1 = pair.1) →
      (escaped rest).foldl (fun attributes (name, value) =>
        insertAttribute attributes (Text.lower name) (unescape value)) stored = stored ++ rest := by
    intro rest
    induction rest with
    | nil => simp [escaped]
    | cons pair rest induction =>
        obtain ⟨name, value⟩ := pair
        intro stored distinct small
        have new : name ∉ stored.map Prod.fst := by
          rw [List.map_append, List.nodup_append] at distinct
          intro member
          exact distinct.2.2 name member name (by simp) rfl
        have further := induction (stored ++ [(name, value)]) (by simpa using distinct)
          fun other member => small other (List.mem_cons_of_mem _ member)
        simp only [escaped, List.map_cons, List.foldl_cons, small (name, value) (by simp), unescaped,
          insert_attribute_new value new]
        simpa [escaped] using further
  simpa [namedAttributes] using appended attributes [] (by simpa using distinct) small

/-! ## The round trip -/

theorem filter_names_free {attributes : List (Text × Text)}
    (free : ∀ pair ∈ attributes, pair.1 ≠ "id" ∧ pair.1 ≠ "key") :
    (attributes.filter fun (name, _) => name ≠ "id" && name ≠ "key") = attributes := by
  apply List.filter_eq_self.mpr
  intro pair member
  simpa using free pair member

namespace Writable

variable {marker : Marker} (writable : Writable marker)

include writable

theorem key_hint_eq : marker.keyHint? = marker.key := by
  cases key : marker.key with
  | none => simp [keyHint?, key]
  | some hint => simpa [keyHint?, key] using writable.keyPresent hint key

theorem written_eq : marker.written =
    ("id".toList, marker.id) :: ((marker.key.toList.map fun key => ("key".toList, key)) ++
      marker.attributes) := by
  have kept := filter_names_free writable.namesFree
  rw [written, writable.key_hint_eq, kept]
  rfl

theorem written_distinct : (marker.written.map Prod.fst).Nodup := by
  have different : "id".toList ≠ "key".toList := by decide
  have idFree : "id".toList ∉ marker.attributes.map Prod.fst := by
    intro member
    obtain ⟨pair, inside, same⟩ := List.mem_map.mp member
    exact (writable.namesFree pair inside).1 same
  have keyFree : "key".toList ∉ marker.attributes.map Prod.fst := by
    intro member
    obtain ⟨pair, inside, same⟩ := List.mem_map.mp member
    exact (writable.namesFree pair inside).2 same
  rw [writable.written_eq]
  cases marker.key with
  | none =>
      rw [Option.toList_none, List.map_nil, List.nil_append, List.map_cons]
      exact List.nodup_cons.mpr ⟨idFree, writable.namesDistinct⟩
  | some hint =>
      simp only [Option.toList_some, List.map_cons, List.map_nil, List.cons_append, List.nil_append]
      refine List.nodup_cons.mpr ⟨?_, List.nodup_cons.mpr ⟨keyFree, writable.namesDistinct⟩⟩
      intro member
      rcases List.mem_cons.mp member with same | inside
      · exact different same
      · exact idFree inside

/-- What holds of the two reserved names and of all further ones holds of every written name. -/
theorem forall_written {holds : Text → Prop} (id : holds "id") (key : holds "key")
    (further : ∀ pair ∈ marker.attributes, holds pair.1) : ∀ pair ∈ marker.written, holds pair.1 := by
  intro pair member
  rw [writable.written_eq, List.mem_cons, List.mem_append, List.mem_map] at member
  rcases member with rfl | ⟨hint, _, rfl⟩ | member
  · exact id
  · exact key
  · exact further pair member

theorem names_valid : ∀ pair ∈ marker.written, isName pair.1 = true :=
  @forall_written marker writable (fun name => isName name = true) (by decide) (by decide)
    writable.namesValid

theorem names_small : ∀ pair ∈ marker.written, Text.lower pair.1 = pair.1 :=
  @forall_written marker writable (fun name => Text.lower name = name) (by decide) (by decide)
    writable.namesSmall

theorem value_of_id : valueOf "id" marker.written = marker.id := by
  rw [writable.written_eq, valueOf, List.lookup_cons_self]
  rfl

theorem value_of_key : valueOf "key" marker.written = marker.key.getD [] := by
  have other : ("key".toList == "id".toList) = false := by decide
  have absent : marker.attributes.lookup "key".toList = none := by
    apply List.lookup_eq_none_iff.mpr
    intro pair member
    have different := (writable.namesFree pair member).2
    simpa using different.symm
  rw [writable.written_eq, valueOf, List.lookup_cons, other]
  cases marker.key with
  | none =>
      simp only [Option.toList_none, List.map_nil, List.nil_append, absent, Option.getD_none]
  | some hint =>
      simp only [Option.toList_some, List.map_cons, List.cons_append, List.lookup_cons_self,
        Option.getD_some]

theorem further_written :
    (marker.written.filter fun (name, _) => name ≠ "id" && name ≠ "key") = marker.attributes := by
  have kept := filter_names_free writable.namesFree
  rw [writable.written_eq, List.filter_cons_of_neg (by simp), List.filter_append, kept]
  cases marker.key with
  | none => rfl
  | some hint => simp

theorem of_written_escaped : ofWritten? marker.kind (escaped marker.written) = some marker := by
  have named : namedAttributes (escaped marker.written) = marker.written :=
    named_attributes_escaped writable.written_distinct writable.names_small
  have present : marker.id.isEmpty = false := by simpa using writable.idPresent
  rw [ofWritten?]
  simp only [named, writable.value_of_id, writable.value_of_key, writable.further_written,
    writable.idTrimmed, present, Bool.false_eq_true, if_false, Option.some.injEq]
  have key : (if (trim (marker.key.getD [])).isEmpty then none
      else some (trim (marker.key.getD []))) = marker.key := by
    cases hint : marker.key with
    | none => rfl
    | some key =>
        have trimmed := writable.keyTrimmed key hint
        have nonempty := writable.keyPresent key hint
        simp [trimmed, nonempty]
  rw [key]

/-- The text of a marker is read back to it, whatever follows. -/
theorem read_to_text (rest : Text) :
    readWritten? (marker.toText ++ rest) = some (marker.kind, escaped marker.written, rest) :=
  read_written_complete (to_text_spelled writable.names_valid) rest

theorem read_alone :
    readWritten? marker.toText = some (marker.kind, escaped marker.written, []) := by
  simpa only [List.append_nil] using writable.read_to_text []

end Writable

theorem to_text_bracketed (marker : Marker) :
    ∃ inner, marker.toText = '[' :: (inner ++ [']']) := by
  refine ⟨"richdoc".toList ++ '_' :: (marker.kind.label ++
    marker.written.flatMap fun (name, value) => ' ' :: attributeText name value), ?_⟩
  rw [to_text_eq]
  simp

theorem trim_bracketed (inner : Text) : trim ('[' :: (inner ++ [']'])) = '[' :: (inner ++ [']']) := by
  apply trim_of_ends
  · intro char head
    obtain rfl : '[' = char := by simpa using head
    decide
  · intro char last
    rw [← List.cons_append, List.getLast?_concat] at last
    obtain rfl : ']' = char := by simpa using last
    decide

theorem trim_to_text (marker : Marker) : trim marker.toText = marker.toText := by
  obtain ⟨inner, bracketed⟩ := to_text_bracketed marker
  rw [bracketed, trim_bracketed]

/-- Writing a marker and reading the text gives the marker back, its attributes in their order, for
values of any kind. -/
theorem of_text_to_text (marker : Marker) (writable : Writable marker) :
    ofText marker.toText = .ok marker := by
  have legible := to_text_legible writable.names_valid
  rw [ofText, trim_to_text, writable.read_alone]
  simp only [legible, if_true, writable.of_written_escaped]

/-- A marker with quotes, references, brackets and line ends in its values. -/
def hostile : Marker where
  kind := .cards
  id := "a\"]b"
  key := some "food, &amp; drink"
  attributes := [("title", "Rock & \"Roll\" &quot; &#x27; [richdoc_toc id="), ("a-é", ""), ("x", "\n]")]

theorem hostile_round_trip : Writable hostile ∧ ofText hostile.toText = .ok hostile := by
  have writable : Writable hostile := by
    constructor
    · decide
    · decide
    · rintro key ⟨⟩
      decide
    · rintro key ⟨⟩
      decide
    all_goals decide
  exact ⟨writable, of_text_to_text hostile writable⟩

end RichText.Marker
