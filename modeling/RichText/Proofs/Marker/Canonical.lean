import RichText.Proofs.Marker.RoundTrip
import RichText.Proofs.Text.Pieces
import RichText.Proofs.Text.Word

/-!
Writing back what was read. A marker that was read has its attributes under names in small letters, and
these are names themselves, unless a name as it was written holds a dotted capital i. The dot that stays
behind in its small form ends a name, so the marker is written in a form that the reader refuses.
-/

namespace RichText.Marker

open Text (isBlank lower lowerFrom lowerChar trim)

/-! ## Names in small letters -/

theorem dot_not_part : isNamePart '\u0307' = false := by decide +kernel

theorem name_start_small {first : Char} (start : isNameStart first = true) (rest : Text) :
    ∃ small, lowerChar false first rest = [small] ∧ isNameStart small = true := by
  have table : ∀ code < 128, isNameStart (Char.ofNat code) = true →
      Char.ofNat code ≠ 'Σ' ∧ Char.ofNat code ≠ 'İ' ∧
        isNameStart (Text.smallLetter (Char.ofNat code)) = true := by decide +kernel
  obtain ⟨notSigma, notDotted, small⟩ := table first.toNat (name_start_code start).2
    (by rwa [Char.ofNat_toNat])
  rw [Char.ofNat_toNat] at notSigma notDotted small
  exact ⟨_, by rw [lowerChar, if_neg notSigma, if_neg notDotted], small⟩

theorem name_parts_small {text : Text} {afterCased : Bool}
    (parts : ∀ char ∈ text, isNamePart char = true) :
    ∀ small ∈ lowerFrom afterCased text, isNamePart small = true ∨ 'İ' ∈ text ∧ small = '\u0307' := by
  induction text generalizing afterCased with
  | nil => exact List.forall_mem_nil _
  | cons char rest induction =>
      obtain ⟨part, others⟩ := List.forall_mem_cons.mp parts
      intro small member
      rw [lowerFrom, List.mem_append] at member
      rcases member with first | later
      · rw [isNamePart, Bool.or_eq_true, decide_eq_true_eq] at part
        rcases part with word | rfl
        · rcases Text.lower_char_word word small first with kept | ⟨rfl, rfl⟩
          · exact .inl (by rw [isNamePart, kept, Bool.true_or])
          · exact .inr ⟨List.mem_cons_self, rfl⟩
        · have hyphen : lowerChar afterCased '-' rest = ['-'] := by
            rw [lowerChar, if_neg (by decide), if_neg (by decide)]
            decide +kernel
          rw [hyphen, List.mem_singleton] at first
          exact .inl (first ▸ by decide +kernel)
      · rcases induction others small later with kept | ⟨dotted, rfl⟩
        · exact .inl kept
        · exact .inr ⟨List.mem_cons_of_mem _ dotted, rfl⟩

theorem lower_name {name : Text} (named : isName name = true) :
    ∃ first tail, lower name = first :: tail ∧ isNameStart first = true ∧
      ∀ small ∈ tail, isNamePart small = true ∨ 'İ' ∈ name ∧ small = '\u0307' := by
  obtain ⟨first, tail, rfl, start, parts⟩ := is_name_cons named
  obtain ⟨small, same, smallStart⟩ := name_start_small start tail
  refine ⟨small, _, by rw [lower, lowerFrom, same]; rfl, smallStart, ?_⟩
  intro part member
  rcases name_parts_small parts part member with kept | ⟨dotted, rfl⟩
  · exact .inl kept
  · exact .inr ⟨List.mem_cons_of_mem _ dotted, rfl⟩

theorem name_of_undotted {name : Text} (named : isName name = true) (undotted : 'İ' ∉ name) :
    isName (lower name) = true := by
  obtain ⟨first, tail, same, start, parts⟩ := lower_name named
  rw [same, isName, start, Bool.true_and, List.all_eq_true]
  intro part member
  exact (parts part member).resolve_right fun dotted => undotted dotted.1

theorem no_dot_in_name {name : Text} (named : isName name = true) : '\u0307' ∉ name := by
  obtain ⟨first, tail, rfl, start, parts⟩ := is_name_cons named
  rintro (_ | ⟨_, later⟩)
  · exact absurd start (by decide)
  · exact absurd (parts _ later) (by rw [dot_not_part]; decide)

theorem drop_space {first : Char} {rest : Text} (start : isNameStart first = true) :
    (' ' :: first :: rest).dropWhile isBlank = first :: rest := by
  have space : isBlank ' ' = true := by decide
  have visible : ¬isBlank first = true := by simp [name_start_not_blank start]
  rw [List.dropWhile_cons_of_pos space, List.dropWhile_cons_of_neg visible]

/-- The reader stops at an attribute whose name keeps the dot. -/
theorem attribute_unread {name rest : Text} (named : isName name = true) (dotted : 'İ' ∈ name) :
    readAttribute? (' ' :: (lower name ++ rest)) = none := by
  obtain ⟨first, tail, same, start, parts⟩ := lower_name named
  have dot : '\u0307' ∈ tail := by
    have member : '\u0307' ∈ lower name := Text.dot_mem_lower_from dotted
    rw [same] at member
    rcases List.mem_cons.mp member with rfl | later
    · exact absurd start (by decide)
    · exact later
  -- The first character behind the name that is read is the dot, and no equals sign.
  have stops : ∃ more, tail.dropWhile isNamePart = '\u0307' :: more := by
    cases remains : tail.dropWhile isNamePart with
    | nil =>
        have kept := Text.mem_drop_run dot dot_not_part
        rw [remains] at kept
        exact absurd kept List.not_mem_nil
    | cons stop more =>
        have member : stop ∈ tail := (List.dropWhile_sublist _).mem (remains ▸ List.mem_cons_self)
        rcases parts stop member with part | ⟨-, rfl⟩
        · exact absurd (part.symm.trans (Text.rest_not_kept remains)) (by decide)
        · exact ⟨more, rfl⟩
  obtain ⟨more, remains⟩ := stops
  have behind : (tail ++ rest).dropWhile isNamePart = '\u0307' :: (more ++ rest) := by
    rw [List.dropWhile_append, remains]
    rfl
  rw [same, readAttribute?, List.cons_append, drop_space start]
  simp [behind]

/-! ## What is kept of the attributes -/

theorem insert_attribute_names (attributes : List (Text × Text)) (name value : Text) :
    (insertAttribute attributes name value).map Prod.fst =
      if name ∈ attributes.map Prod.fst then attributes.map Prod.fst
      else attributes.map Prod.fst ++ [name] := by
  induction attributes with
  | nil => rfl
  | cons pair attributes induction =>
      obtain ⟨other, old⟩ := pair
      rw [insertAttribute]
      by_cases same : other = name
      · simp [same]
      · simp only [if_neg same, List.map_cons, induction, List.mem_cons, Ne.symm same, false_or]
        split_ifs <;> rfl

theorem named_attributes_names (written : List (Text × Text)) :
    (namedAttributes written).map Prod.fst = Text.distinct (written.map fun pair => lower pair.1) := by
  have stored : ∀ known : List (Text × Text),
      (written.foldl (fun attributes pair =>
        insertAttribute attributes (lower pair.1) (Text.unescape pair.2)) known).map Prod.fst =
        (written.map fun pair => lower pair.1).foldl
          (fun seen text => if text ∈ seen then seen else seen ++ [text]) (known.map Prod.fst) := by
    induction written with
    | nil => exact fun _ => rfl
    | cons pair written induction =>
        intro known
        rw [List.foldl_cons, induction, insert_attribute_names, List.map_cons, List.foldl_cons]
  exact stored []

/-- A name that is written is kept in small letters, apart from the two reserved ones. -/
theorem mem_read_names {written : List (Text × Text)} {name : Text} :
    name ∈ ((namedAttributes written).filter fun (name, _) => name ≠ "id" && name ≠ "key").map
        Prod.fst ↔
      (∃ pair ∈ written, lower pair.1 = name) ∧ name ≠ "id" ∧ name ≠ "key" := by
  have known : name ∈ (namedAttributes written).map Prod.fst ↔
      ∃ pair ∈ written, lower pair.1 = name := by
    rw [named_attributes_names, Text.mem_distinct, List.mem_map]
  rw [← known, List.mem_map, List.mem_map]
  constructor
  · rintro ⟨pair, member, rfl⟩
    obtain ⟨member, free⟩ := List.mem_filter.mp member
    exact ⟨⟨pair, member, rfl⟩, by simpa using free⟩
  · rintro ⟨⟨pair, member, rfl⟩, free⟩
    exact ⟨pair, List.mem_filter.mpr ⟨member, by simpa using free⟩, rfl⟩

section Read

variable {kind : Kind} {written : List (Text × Text)} {marker : Marker}

theorem of_written_eq (read : ofWritten? kind written = some marker) :
    trim (valueOf "id" (namedAttributes written)) ≠ [] ∧
      marker = {
        kind
        id := trim (valueOf "id" (namedAttributes written))
        key := if (trim (valueOf "key" (namedAttributes written))).isEmpty then none
          else some (trim (valueOf "key" (namedAttributes written)))
        attributes := (namedAttributes written).filter fun (name, _) =>
          name ≠ "id" && name ≠ "key" } := by
  unfold ofWritten? at read
  simp only [Option.ite_none_left_eq_some, Option.some.injEq, List.isEmpty_iff] at read
  exact ⟨read.1, by simpa using read.2.symm⟩

/-- All of a marker that was read can be written, if its names are names in small letters too. -/
theorem writable_of_undotted (read : ofWritten? kind written = some marker)
    (named : ∀ pair ∈ written, isName pair.1 = true) (undotted : ∀ pair ∈ written, 'İ' ∉ pair.1) :
    Writable marker := by
  obtain ⟨present, rfl⟩ := of_written_eq read
  have origin {pair : Text × Text} (member : pair ∈ (namedAttributes written).filter
      fun (name, _) => name ≠ "id" && name ≠ "key") := mem_read_names.mp (List.mem_map_of_mem member)
  constructor
  case idPresent => exact present
  case idTrimmed => exact Text.trim_trim _
  case keyPresent =>
    intro key same
    simp only [Option.ite_none_left_eq_some, Option.some.injEq, List.isEmpty_iff] at same
    exact same.2 ▸ same.1
  case keyTrimmed =>
    intro key same
    simp only [Option.ite_none_left_eq_some, Option.some.injEq] at same
    rw [← same.2, Text.trim_trim]
  case namesDistinct =>
    refine List.Nodup.sublist (List.filter_sublist.map Prod.fst) ?_
    rw [named_attributes_names]
    exact Text.distinct_nodup _
  case namesFree => exact fun pair member => (origin member).2
  case namesValid =>
    intro pair member
    obtain ⟨⟨other, inside, same⟩, -⟩ := origin member
    exact same ▸ name_of_undotted (named other inside) (undotted other inside)
  case namesSmall =>
    intro pair member
    obtain ⟨⟨other, -, same⟩, -⟩ := origin member
    rw [← same, Text.lower_lower]

/-- What is written of a marker that was read are names, or small letters of names with the dot. -/
theorem written_name_cases (read : ofWritten? kind written = some marker)
    (named : ∀ pair ∈ written, isName pair.1 = true) {pair : Text × Text}
    (member : pair ∈ marker.written) :
    isName pair.1 = true ∨ ∃ name, isName name = true ∧ 'İ' ∈ name ∧ lower name = pair.1 := by
  obtain ⟨-, rfl⟩ := of_written_eq read
  rw [Marker.written, List.mem_append, List.mem_append, List.mem_singleton, List.mem_map] at member
  rcases member with (rfl | ⟨key, -, rfl⟩) | member
  · exact .inl (show isName "id" = true by decide)
  · exact .inl (show isName "key" = true by decide)
  · obtain ⟨⟨other, inside, same⟩, -⟩ :=
      mem_read_names.mp (List.mem_map_of_mem (List.mem_filter.mp member).1)
    by_cases dotted : 'İ' ∈ other.1
    · exact .inr ⟨other.1, named other inside, dotted, same⟩
    · exact .inl (same ▸ name_of_undotted (named other inside) dotted)

/-- A name with the dotted capital i is written back in a form that is no name. -/
theorem dotted_written (read : ofWritten? kind written = some marker) {pair : Text × Text}
    (member : pair ∈ written) (dotted : 'İ' ∈ pair.1) :
    ∃ other ∈ marker.written, isName other.1 = false := by
  obtain ⟨-, rfl⟩ := of_written_eq read
  have dot : '\u0307' ∈ lower pair.1 := Text.dot_mem_lower_from dotted
  have free : lower pair.1 ≠ "id" ∧ lower pair.1 ≠ "key" := by
    constructor
    · intro same
      exact absurd (same ▸ dot) (by decide)
    · intro same
      exact absurd (same ▸ dot) (by decide)
  obtain ⟨other, kept, same⟩ := List.mem_map.mp (mem_read_names.mpr ⟨⟨pair, member, rfl⟩, free⟩)
  refine ⟨other, ?_, ?_⟩
  · rw [Marker.written, List.mem_append]
    exact .inr (List.mem_filter.mpr ⟨kept, by simpa [same] using free⟩)
  · rw [Bool.eq_false_iff]
    intro isName
    exact no_dot_in_name isName (same ▸ dot)

theorem unread_of_dotted (read : ofWritten? kind written = some marker)
    (named : ∀ pair ∈ written, isName pair.1 = true) (dotted : ∃ pair ∈ written, 'İ' ∈ pair.1) :
    readWritten? marker.toText = none := by
  obtain ⟨pair, member, dotted⟩ := dotted
  obtain ⟨other, inside, unnamed⟩ := dotted_written read member dotted
  -- The reader takes all attributes in front of the first one that has no name.
  have some : (marker.written.find? fun pair => !isName pair.1).isSome := by
    rw [List.find?_isSome]
    exact ⟨other, inside, by simp [unnamed]⟩
  obtain ⟨first, found⟩ := Option.isSome_iff_exists.mp some
  obtain ⟨misnamed, before, after, split, valid⟩ := List.find?_eq_some_iff_append.mp found
  obtain ⟨name, isName, dotted, same⟩ : ∃ name, isName name = true ∧ 'İ' ∈ name ∧
      lower name = first.1 := by
    refine (written_name_cases read named (split ▸ by simp)).resolve_left ?_
    simpa using misnamed
  have front := @spelled_attribute_texts before fun pair member => by simpa using valid pair member
  let rest : Text := "=\"" ++ Text.escapeAttribute first.2 ++ "\"" ++
    (after.flatMap (fun (name, value) => ' ' :: attributeText name value) ++ [']'])
  have stop : readAttribute? (' ' :: (lower name ++ rest)) = none := attribute_unread isName dotted
  have regrouped : (before ++ first :: after).flatMap
      (fun (name, value) => ' ' :: attributeText name value) ++ [']'] =
        before.flatMap (fun (name, value) => ' ' :: attributeText name value) ++
          ' ' :: (lower name ++ rest) := by
    simp [rest, same, attributeText]
  obtain ⟨letter, tail, letters, start, -⟩ := lower_name isName
  rw [to_text_eq, split, regrouped, read_written_at (.inl rfl) front stop, letters, List.cons_append,
    drop_space start, List.head?_cons, if_neg]
  rintro ⟨rfl⟩
  exact absurd start (by decide)

end Read

/-! ## The written form of a marker that was read -/

theorem written_of_text {text : Text} {marker : Marker} (read : ofText text = .ok marker) :
    ∃ kind written, Spelled kind written (trim text) ∧ ofWritten? kind written = some marker := by
  unfold ofText at read
  split at read
  · rename_i kind written spelled
    obtain ⟨raw, spelled, same⟩ := read_written_sound spelled
    rw [List.append_nil] at same
    split_ifs at read with legible
    split at read
    · rename_i found made
      obtain rfl := Except.ok.inj read
      exact ⟨kind, written, same ▸ spelled, made⟩
    · exact absurd read nofun
  · exact absurd read nofun

/-- A marker that was read is read again from its own text, exactly if no name of an attribute as it
was written holds a dotted capital i; otherwise its text is refused. -/
theorem rewritten_iff {text : Text} {marker : Marker} (read : ofText text = .ok marker) :
    ∃ written, Spelled marker.kind written (trim text) ∧
      ofText marker.toText =
        if ∀ pair ∈ written, 'İ' ∉ pair.1 then .ok marker
        else .error (.notAMarker marker.toText) := by
  obtain ⟨kind, written, spelled, made⟩ := written_of_text read
  have named := spelled.names
  have same : marker.kind = kind := by rw [(of_written_eq made).2]
  refine ⟨written, same ▸ spelled, ?_⟩
  split_ifs with undotted
  · have writable := writable_of_undotted made named undotted
    have legible := to_text_legible writable.names_valid
    rw [ofText, trim_to_text, writable.read_alone]
    simp only [legible, if_true, writable.of_written_escaped]
  · have dotted : ∃ pair ∈ written, 'İ' ∈ pair.1 := by simpa using undotted
    rw [ofText, trim_to_text, unread_of_dotted made named dotted]

/-- The marker that is read where an attribute is named by `aİ`. -/
def dotted : Marker where
  kind := .contents
  id := "x"
  attributes := [("ai\u0307", "v")]

theorem dotted_not_rewritten :
    ofText "[richdoc_toc id=\"x\" aİ=\"v\"]" = .ok dotted ∧
      ofText dotted.toText = .error (.notAMarker dotted.toText) := by
  have spelled : Spelled .contents [("id", "x"), ("aİ", "v")] "[richdoc_toc id=\"x\" aİ=\"v\"]" :=
    @to_text_spelled { dotted with attributes := [("aİ", "v")] } (by decide +kernel)
  have trimmed : trim "[richdoc_toc id=\"x\" aİ=\"v\"]" = "[richdoc_toc id=\"x\" aİ=\"v\"]".toList :=
    by decide +kernel
  have whole := read_written_complete spelled []
  rw [List.append_nil] at whole
  have made : ofWritten? .contents [("id", "x"), ("aİ", "v")] = some dotted := by decide +kernel
  have legible : Text.isLegible "[richdoc_toc id=\"x\" aİ=\"v\"]" = true := by
    rw [spelled_legible spelled]
    decide
  have read : ofText "[richdoc_toc id=\"x\" aİ=\"v\"]" = .ok dotted := by
    rw [ofText, trimmed, whole]
    simp only [legible, if_true, made]
  obtain ⟨written, also, rewritten⟩ := rewritten_iff read
  -- The text spells its attributes in one way only.
  have same := read_written_complete also []
  rw [trimmed, List.append_nil, whole] at same
  obtain rfl := (Prod.mk.inj (Prod.mk.inj (Option.some.inj same)).2).1
  rw [if_neg (by decide +kernel)] at rewritten
  exact ⟨read, rewritten⟩

end RichText.Marker
