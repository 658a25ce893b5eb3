import RichText.Proofs.Dataset.Columns

/-!
The rows of keys. A key of a table means itself, and a hint that puts some keys between commas means
these keys: it selects their rows, whatever the order of the keys. So the keys divide the rows that have
one among them.
-/

namespace RichText.Dataset

variable {dataset : Dataset} {key : Text} {keys : List Text}

/-- The key of a row, in normal form; empty for a row without a key. -/
def rowKey (dataset : Dataset) (row : List Text) : Text :=
  KeyMatch.normal (cellAt row dataset.keyColumn.toNat)

/-- The marker with a hint for some keys. -/
def withKeys (marker : Marker) (keys : List Text) : Marker :=
  { marker with key := some (Text.join "," keys) }

/-! ## Known keys -/

/-- The known keys are those of the rows. -/
def Collected (dataset : Dataset) : Prop :=
  dataset.knownKeys =
    KeyMatch.normalKeys (dataset.rows.map fun row => cellAt row dataset.keyColumn.toNat)

theorem of_rows_collected {id title : Text} {header : List Text} {rows : List (List Text)}
    {keyName : Option Text} {keyColumn : Option Int}
    (keyed : (ofRows id title header rows keyName keyColumn).hasKeyColumn = true) :
    Collected (ofRows id title header rows keyName keyColumn) := by
  rw [ofRows] at keyed ⊢
  cases found : keyColumnOf header keyName keyColumn with
  | none =>
      rw [found] at keyed
      exact absurd keyed Bool.false_ne_true
  | some column => rfl

section Known

variable (collected : Collected dataset)

include collected

theorem mem_known_keys_iff :
    key ∈ dataset.knownKeys ↔ (∃ row ∈ dataset.rows, dataset.rowKey row = key) ∧ key ≠ [] := by
  rw [collected, KeyMatch.mem_normal_keys]
  simp only [List.mem_map, exists_exists_and_eq_and, rowKey]

theorem known_keys_nodup : dataset.knownKeys.Nodup := by
  rw [collected]
  exact Text.distinct_nodup _

theorem known_keys_meant (known : key ∈ dataset.knownKeys) :
    key ∈ KeyMatch.normalKeys dataset.knownKeys := by
  rw [collected] at known ⊢
  exact KeyMatch.mem_normal_keys_twice known

end Known

/-! ## Hints of keys -/

theorem hint_values_join (present : keys ≠ []) (plain : ∀ key ∈ keys, ',' ∉ key)
    (normal : ∀ key ∈ keys, KeyMatch.normal key = key) (written : ∀ key ∈ keys, key ≠ []) :
    hintValues (Text.join "," keys) = keys := by
  have cut : Text.pieces (· = ',') (Text.join "," keys) = keys := by
    rw [Text.pieces_eq]
    exact List.splitOn_intercalate ',' plain present
  have kept : keys.filter (fun key => !(Text.trim key).isEmpty) = keys := by
    rw [List.filter_eq_self]
    intro key member
    simpa [KeyMatch.trim_of_normal (normal key member)] using written key member
  rw [hintValues, cut, kept]
  exact (List.map_congr_left normal).trans (List.map_id keys)

theorem resolve_values_known {others : List Text}
    (known : ∀ key ∈ keys, key ∈ KeyMatch.normalKeys others) :
    (resolveValues others keys).value = keys := by
  induction keys with
  | nil => rfl
  | cons key keys induction =>
      rw [List.forall_mem_cons] at known
      rw [resolveValues, Noted.bind_value, Noted.bind_value, KeyMatch.resolve_known known.1,
        induction known.2]
      rfl

section Selected

variable (collected : Collected dataset)

include collected

theorem resolve_keys_join (present : keys ≠ [])
    (known : ∀ key ∈ keys, key ∈ dataset.knownKeys ∧ ',' ∉ key) :
    (dataset.resolveKeys (Text.join "," keys)).value = keys.eraseDups := by
  have meant : ∀ key ∈ keys, key ∈ KeyMatch.normalKeys dataset.knownKeys := by
    intro key member
    exact known_keys_meant collected (known key member).1
  have values : hintValues (Text.join "," keys) = keys := by
    apply hint_values_join present
    · intro key member
      exact (known key member).2
    · intro key member
      exact KeyMatch.normal_of_mem (meant key member)
    · intro key member
      exact (KeyMatch.mem_normal_keys.mp (meant key member)).2
  rw [resolveKeys, values, Noted.bind_value, resolve_values_known meant]
  exact Text.distinct_eq keys

theorem select_rows_with_keys (keyed : dataset.hasKeyColumn = true) (marker : Marker)
    (present : keys ≠ []) (known : ∀ key ∈ keys, key ∈ dataset.knownKeys ∧ ',' ∉ key) :
    (dataset.selectRows (withKeys marker keys).keyHint?).value =
      (keys.eraseDups, dataset.rows.filter fun row => dataset.rowKey row ∈ keys) := by
  have resolved := resolve_keys_join collected present known
  obtain ⟨key, member⟩ := List.exists_mem_of_ne_nil keys present
  have some : keys.eraseDups ≠ [] := List.ne_nil_of_mem (List.mem_eraseDups.mpr member)
  have written : Text.join "," keys ≠ [] := by
    intro blank
    rw [blank] at resolved
    exact some resolved.symm
  have hinted : (withKeys marker keys).keyHint? = .some (Text.join "," keys) :=
    Option.filter_eq_some_iff.mpr ⟨rfl, by simpa using written⟩
  have chosen : (dataset.selectRows (withKeys marker keys).keyHint?).value.1 = keys.eraseDups := by
    rw [hinted, select_rows_keys, Option.elim_some, if_pos keyed, resolved]
  apply Prod.ext chosen
  rw [select_rows_kept, chosen, kept_rows_eq]
  apply List.filter_congr
  intro row _
  rw [decide_eq_decide, or_iff_right some, List.mem_eraseDups, rowKey]

end Selected

/-! ## Rows by keys -/

theorem filters_perm {α : Type} (keyOf : α → Text) (items : List α) (different : keys.Nodup) :
    (keys.flatMap fun key => items.filter fun item => keyOf item = key).Perm
      (items.filter fun item => keyOf item ∈ keys) := by
  induction keys with
  | nil => simp
  | cons key keys induction =>
      obtain ⟨absent, others⟩ := List.nodup_cons.mp different
      -- Cut by the first key, what all keys keep falls into its own items and those of the other keys.
      have first : (items.filter fun item => keyOf item ∈ key :: keys).filter
          (fun item => keyOf item = key) = items.filter fun item => keyOf item = key := by
        rw [List.filter_filter]
        apply List.filter_congr
        intro item _
        by_cases same : keyOf item = key <;> simp [same]
      have rest : (items.filter fun item => keyOf item ∈ key :: keys).filter
          (fun item => !decide (keyOf item = key)) = items.filter fun item => keyOf item ∈ keys := by
        rw [List.filter_filter]
        apply List.filter_congr
        intro item _
        by_cases same : keyOf item = key <;> simp [same, absent]
      have parts := List.filter_append_perm (fun item => keyOf item = key)
        (items.filter fun item => keyOf item ∈ key :: keys)
      rw [first, rest] at parts
      rw [List.flatMap_cons]
      exact ((induction others).append_left _).trans parts

section Divided

variable (collected : Collected dataset) (keyed : dataset.hasKeyColumn = true) (marker : Marker)

include collected keyed

theorem select_rows_same_keys {others : List Text} (present : keys ≠ [])
    (known : ∀ key ∈ keys, key ∈ dataset.knownKeys ∧ ',' ∉ key)
    (same : ∀ key, key ∈ others ↔ key ∈ keys) :
    (dataset.selectRows (withKeys marker others).keyHint?).value.2 =
      (dataset.selectRows (withKeys marker keys).keyHint?).value.2 := by
  obtain ⟨key, member⟩ := List.exists_mem_of_ne_nil keys present
  have othersPresent : others ≠ [] := List.ne_nil_of_mem ((same key).mpr member)
  have othersKnown : ∀ key ∈ others, key ∈ dataset.knownKeys ∧ ',' ∉ key :=
    fun key member => known key ((same key).mp member)
  rw [select_rows_with_keys collected keyed marker present known,
    select_rows_with_keys collected keyed marker othersPresent othersKnown]
  simp only [same]

theorem select_rows_with_key (known : key ∈ dataset.knownKeys) (plain : ',' ∉ key) :
    (dataset.selectRows (withKeys marker [key]).keyHint?).value.2 =
      dataset.rows.filter fun row => dataset.rowKey row = key := by
  rw [select_rows_with_keys collected keyed marker (List.cons_ne_nil key [])
    (List.forall_mem_singleton.mpr ⟨known, plain⟩)]
  simp only [List.mem_singleton]

theorem row_selected_once (plain : ∀ key ∈ dataset.knownKeys, ',' ∉ key) {row : List Text}
    (stored : row ∈ dataset.rows) (written : dataset.rowKey row ≠ []) :
    ∃! key, key ∈ dataset.knownKeys ∧
      row ∈ (dataset.selectRows (withKeys marker [key]).keyHint?).value.2 := by
  have known : dataset.rowKey row ∈ dataset.knownKeys :=
    (mem_known_keys_iff collected).mpr ⟨⟨row, stored, rfl⟩, written⟩
  refine ⟨dataset.rowKey row, ⟨known, ?_⟩, ?_⟩
  · rw [select_rows_with_key collected keyed marker known (plain _ known), List.mem_filter]
    exact ⟨stored, decide_eq_true rfl⟩
  · rintro key ⟨member, inside⟩
    rw [select_rows_with_key collected keyed marker member (plain _ member),
      List.mem_filter] at inside
    exact (of_decide_eq_true inside.2).symm

theorem rows_by_key_perm (plain : ∀ key ∈ dataset.knownKeys, ',' ∉ key) :
    (dataset.knownKeys.flatMap fun key =>
        (dataset.selectRows (withKeys marker [key]).keyHint?).value.2).Perm
      (dataset.rows.filter fun row => dataset.rowKey row ≠ []) := by
  have whole : (dataset.rows.filter fun row => dataset.rowKey row ∈ dataset.knownKeys) =
      dataset.rows.filter fun row => dataset.rowKey row ≠ [] := by
    apply List.filter_congr
    intro row stored
    rw [decide_eq_decide, mem_known_keys_iff collected]
    exact and_iff_right ⟨row, stored, rfl⟩
  have single : ∀ key ∈ dataset.knownKeys,
      (dataset.selectRows (withKeys marker [key]).keyHint?).value.2 =
        dataset.rows.filter fun row => dataset.rowKey row = key :=
    fun key member => select_rows_with_key collected keyed marker member (plain key member)
  rw [← whole, List.flatMap_congr single]
  exact filters_perm dataset.rowKey dataset.rows (known_keys_nodup collected)

end Divided

/-- Every known key means its own rows. Some of them, put between commas in any order and as often as one
likes, select the rows that have one of them; and all of them divide the rows with a key: each of these is
selected by exactly one. -/
theorem keys_select_own_rows (id title : Text) (header : List Text) (rows : List (List Text))
    (keyName : Option Text) (keyColumn : Option Int)
    (keyed : (ofRows id title header rows keyName keyColumn).hasKeyColumn = true)
    (marker : Marker) (names : List Text) :
    let dataset := ofRows id title header rows keyName keyColumn
    let kept keys := (dataset.selectRows (withKeys marker keys).keyHint?).value.2
    let table keys := (dataset.select (withKeys marker keys).keyHint? names).value
    (∀ keys, (table keys).rows = (kept keys).map (dataset.shownCells names)) ∧
      (∀ keys, keys ≠ [] → (∀ key ∈ keys, key ∈ dataset.knownKeys ∧ ',' ∉ key) →
        (table keys).keys = keys.eraseDups ∧
          kept keys = (dataset.rows.filter fun row => dataset.rowKey row ∈ keys) ∧
            ∀ others, (∀ key, key ∈ others ↔ key ∈ keys) → kept others = kept keys) ∧
        ((∀ key ∈ dataset.knownKeys, ',' ∉ key) →
          (∀ row ∈ dataset.rows, dataset.rowKey row ≠ [] →
            ∃! key, key ∈ dataset.knownKeys ∧ row ∈ kept [key]) ∧
            (dataset.knownKeys.flatMap fun key => kept [key]).Perm
              (dataset.rows.filter fun row => dataset.rowKey row ≠ [])) := by
  intro dataset kept table
  have collected : Collected dataset := of_rows_collected keyed
  refine ⟨fun keys => rfl, ?_, ?_⟩
  · intro keys present known
    have selected := select_rows_with_keys collected keyed marker present known
    refine ⟨congrArg Prod.fst selected, congrArg Prod.snd selected, ?_⟩
    intro others same
    exact select_rows_same_keys collected keyed marker present known same
  · intro plain
    constructor
    · intro row stored written
      exact row_selected_once collected keyed marker plain stored written
    · exact rows_by_key_perm collected keyed marker plain

/-- A key that ends with another one, named twice in a hint, and a row with a blank key. -/
theorem clinic_keys_select :
    let rows : List (List Text) :=
      [["Ann", " Area-Agency"], ["Bob", "AGENCY "], ["Cay", " "], ["Dan", "area-agency"]]
    let dataset := ofRows "t" [] ["Name", "Key"] rows (some "key") none
    let marker : Marker := { kind := .table, id := "t" }
    let kept keys := (dataset.selectRows (withKeys marker keys).keyHint?).value.2
    let table keys := (dataset.select (withKeys marker keys).keyHint? []).value
    let long : Text := "area-agency"
    let short : Text := "agency"
    let row : List Text := ["Dan", "area-agency"]
    dataset.hasKeyColumn = true ∧ dataset.knownKeys = [long, short] ∧
      (table [long, short, long]).keys = [long, short] ∧
      (table [long, short, long]).rows.flatten = [("Ann" : Text), "Bob", "Dan"] ∧
      kept [short, long] = kept [long, short, long] ∧
      (∃! key, key ∈ dataset.knownKeys ∧ row ∈ kept [key]) ∧
      (dataset.knownKeys.flatMap fun key => kept [key]).Perm
        (dataset.rows.filter fun row => dataset.rowKey row ≠ []) := by
  intro rows dataset marker kept table long short row
  have keyed : dataset.hasKeyColumn = true := by decide +kernel
  have collected : dataset.knownKeys = [long, short] := by decide +kernel
  obtain ⟨shown, chosen, divided⟩ :=
    keys_select_own_rows "t" [] ["Name", "Key"] rows (some "key") none keyed marker []
  have known : ∀ key ∈ [long, short, long], key ∈ dataset.knownKeys ∧ ',' ∉ key := by decide +kernel
  obtain ⟨named, ownRows, same⟩ := chosen [long, short, long] (List.cons_ne_nil _ _) known
  obtain ⟨once, parts⟩ := divided (by decide +kernel)
  refine ⟨keyed, collected, named.trans (by decide +kernel), ?_, ?_, ?_, parts⟩
  · have rowsShown : (table [long, short, long]).rows = _ := shown [long, short, long]
    rw [rowsShown, ownRows]
    decide +kernel
  · apply same
    intro key
    constructor
    · exact List.mem_cons_of_mem long
    · intro member
      rcases List.mem_cons.mp member with rfl | later
      · exact List.mem_cons_of_mem _ List.mem_cons_self
      · exact later
  · exact once row (by decide +kernel) (by decide +kernel)

end RichText.Dataset
