import Mathlib.Tactic.SplitIfs
import RichText.Proofs.Checked
import RichText.Proofs.Source.Snapshot
import RichText.Proofs.Store

/-!
Spellings of assets in snapshots. The fields of an asset stand at its top or in its file, and each of them,
and the file, may be given for several locales. The record that a snapshot loads for an asset is the same
for all of its spellings.
-/

namespace RichText

namespace Value

theorem same_key_text_iff (other : Value) (name : Text) :
    sameKey other (.text name) = true ↔ other = .text name := by
  cases other <;> simp [sameKey, number?]

theorem lookup_other {other : Value} {name : Text} (different : other ≠ .text name) (value : Value)
    (entries : List (Value × Value)) : lookup name ((other, value) :: entries) = lookup name entries := by
  cases other with
  | text other => exact if_neg fun same => different (congrArg Value.text same)
  | _ => rfl

theorem lookup_insert (entries : List (Value × Value)) (key name : Text) (value : Value) :
    lookup name (insert entries (.text key) value) =
      if key = name then some value else lookup name entries := by
  induction entries with
  | nil => rfl
  | cons entry entries induction =>
      obtain ⟨other, old⟩ := entry
      unfold insert
      by_cases same : other = .text key
      · subst other
        rw [if_pos ((same_key_text_iff _ _).mpr rfl), lookup, lookup]
        split_ifs <;> rfl
      · rw [if_neg (mt (same_key_text_iff other key).mp same)]
        by_cases wanted : other = .text name
        · subst other
          have different : key ≠ name := fun equal => same (congrArg Value.text equal.symm)
          simp [lookup, different]
        · rw [lookup_other wanted, lookup_other wanted, induction]

/-- The keys are those that were there, and the new one. -/
theorem mem_keys_insert (entries : List (Value × Value)) (name : Text) (value key : Value) :
    key ∈ (insert entries (.text name) value).map Prod.fst ↔
      key = .text name ∨ key ∈ entries.map Prod.fst := by
  induction entries with
  | nil => simp [insert]
  | cons entry entries induction =>
      obtain ⟨other, old⟩ := entry
      unfold insert
      by_cases same : other = .text name
      · subst other
        rw [if_pos ((same_key_text_iff _ _).mpr rfl)]
        simp
      · rw [if_neg (mt (same_key_text_iff other name).mp same)]
        simp only [List.map_cons, List.mem_cons, induction]
        exact or_left_comm

theorem lookup_append (name : Text) (first second : List (Value × Value)) :
    lookup name (first ++ second) = (lookup name first).or (lookup name second) := by
  induction first with
  | nil => rfl
  | cons entry first induction =>
      obtain ⟨key, value⟩ := entry
      cases key with
      | text other =>
          by_cases same : other = name
          · simp [lookup, same]
          · simpa [lookup, same] using induction
      | _ => exact induction

end Value

namespace Localized

/-- A value that stands for another one: by itself, or by having it for a locale among others. -/
inductive Spells (locale : Text) (meant : Value) : Value → Prop
  | plain (single : ∀ entries, meant.opened = .map entries → Value.lookup locale entries = none) :
      Spells locale meant meant
  | localized {value : Value} {locales : List (Value × Value)} (opened : value.opened = .map locales)
      (own : Value.lookup locale locales = some meant) (notContent : isContent locales = false) :
      Spells locale meant value

variable {locale : Text} {meant value : Value}

theorem unwrap_of_spells (spells : Spells locale meant value) : unwrap locale value = meant := by
  unfold unwrap
  cases spells with
  | plain single =>
      split
      · rename_i entries opened
        rw [single entries opened]
      · rfl
  | localized opened own notContent => simp only [opened, own, notContent, Bool.false_eq_true, if_false]

end Localized

namespace Asset

open Localized (Spells)

/-- The fields of an asset's file. There are none where there is no file. -/
inductive HasFile (locale : Text) (entries : List (Value × Value)) : List (Value × Value) → Prop
  | none (absent : Value.lookup "file" entries = none) : HasFile locale entries []
  | some {value file : Value} {fields : List (Value × Value)}
      (found : Value.lookup "file" entries = some value) (spells : Spells locale file value)
      (opened : file.opened = .map fields) : HasFile locale entries fields

/-- Where a field with a text stands: at the top, whatever the file has, or else in the file. -/
inductive Stands (locale : Text) (entries file : List (Value × Value)) (name text : Text) : Prop
  | atTop {value : Value} (found : Value.lookup name entries = some value)
      (spells : Spells locale (.text text) value)
  | inFile {value : Value} (absent : Value.lookup name entries = none)
      (found : Value.lookup name file = some value) (spells : Spells locale (.text text) value)

/-- A value that spells an asset, apart from its id. -/
inductive Spelled (locale : Text) (asset : Asset) (value : Value) : Prop
  | fields {entries file : List (Value × Value)} {title : Value} (opened : value.opened = .map entries)
      (hasFile : HasFile locale entries file) (url : Stands locale entries file "url" asset.url)
      (titled : Value.lookup "title" entries = some title)
      (title : Spells locale (.text asset.title) title)
      (fileName : Stands locale entries file "fileName" asset.fileName)
      (contentType : Stands locale entries file "contentType" asset.contentType)

/-! ## Fields in one place -/

section Lookup

variable {locale name : Text} {entries file : List (Value × Value)}

theorem lookup_unwrap_all (locale name : Text) (entries : List (Value × Value)) :
    Value.lookup name (unwrapAll locale entries) =
      (Value.lookup name entries).map (Localized.unwrap locale) := by
  induction entries with
  | nil => rfl
  | cons entry entries induction =>
      obtain ⟨key, value⟩ := entry
      cases key with
      | text other =>
          by_cases same : other = name
          · simp [unwrapAll, Value.lookup, same]
          · simpa [unwrapAll, Value.lookup, same] using induction
      | _ => exact induction

theorem lookup_without {dropped : Text} (different : name ≠ dropped) (entries : List (Value × Value)) :
    Value.lookup name (entries.filter fun entry => !isNamed dropped entry) =
      Value.lookup name entries := by
  induction entries with
  | nil => rfl
  | cons entry entries induction =>
      obtain ⟨key, value⟩ := entry
      cases key with
      | text other =>
          by_cases same : other = dropped
          · subst other
            rw [List.filter_cons_of_neg (by simp [isNamed]), induction, Value.lookup,
              if_neg (Ne.symm different)]
          · rw [List.filter_cons_of_pos (by simp [isNamed, same]), Value.lookup, Value.lookup, induction]
      | _ => exact induction

theorem lookup_add_field (file entries : List (Value × Value)) (added name : Text) :
    Value.lookup name (addField file entries added) =
      if added = name then (Value.lookup name entries).or (Value.lookup name file)
      else Value.lookup name entries := by
  unfold addField
  split
  · rename_i value absent found
    rw [Value.lookup_append]
    by_cases same : added = name
    · subst added
      simp [absent, found, Value.lookup]
    · simp [same, Value.lookup]
  · rename_i kept
    by_cases same : added = name
    · subst added
      rw [if_pos rfl]
      cases own : Value.lookup name entries with
      | some value => rfl
      | none =>
          cases found : Value.lookup name file with
          | none => rfl
          | some value => exact absurd found (kept value own)
    · rw [if_neg same]

/-- The fields of the file are added at the end, each of them once. -/
theorem lookup_added (file entries : List (Value × Value)) (name : Text) (names : List Text) :
    Value.lookup name (names.foldl (addField file) entries) =
      if name ∈ names then (Value.lookup name entries).or (Value.lookup name file)
      else Value.lookup name entries := by
  induction names generalizing entries with
  | nil => rfl
  | cons added names induction =>
      rw [List.foldl_cons, induction, lookup_add_field]
      by_cases same : added = name
      · subst added
        simp [Option.or_assoc]
      · simp [same, Ne.symm same]

theorem lookup_flattened (hasFile : HasFile locale entries file) (different : name ≠ "file") :
    Value.lookup name (flattened locale entries) =
      if name ∈ fileFields then
        ((Value.lookup name entries).map (Localized.unwrap locale)).or
          ((Value.lookup name file).map (Localized.unwrap locale))
      else (Value.lookup name entries).map (Localized.unwrap locale) := by
  have own := lookup_without different (unwrapAll locale entries)
  rw [lookup_unwrap_all] at own
  unfold flattened
  cases hasFile with
  | none absent =>
      have noFile : Value.field "file" (unwrapAll locale entries) = .null := by
        rw [Value.field, lookup_unwrap_all, absent]
        rfl
      simp only [noFile, Value.opened, own, Value.lookup, Option.map_none, Option.or_none, ite_self]
  | some found spells opened =>
      have isFile : (Value.field "file" (unwrapAll locale entries)).opened = .map file := by
        rw [Value.field, lookup_unwrap_all, found, Option.map_some, Option.getD_some,
          Localized.unwrap_of_spells spells, opened]
      simp only [isFile, lookup_added, own, lookup_unwrap_all]

theorem lookup_of_stands {text : Text} (hasFile : HasFile locale entries file)
    (named : name ∈ fileFields) (stands : Stands locale entries file name text) :
    Value.lookup name (flattened locale entries) = some (.text text) := by
  have different : name ≠ "file" := fun same => absurd (same ▸ named) (by decide)
  rw [lookup_flattened hasFile different, if_pos named]
  cases stands with
  | atTop found spells => rw [found, Option.map_some, Localized.unwrap_of_spells spells]; rfl
  | inFile absent found spells =>
      rw [absent, found, Option.map_some, Localized.unwrap_of_spells spells]
      rfl

end Lookup

/-! ## Records -/

section Read

open Checked

variable {locale name text : Text} {entries : List (Value × Value)} {asset : Asset} {value : Value}

theorem required_of_lookup (found : Value.lookup name entries = some (.text text)) :
    required name Checked.text entries = .valid text := by
  rw [required, found]
  rfl

theorem optional_of_lookup (found : Value.lookup name entries = some (.text text)) (default : Text) :
    Checked.optional name default looseText entries = .valid text := by
  rw [Checked.optional, found]
  rfl

theorem optional_either_of_lookup (found : Value.lookup name entries = some (.text text))
    (other default : Text) : optionalEither name other default looseText entries = .valid text := by
  rw [optionalEither, found]
  rfl

theorem check_of_spelled (spelled : Spelled locale asset value) :
    check locale value = .valid { asset with id := [] } := by
  cases spelled with
  | @fields entries file title opened hasFile url titled spells fileName contentType =>
      have ownTitle : Value.lookup "title" (flattened locale entries) = some (.text asset.title) := by
        rw [lookup_flattened hasFile (by decide), if_neg (by decide), titled, Option.map_some,
          Localized.unwrap_of_spells spells]
      have ownUrl := lookup_of_stands hasFile (by decide) url
      have ownName := lookup_of_stands hasFile (by decide) fileName
      have ownType := lookup_of_stands hasFile (by decide) contentType
      rw [check, Checked.fields, opened]
      simp only [required_of_lookup ownUrl, optional_of_lookup ownTitle, optional_either_of_lookup ownName,
        optional_either_of_lookup ownType]
      rfl

end Read

end Asset

/-! ## Snapshots -/

namespace Snapshot

open Checked

/-- The records of the sections of a snapshot, by their ids. -/
def entriesIn (locale : Text) (sections : List (Value × Value)) : Checked (List (Text × Entry)) :=
  Checked.optional "entries" [] (section? (Entry.check locale)) sections

def assetsIn (locale : Text) (sections : List (Value × Value)) : Checked (List (Text × Asset)) :=
  Checked.optional "assets" [] (section? (Asset.check locale)) sections

def tablesIn (sections : List (Value × Value)) : Checked (List (Text × Table)) :=
  Checked.optional "datasets" [] (section? Table.check) sections

variable {locale : Text} {sections : List (Value × Value)} {snapshot : Snapshot}

theorem check_valid_iff : check locale sections = .valid snapshot ↔
    ∃ entries assets tables, entriesIn locale sections = .valid entries ∧
      assetsIn locale sections = .valid assets ∧ tablesIn sections = .valid tables ∧
        snapshot = {
          entries := entries.map fun (id, entry) => { entry with id }
          assets := assets.map fun (id, asset) => { asset with id }
          tables := tables.map fun (id, table) => { table with id } } := by
  simp only [check, seq_valid_iff, change_valid_iff, entriesIn, assetsIn, tablesIn]
  constructor
  · rintro ⟨_, tables, ⟨_, assets, ⟨entries, readEntries, rfl⟩, readAssets, rfl⟩, readTables, rfl⟩
    exact ⟨entries, assets, tables, readEntries, readAssets, readTables, rfl⟩
  · rintro ⟨entries, assets, tables, readEntries, readAssets, readTables, rfl⟩
    exact ⟨_, tables, ⟨_, assets, ⟨entries, readEntries, rfl⟩, readAssets, rfl⟩, readTables, rfl⟩

theorem assets_in_of_listed {assets : Value} {records : List (Value × Value)}
    (found : Value.lookup "assets" sections = some assets) (listed : assets.opened = .map records) :
    assetsIn locale sections =
      (Checked.all (records.map (Checked.entry (Asset.check locale)))).under (.name "assets") := by
  have present : assets ≠ .null := by
    rintro rfl
    exact absurd listed nofun
  have read : section? (Asset.check locale) assets =
      Checked.all (records.map (Checked.entry (Asset.check locale))) := by
    rw [section?]
    · rw [mapping, listed]
    · exact present
  rw [assetsIn, Checked.optional, found]
  exact congrArg (under (.name "assets")) read

theorem assets_read_iff {assets : Value} {records : List (Value × Value)}
    (found : Value.lookup "assets" sections = some assets) (listed : assets.opened = .map records) :
    (∃ read, assetsIn locale sections = .valid read) ↔
      ∀ record ∈ records, ∃ asset, Checked.entry (Asset.check locale) record = .valid asset := by
  simp only [assets_in_of_listed found listed, under_valid_iff, exists_all_valid_iff, List.forall_mem_map]

/-- Another section of assets leaves the other sections as they are. -/
theorem entries_in_insert (assets : Value) :
    entriesIn locale (Value.insert sections (.text "assets") assets) = entriesIn locale sections := by
  rw [entriesIn, Checked.optional, Value.lookup_insert, if_neg (by decide)]
  rfl

theorem tables_in_insert (assets : Value) :
    tablesIn (Value.insert sections (.text "assets") assets) = tablesIn sections := by
  rw [tablesIn, Checked.optional, Value.lookup_insert, if_neg (by decide)]
  rfl

end Snapshot

namespace Source

/-- The store of the snapshot in a value, for a file at a path. -/
def storeIn (files : Files) (config : Config) (path : Path) (value : Value) : Except Fault Store := do
  let snapshot ← snapshotOf path.name config.locale value
  (storeOf files config path.parent snapshot).outcome

/-- Sections that are all named by text. -/
def Named (sections : List (Value × Value)) : Prop :=
  ∀ key ∈ sections.map Prod.fst, ∃ name, key = .text name

section Load

variable {files : Files} {config : Config} {path : Path} {value : Value}
  {sections : List (Value × Value)} {snapshot : Snapshot}

theorem load_snapshot_outcome
    (loads : valueAt files path (.fileMissing path.toText) (fun _ => .unparsable path.name) =
      .ok value) :
    (loadSnapshot files config path).outcome = storeIn files config path value := by
  have read : (Traced.ofExcept (snapshotAt files config.locale path)).outcome =
      snapshotOf path.name config.locale value := by
    rw [snapshotAt, loads]
    rfl
  rw [loadSnapshot, Traced.bind_outcome, read, storeIn]
  apply bind_congr
  intro snapshot
  rw [Traced.bind_outcome]
  exact bind_pure _

theorem named_iff : Named sections ↔
    ¬∃ key content, (key, content) ∈ sections ∧ ∀ name, key ≠ .text name := by
  constructor
  · rintro named ⟨key, content, member, other⟩
    obtain ⟨name, same⟩ := named key (List.mem_map_of_mem member)
    exact other name same
  · intro named key listed
    obtain ⟨⟨key, content⟩, member, rfl⟩ := List.mem_map.mp listed
    by_contra none
    exact named ⟨key, content, member, fun name same => none ⟨name, same⟩⟩

theorem snapshot_of_ok_iff {name locale : Text} (opened : value.opened = .map sections) :
    snapshotOf name locale value = .ok snapshot ↔
      Named sections ∧ Snapshot.check locale sections = .valid snapshot := by
  rw [snapshotOf, opened, named_iff]
  simp only
  split
  · rename_i unnamed
    apply iff_of_false nofun
    exact fun both => both.1 ((unnamed_iff sections).mp unnamed)
  · rename_i named
    rw [and_iff_right (mt (unnamed_iff sections).mpr named)]
    cases Snapshot.check locale sections <;> simp

theorem store_of_returns_iff {folder : Path} :
    Returns (storeOf files config folder snapshot).outcome ↔
      ∀ table ∈ snapshot.tables, Returns (datasetOf files config folder table).outcome := by
  rw [storeOf, returns_traced_map_iff, each_outcome, returns_each_iff]

theorem store_in_returns_iff (opened : value.opened = .map sections) :
    Returns (storeIn files config path value) ↔ Named sections ∧
      (∃ entries, Snapshot.entriesIn config.locale sections = .valid entries) ∧
      (∃ assets, Snapshot.assetsIn config.locale sections = .valid assets) ∧
      ∃ tables, Snapshot.tablesIn sections = .valid tables ∧
        ∀ table ∈ tables.map fun (id, table) => { table with id },
          Returns (datasetOf files config path.parent table).outcome := by
  simp only [storeIn, returns_bind_iff, snapshot_of_ok_iff opened, Snapshot.check_valid_iff,
    store_of_returns_iff]
  constructor
  · rintro ⟨_, ⟨named, entries, assets, tables, readEntries, readAssets, readTables, rfl⟩, returns⟩
    exact ⟨named, ⟨entries, readEntries⟩, ⟨assets, readAssets⟩, tables, readTables, returns⟩
  · rintro ⟨named, ⟨entries, readEntries⟩, ⟨assets, readAssets⟩, tables, readTables, returns⟩
    exact ⟨_, ⟨named, entries, assets, tables, readEntries, readAssets, readTables, rfl⟩, returns⟩

theorem assets_of_store_in {store : Store} (opened : value.opened = .map sections)
    (loaded : storeIn files config path value = .ok store) :
    ∃ assets, Snapshot.assetsIn config.locale sections = .valid assets ∧
      store.assets = byId Asset.id (assets.map fun (id, asset) => { asset with id }) := by
  unfold storeIn at loaded
  cases read : snapshotOf path.name config.locale value with
  | error fault =>
      rw [read] at loaded
      exact absurd loaded nofun
  | ok snapshot =>
      rw [read] at loaded
      obtain ⟨-, valid⟩ := (snapshot_of_ok_iff opened).mp read
      obtain ⟨entries, assets, tables, -, readAssets, -, rfl⟩ := Snapshot.check_valid_iff.mp valid
      obtain ⟨datasets, -, same⟩ := Traced.ok_of_bind loaded
      obtain rfl := Except.ok.inj same
      exact ⟨assets, readAssets, rfl⟩

theorem named_insert_iff (name : Text) (content : Value) :
    Named (Value.insert sections (.text name) content) ↔ Named sections := by
  unfold Named
  simp only [Value.mem_keys_insert]
  constructor
  · intro named key member
    exact named key (.inr member)
  · rintro named key (rfl | member)
    · exact ⟨name, rfl⟩
    · exact named key member

end Load

/-- A spelled asset is loaded as it is, unless a later one has its id, and a snapshot with it loads exactly
if it loads without it. -/
theorem asset_loaded {files : Files} {config : Config} {path : Path} {value assets record : Value}
    {sections before after : List (Value × Value)} {asset : Asset}
    (loads : valueAt files path (.fileMissing path.toText) (fun _ => .unparsable path.name) =
      .ok value)
    (opened : value.opened = .map sections) (found : Value.lookup "assets" sections = some assets)
    (listed : assets.opened = .map (before ++ (.text asset.id, record) :: after))
    (last : ∀ other ∈ after, Checked.text other.1 ≠ .valid asset.id)
    (spelled : Asset.Spelled config.locale asset record) :
    (Returns (loadSnapshot files config path).outcome ↔ Returns (storeIn files config path
        (.map (Value.insert sections (.text "assets") (.map (before ++ after)))))) ∧
      ∀ store, (loadSnapshot files config path).outcome = .ok store →
        asset ∈ store.assets ∧ ∀ other ∈ store.assets, other.id = asset.id → other = asset := by
  have read : Checked.entry (Asset.check config.locale) (.text asset.id, record) =
      .valid (asset.id, { asset with id := [] }) :=
    (Checked.entry_valid_iff _ _).mpr ⟨rfl, Asset.check_of_spelled spelled⟩
  rw [load_snapshot_outcome loads]
  constructor
  -- Both snapshots differ by the one record, which has no issues.
  · have without : Value.lookup "assets"
        (Value.insert sections (.text "assets") (.map (before ++ after))) =
          some (.map (before ++ after)) := by
      rw [Value.lookup_insert, if_pos rfl]
    rw [store_in_returns_iff opened, store_in_returns_iff rfl, named_insert_iff,
      Snapshot.entries_in_insert, Snapshot.tables_in_insert, Snapshot.assets_read_iff found listed,
      Snapshot.assets_read_iff without rfl]
    simp only [List.forall_mem_append, List.forall_mem_cons, read, Checked.valid.injEq, exists_eq',
      true_and]
  · intro store loaded
    obtain ⟨results, readAssets, stored⟩ := assets_of_store_in opened loaded
    rw [Snapshot.assets_in_of_listed found listed, Checked.under_valid_iff, Checked.all_valid_iff,
      List.map_append, List.map_cons, read] at readAssets
    -- What is read falls into the same parts as the records.
    obtain ⟨first, rest, rfl, -, onward⟩ := List.map_eq_append_iff.mp readAssets.symm
    obtain ⟨own, later, rfl, same, others⟩ := List.map_eq_cons_iff.mp onward
    obtain rfl := Checked.valid.inj same
    rw [stored, List.map_append, List.map_cons]
    apply stored_by_id
    intro other member same
    obtain ⟨⟨id, content⟩, inside, rfl⟩ := List.mem_map.mp member
    have among : Checked.valid (id, content) ∈ later.map Checked.valid := List.mem_map_of_mem inside
    rw [others] at among
    obtain ⟨other, listed, valid⟩ := List.mem_map.mp among
    obtain ⟨key, -⟩ := (Checked.entry_valid_iff _ _).mp valid
    exact last other listed (key.trans (congrArg Checked.valid same))

/-- A snapshot with one asset. Its file and two of its texts are localized, and it has two addresses. -/
def garden : Files :=
  ⟨[(⟨[], ["s.yaml"]⟩, .file (Text.toBytes (Text.join "\n" [
    "assets:",
    "  a:",
    "    title:",
    "      en-US: G",
    "    url: //b.org/g",
    "    file:",
    "      en-US:",
    "        url: /o",
    "        fileName:",
    "          de: h",
    "          en-US: g",
    "        contentType: image/png"])))]⟩

def gardenRecord : Value :=
  .map [(.text "title", .map [(.text "en-US", .text "G")]), (.text "url", .text "//b.org/g"),
    (.text "file", .map [(.text "en-US", .map [(.text "url", .text "/o"),
      (.text "fileName", .map [(.text "de", .text "h"), (.text "en-US", .text "g")]),
      (.text "contentType", .text "image/png")])])]

def gardenAsset : Asset where
  id := "a"
  url := "//b.org/g"
  title := "G"
  fileName := "g"
  contentType := "image/png"

theorem garden_spelled : Asset.Spelled "en-US" gardenAsset gardenRecord :=
  .fields rfl (.some rfl (.localized rfl rfl rfl) rfl) (.atTop rfl (.plain nofun)) rfl
    (.localized rfl rfl rfl) (.inFile rfl rfl (.localized rfl rfl rfl)) (.inFile rfl rfl (.plain nofun))

mutual

/-- Whether two values of mappings and texts are the same. -/
def sameTexts : Value → Value → Bool
  | .text first, .text second => first = second
  | .map first, .map second => sameEntries first second
  | _, _ => false

def sameEntries : List (Value × Value) → List (Value × Value) → Bool
  | [], [] => true
  | (key, value) :: first, (other, content) :: second =>
      sameTexts key other && sameTexts value content && sameEntries first second
  | _, _ => false

end

mutual

theorem eq_of_same_texts {first second : Value} (same : sameTexts first second = true) :
    first = second := by
  cases first with
  | text first =>
      cases second with
      | text second => exact congrArg Value.text (of_decide_eq_true same)
      | _ => exact absurd same nofun
  | map first =>
      cases second with
      | map second => exact congrArg Value.map (eq_of_same_entries same)
      | _ => exact absurd same nofun
  | _ => exact absurd same nofun

theorem eq_of_same_entries {first second : List (Value × Value)}
    (same : sameEntries first second = true) : first = second := by
  cases first with
  | nil =>
      cases second with
      | nil => rfl
      | cons entry second => exact absurd same nofun
  | cons entry first =>
      cases second with
      | nil => exact absurd same nofun
      | cons other second =>
          obtain ⟨key, value⟩ := entry
          obtain ⟨other, content⟩ := other
          rw [sameEntries, Bool.and_eq_true, Bool.and_eq_true] at same
          rw [eq_of_same_texts same.1.1, eq_of_same_texts same.1.2, eq_of_same_entries same.2]

end

theorem garden_read : valueAt garden ⟨[], ["s.yaml"]⟩ (.fileMissing "s.yaml")
    (fun _ => .unparsable "s.yaml") = .ok (.map [(.text "assets", .map [(.text "a", gardenRecord)])]) := by
  have read : (valueAt garden ⟨[], ["s.yaml"]⟩ (.fileMissing "s.yaml")
      fun _ => .unparsable "s.yaml").toOption.any
        (sameTexts (.map [(.text "assets", .map [(.text "a", gardenRecord)])])) = true := by
    decide +kernel
  obtain ⟨value, found, same⟩ := (Option.any_eq_true _ _).mp read
  rw [eq_of_same_texts same]
  exact ok_of_to_option found

theorem garden_asset_loaded :
    (Returns (loadSnapshot garden {} ⟨[], ["s.yaml"]⟩).outcome) ∧
      ∀ store, (loadSnapshot garden {} ⟨[], ["s.yaml"]⟩).outcome = .ok store →
        gardenAsset ∈ store.assets ∧
          ∀ other ∈ store.assets, other.id = gardenAsset.id → other = gardenAsset := by
  obtain ⟨returns, loaded⟩ := @asset_loaded garden {} ⟨[], ["s.yaml"]⟩ _ _ gardenRecord _ [] []
    gardenAsset garden_read rfl rfl rfl (List.forall_mem_nil _) garden_spelled
  exact ⟨returns.mpr (by decide +kernel), loaded⟩

end Source

end RichText
