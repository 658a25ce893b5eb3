import RichText.Command.Run
import RichText.Proofs.Page.Trailing
import RichText.Proofs.Text.Utf8

/-!
A page in one step or in two. The fragment that rendering leaves in a file is read again as it was, with
a line feed behind it. What is loaded for its expansion is what rendering loaded, as long as writing the
fragment changed none of these files. So the page is the one that is built in one step, with one more
line feed behind it.
-/

namespace RichText

namespace Source

/-! ## Files that are read -/

section Kept

variable {files others : Files} {path : Path}

theorem value_at_kept (kept : others.item? path = files.item? path) (missing : Fault)
    (unparsable : Yaml.Fault → Fault) :
    valueAt others path missing unparsable = valueAt files path missing unparsable := by
  rw [valueAt, valueAt, bytesAt, bytesAt, kept]

theorem load_config_kept (kept : others.item? path = files.item? path) :
    loadConfig others path = loadConfig files path := by
  rw [loadConfig, loadConfig, value_at_kept kept]

theorem snapshot_at_kept (kept : others.item? path = files.item? path) (locale : Text) :
    snapshotAt others locale path = snapshotAt files locale path := by
  rw [snapshotAt, snapshotAt, value_at_kept kept]

theorem dataset_of_kept (config : Config) {folder : Path} {table : Table}
    (kept : ∀ path, tablePath? folder table = some path → others.item? path = files.item? path) :
    datasetOf others config folder table = datasetOf files config folder table := by
  unfold datasetOf
  cases place : tablePath? folder table with
  | none => rfl
  | some path =>
      simp only [loadDataset, linesAt, bytesAt, kept path place]

theorem store_of_kept (config : Config) {folder : Path} {snapshot : Snapshot}
    (kept : ∀ path ∈ snapshot.tables.filterMap (tablePath? folder),
      others.item? path = files.item? path) :
    storeOf others config folder snapshot = storeOf files config folder snapshot := by
  have datasets : snapshot.tables.mapM (datasetOf others config folder) =
      snapshot.tables.mapM (datasetOf files config folder) := by
    apply Traced.each_congr
    intro table member
    exact dataset_of_kept config fun path place =>
      kept path (List.mem_filterMap.mpr ⟨table, member, place⟩)
  rw [storeOf, storeOf, datasets]

/-- A snapshot is read from its own file and from those of its tables. -/
theorem load_snapshot_kept (config : Config) (kept : others.item? path = files.item? path)
    (tables : ∀ table ∈ tablePaths files config.locale path, others.item? table = files.item? table) :
    loadSnapshot others config path = loadSnapshot files config path := by
  rw [loadSnapshot, loadSnapshot, snapshot_at_kept kept]
  unfold tablePaths at tables
  cases found : snapshotAt files config.locale path with
  | error fault => rfl
  | ok snapshot =>
      rw [found] at tables
      have stores := store_of_kept config tables
      rw [Traced.of_except_ok_bind, Traced.of_except_ok_bind, stores]

end Kept

end Source

namespace Command

/-! ## Settings -/

/-- The files that the settings and the store of a job are read from. -/
def settingPaths (files : Files) (config snapshot : Path) : List Path :=
  match Source.loadConfig files config with
  | .ok settings => config :: snapshot :: Source.tablePaths files settings.locale snapshot
  | .error _ => [config, snapshot]

/-- Settings that are named are read from there, whatever the input is. -/
theorem setting_named (files : Files) (config : Path) (job : Job) :
    setting files (some config) job =
      if files.has config then do
        let settings ← Traced.ofExcept ((Source.loadConfig files config).mapError .input)
        let store ← (Source.loadSnapshot files settings job.snapshot).mapFault .input
        return { store, config := settings }
      else Traced.fail (.input (.configMissing config.toText)) := by
  unfold setting
  by_cases present : files.has config = true
  · have found : (Source.configPlaces job.input (some config)).find? files.has = some config := by
      rw [Source.configPlaces, Option.toList_some, List.singleton_append,
        List.find?_cons_of_pos present]
    simp only [present, Option.filter, Bool.not_true, Source.resolveConfig, found, if_true]
    rfl
  · rw [if_neg present]
    simp only [Option.filter, present]
    rfl

section Kept

variable {files others : Files} {config snapshot : Path}
  (kept : ∀ path ∈ settingPaths files config snapshot, others.item? path = files.item? path)

include kept

theorem setting_kept {job other : Job} (same : job.snapshot = snapshot)
    (also : other.snapshot = snapshot) :
    setting others (some config) other = setting files (some config) job := by
  unfold settingPaths at kept
  have configKept : others.item? config = files.item? config := by
    split at kept <;> exact kept config List.mem_cons_self
  have present : others.has config = files.has config := by rw [Files.has, Files.has, configKept]
  rw [setting_named, setting_named, present, Source.load_config_kept configKept, same, also]
  cases loaded : Source.loadConfig files config with
  | error fault => rfl
  | ok settings =>
      rw [loaded] at kept
      obtain ⟨-, snapshotKept, tables⟩ : _ ∧ _ ∧ _ := by
        simpa only [List.forall_mem_cons] using kept
      have stores := Source.load_snapshot_kept settings snapshotKept tables
      rw [Except.mapError, Traced.of_except_ok_bind, Traced.of_except_ok_bind, stores]

end Kept

/-! ## Fragments that were written -/

theorem fragment_written (files : Files) (path : Path) {text : Text} (free : '\r' ∉ text) :
    fragmentAt (files.write path text) path = .ok text := by
  have item : (files.write path text).item? path = some (.file (Text.toBytes text)) := by
    rw [Files.item?, Files.write, List.lookup_cons_self]
  rw [fragmentAt, item]
  simp only [Files.text_of_written free]
  rfl

theorem expanded_before_feed (setting : Setting) (fragment : Text) :
    expanded setting (fragment ++ "\n") = (· ++ ['\n']) <$> expanded setting fragment := by
  have paged := Page.expand_before_feed setting.config setting.store fragment
  rw [expanded, expanded, show "\n".toList = ['\n'] from rfl, paged]
  obtain ⟨notices, fault | page⟩ := Page.expand setting.config setting.store fragment
  · rfl
  · rfl

section Delivered

variable {files : Files} {config : Option Path} {input snapshot output : Path} {product : Product}

theorem of_render
    (ok : (run files config (.render ⟨input, snapshot, some output⟩)).outcome = .ok product) :
    ∃ loaded fragment,
      (setting files config ⟨input, snapshot, some output⟩).outcome = .ok loaded ∧
        (rendered files loaded ⟨input, snapshot, some output⟩).outcome = .ok fragment ∧
          product = .written output (fragment ++ "\n") := by
  obtain ⟨loaded, set, ok⟩ := Traced.ok_of_bind ok
  obtain ⟨fragment, made, ok⟩ := Traced.ok_of_bind ok
  obtain ⟨-, -, rfl⟩ := (map_ok_iff _ _).mp ok
  exact ⟨loaded, fragment, set, made, rfl⟩

theorem of_build
    (ok : (run files config (.build ⟨input, snapshot, some output⟩)).outcome = .ok product) :
    ∃ loaded fragment page,
      (setting files config ⟨input, snapshot, some output⟩).outcome = .ok loaded ∧
        (rendered files loaded ⟨input, snapshot, some output⟩).outcome = .ok fragment ∧
          (expanded loaded fragment).outcome = .ok page ∧
            product = .written output (page ++ "\n") := by
  obtain ⟨loaded, set, ok⟩ := Traced.ok_of_bind ok
  obtain ⟨fragment, made, ok⟩ := Traced.ok_of_bind ok
  obtain ⟨page, shown, ok⟩ := Traced.ok_of_bind ok
  obtain ⟨-, -, rfl⟩ := (map_ok_iff _ _).mp ok
  exact ⟨loaded, fragment, page, set, made, shown, rfl⟩

end Delivered

/-- A line feed behind a fragment is no part of a marker or a heading, and it stays behind the page. So a
page that is built in one step can be had in two as well, by rendering to a file and expanding that file,
with one more line feed at its end. The fragment must hold no carriage return, which would be read as a
line feed, and writing it must not change the files that settings and snapshot are read from. -/
theorem built_in_two_steps :
    (∀ fragment : Text,
      Marker.scan (fragment ++ "\n") = Marker.scan fragment ∧
        Page.Heading.scan (fragment ++ "\n") = Page.Heading.scan fragment ∧
          ∀ config store, Page.expand config store (fragment ++ "\n") =
            (· ++ "\n".toList) <$> Page.expand config store fragment) ∧
      ∀ (files : Files) (config document snapshot first second whole : Path) (fragment page : Text),
        (run files (some config) (.render ⟨document, snapshot, some first⟩)).outcome =
            .ok (.written first (fragment ++ "\n")) →
          (run files (some config) (.build ⟨document, snapshot, some whole⟩)).outcome =
              .ok (.written whole page) →
            '\r' ∉ fragment →
              let after := (Product.written first (fragment ++ "\n")).applied files
              (∀ path ∈ settingPaths files config snapshot, after.item? path = files.item? path) →
                (run after (some config) (.expand ⟨first, snapshot, some second⟩)).outcome =
                  (checkOutput after second).map fun _ => .written second (page ++ "\n") := by
  refine ⟨fun fragment => ⟨Marker.scan_before_feed fragment, Page.Heading.scan_before_feed fragment,
    fun config store => Page.expand_before_feed config store fragment⟩, ?_⟩
  intro files config document snapshot first second whole fragment page render build free after kept
  obtain ⟨loaded, made, set, fragmentMade, written⟩ := of_render render
  obtain ⟨again, madeAgain, shown, setAgain, fragmentAgain, pageMade, pageWritten⟩ := of_build build
  obtain rfl : loaded = again := Except.ok.inj (set.symm.trans setAgain)
  obtain rfl : made = madeAgain := Except.ok.inj (fragmentMade.symm.trans fragmentAgain)
  obtain rfl : fragment = made := List.append_cancel_right (Product.written.inj written).2
  obtain rfl : page = shown ++ "\n" := (Product.written.inj pageWritten).2
  have freeWritten : '\r' ∉ fragment ++ "\n" := by
    rw [List.mem_append, not_or]
    exact ⟨free, by decide⟩
  have read : fragmentAt after first = .ok (fragment ++ "\n") :=
    fragment_written files first freeWritten
  have setLater := @setting_kept files after config snapshot kept
    ⟨document, snapshot, some first⟩ ⟨first, snapshot, some second⟩ rfl rfl
  have pageLater : (expanded loaded (fragment ++ "\n")).outcome = .ok (shown ++ "\n") := by
    rw [expanded_before_feed, map_eq_pure_bind, Traced.bind_of_ok _ pageMade]
    rfl
  rw [run, read, Traced.of_except_ok_bind, setLater, Traced.bind_of_ok _ set,
    Traced.bind_of_ok _ pageLater]
  rfl

/-- Settings, a snapshot, and a document with a heading and a table of contents behind it. -/
def contentsFiles : Files where
  items := [
    (⟨[], ["c.yaml"]⟩, .file (Text.toBytes "locale: en")),
    (⟨[], ["s.yaml"]⟩, .file (Text.toBytes "entries: {t: {contentType: tableOfContents}}")),
    (⟨[], ["d.yaml"]⟩, .file (Text.toBytes (
      "nodeType: document\ncontent:\n- nodeType: heading-2\n  content:\n" ++
      "  - {nodeType: text, value: Plan}\n" ++
      "- nodeType: embedded-entry-block\n  data: {target: {sys: {id: t}}}")))]

theorem contents_built_in_two_steps :
    let config : Path := ⟨[], ["c.yaml"]⟩
    let snapshot : Path := ⟨[], ["s.yaml"]⟩
    let document : Path := ⟨[], ["d.yaml"]⟩
    let first : Path := ⟨[], ["f.html"]⟩
    let second : Path := ⟨[], ["p.html"]⟩
    let fragment : Text := "<h2 id=\"plan\">Plan</h2>\n\n[richdoc_toc id=\"t\"]"
    let page : Text := "<h2 id=\"plan\">Plan</h2>\n\n" ++
      "<div class=\"richdoc-toc toc-style-list\" id=\"richdoc-toc-t\">\n" ++
      "<ul class=\"toc-list\">\n<li><a href=\"#plan\">Plan</a></li>\n</ul>\n</div>\n"
    let after := (Product.written first (fragment ++ "\n")).applied contentsFiles
    (run contentsFiles (some config) (.render ⟨document, snapshot, some first⟩)).outcome =
        .ok (.written first (fragment ++ "\n")) ∧
      (run contentsFiles (some config) (.build ⟨document, snapshot, some second⟩)).outcome =
          .ok (.written second page) ∧
        '\r' ∉ fragment ∧
          (∀ path ∈ settingPaths contentsFiles config snapshot,
            after.item? path = contentsFiles.item? path) ∧
          (run after (some config) (.expand ⟨first, snapshot, some second⟩)).outcome =
            .ok (.written second (page ++ "\n")) := by
  intro config snapshot document first second fragment page after
  have render : (run contentsFiles (some config) (.render ⟨document, snapshot, some first⟩)).outcome =
      .ok (.written first (fragment ++ "\n")) := ok_of_to_option (by decide +kernel)
  have build : (run contentsFiles (some config) (.build ⟨document, snapshot, some second⟩)).outcome =
      .ok (.written second page) := ok_of_to_option (by decide +kernel)
  have free : '\r' ∉ fragment := by decide
  have paths : settingPaths contentsFiles config snapshot = [config, snapshot] := by decide +kernel
  have kept : ∀ path ∈ settingPaths contentsFiles config snapshot,
      after.item? path = contentsFiles.item? path := by
    rw [paths]
    exact List.forall_mem_cons.mpr ⟨rfl, List.forall_mem_singleton.mpr rfl⟩
  exact ⟨render, build, free, kept, built_in_two_steps.2 contentsFiles config document snapshot first
    second second fragment page render build free kept⟩

/-- A snapshot with one table of contents, and a document whose fragment reads as a mapping. -/
def overwrittenFiles : Files where
  items := [
    (⟨[], ["c.yaml"]⟩, .file (Text.toBytes "locale: en")),
    (⟨[], ["s.yaml"]⟩, .file (Text.toBytes "entries: {t: {contentType: tableOfContents}}")),
    (⟨[], ["d.yaml"]⟩, .file (Text.toBytes (
      "nodeType: document\ncontent:\n- nodeType: paragraph\n  content:\n" ++
      "  - nodeType: text\n    value: 'a: b # '\n" ++
      "  - nodeType: embedded-entry-block\n    data: {target: {sys: {id: t}}}\n")))]

/-- A fragment that is written over the snapshot leaves an empty snapshot to its expansion: the colon in
its text makes it a mapping, and what follows the number sign is a comment. -/
theorem overwritten_snapshot_expanded_apart :
    let config : Path := ⟨[], ["c.yaml"]⟩
    let snapshot : Path := ⟨[], ["s.yaml"]⟩
    let document : Path := ⟨[], ["d.yaml"]⟩
    let whole : Path := ⟨[], ["q.html"]⟩
    let second : Path := ⟨[], ["p.html"]⟩
    let fragment : Text := "<p>a: b # [richdoc_toc id=\"t\"]</p>"
    let page : Text := "<p>a: b # <!-- Table of contents: t (no headings) --></p>\n"
    let shown : Text :=
      "<p>a: b # <div class=\"richdoc-error\">Error: TOC &quot;t&quot; not found.</div></p>\n\n"
    let after := (Product.written snapshot (fragment ++ "\n")).applied overwrittenFiles
    (run overwrittenFiles (some config) (.render ⟨document, snapshot, some snapshot⟩)).outcome =
        .ok (.written snapshot (fragment ++ "\n")) ∧
      (run overwrittenFiles (some config) (.build ⟨document, snapshot, some whole⟩)).outcome =
          .ok (.written whole page) ∧
        '\r' ∉ fragment ∧
          (run after (some config) (.expand ⟨snapshot, snapshot, some second⟩)).outcome =
              .ok (.written second shown) ∧
            shown ≠ page ++ "\n" := by
  intro config snapshot document whole second fragment page shown after
  have render : (run overwrittenFiles (some config)
      (.render ⟨document, snapshot, some snapshot⟩)).outcome =
        .ok (.written snapshot (fragment ++ "\n")) := ok_of_to_option (by decide +kernel)
  have build : (run overwrittenFiles (some config) (.build ⟨document, snapshot, some whole⟩)).outcome =
      .ok (.written whole page) := ok_of_to_option (by decide +kernel)
  have free : '\r' ∉ fragment := by decide
  have expand : (run after (some config) (.expand ⟨snapshot, snapshot, some second⟩)).outcome =
      .ok (.written second shown) := ok_of_to_option (by decide +kernel)
  have apart : shown ≠ page ++ "\n" := by decide +kernel
  exact ⟨render, build, free, expand, apart⟩

end Command

end RichText
