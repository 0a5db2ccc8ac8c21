import LetterToSound.Proofs.Ancestors
import LetterToSound.Proofs.Readings
import LetterToSound.Settings.Cascade

namespace LetterToSound

namespace SettingsFile

/-- Nothing is there at the path. -/
def Missing (files : Files) (path : Path) : Prop := ∃ cause, files path = .error cause

/-- A settings file that can be read stands at the path. -/
def Holds (files : Files) (path : Path) (settings : Settings) : Prop :=
  ∃ document : Text, files path = .ok (.file document.utf8) ∧
    Settings.read? document = some settings

/-- What stands at the path cannot be read as settings. -/
inductive Fails (files : Files) (path : Path) : SettingsError → Prop
  | closed {cause : FileError} (found : files path = .ok (.closed cause)) :
      Fails files path (.unreadable path cause)
  | directory (found : files path = .ok .directory) :
      Fails files path (.unreadable path .isDirectory)
  | noText {bytes : Bytes} (found : files path = .ok (.file bytes))
      (no_text : ∀ t : Text, bytes ≠ t.utf8) : Fails files path (.unreadable path .notText)
  | malformed {document : Text} (found : files path = .ok (.file document.utf8))
      (no_settings : Settings.read? document = none) : Fails files path (.malformed path)

theorem missing_or_holds_or_fails (files : Files) (path : Path) :
    Missing files path ∨ (∃ settings, Holds files path settings) ∨
      ∃ error, Fails files path error := by
  cases hf : files path with
  | error cause => exact .inl ⟨cause, hf⟩
  | ok content =>
    right
    cases content with
    | closed cause => exact .inr ⟨_, .closed hf⟩
    | directory => exact .inr ⟨_, .directory hf⟩
    | file bytes =>
      by_cases ht : ∃ document : Text, bytes = document.utf8
      · obtain ⟨document, rfl⟩ := ht
        cases hr : Settings.read? document with
        | none => exact .inr ⟨_, .malformed hf hr⟩
        | some settings => exact .inl ⟨settings, document, hf, hr⟩
      · exact .inr ⟨_, .noText hf (not_exists.mp ht)⟩

variable {files : Files} {path : Path}

theorem Missing.load (h : Missing files path) : load files path = .ok none := by
  obtain ⟨cause, hf⟩ := h
  simp [SettingsFile.load, hf]

theorem Holds.load {settings : Settings} (h : Holds files path settings) :
    load files path = .ok (some ⟨path, settings⟩) := by
  obtain ⟨document, hf, hr⟩ := h
  have ht : (Content.file document.utf8).text = .ok document := Bytes.text_eq_ok_iff.mpr rfl
  simp [SettingsFile.load, hf, ht, hr]

theorem Fails.load {error : SettingsError} (h : Fails files path error) :
    load files path = .error error := by
  cases h with
  | closed found => simp [SettingsFile.load, found, Content.text]
  | directory found => simp [SettingsFile.load, found, Content.text]
  | @noText bytes found no_text =>
    have ht : (Content.file bytes).text = .error .notText :=
      Bytes.text_eq_error_iff.mpr ⟨rfl, no_text⟩
    simp [SettingsFile.load, found, ht]
  | @malformed document found no_settings =>
    have ht : (Content.file document.utf8).text = .ok document := Bytes.text_eq_ok_iff.mpr rfl
    simp [SettingsFile.load, found, ht, no_settings]

/-- The settings files that stand at the paths, in their order. All of them can be read. -/
inductive Collects (files : Files) : List Path → List SettingsFile → Prop
  | nil : Collects files [] []
  | missing {path : Path} {paths : List Path} {found : List SettingsFile}
      (h : Missing files path) (rest : Collects files paths found) :
      Collects files (path :: paths) found
  | holds {path : Path} {paths : List Path} {settings : Settings} {found : List SettingsFile}
      (h : Holds files path settings) (rest : Collects files paths found) :
      Collects files (path :: paths) (⟨path, settings⟩ :: found)

/-- What reading the settings files at the paths comes to: all of them, or the first that cannot
be read. -/
inductive Gathers (files : Files) : List Path → Except SettingsError (List SettingsFile) → Prop
  | all {paths : List Path} {found : List SettingsFile} (collects : Collects files paths found) :
      Gathers files paths (.ok found)
  | upTo {before after : List Path} {path : Path} {found : List SettingsFile}
      {error : SettingsError} (collects : Collects files before found)
      (fails : Fails files path error) : Gathers files (before ++ path :: after) (.error error)

def gather (files : Files) (paths : List Path) : Except SettingsError (List SettingsFile) := do
  return (← paths.mapM (load files)).reduceOption

theorem gather_cons_missing (h : Missing files path) (paths : List Path) :
    gather files (path :: paths) = gather files paths := by
  simp only [gather, List.mapM_cons, h.load]
  cases paths.mapM (SettingsFile.load files) <;> rfl

theorem gather_cons_holds {settings : Settings} (h : Holds files path settings)
    (paths : List Path) :
    gather files (path :: paths) = (gather files paths).map (⟨path, settings⟩ :: ·) := by
  simp only [gather, List.mapM_cons, h.load]
  cases paths.mapM (SettingsFile.load files) <;> rfl

theorem gather_cons_fails {error : SettingsError} (h : Fails files path error)
    (paths : List Path) : gather files (path :: paths) = .error error := by
  simp only [gather, List.mapM_cons, h.load]
  rfl

theorem Collects.gather_append {before : List Path} {found : List SettingsFile}
    (h : Collects files before found) (after : List Path) :
    gather files (before ++ after) = (gather files after).map (found ++ ·) := by
  induction h with
  | nil =>
    rw [List.nil_append]
    cases gather files after <;> rfl
  | missing h _ ih => rw [List.cons_append, gather_cons_missing h, ih]
  | holds h _ ih =>
    rw [List.cons_append, gather_cons_holds h, ih]
    cases gather files after <;> rfl

theorem gather_eq_iff {paths : List Path} {result : Except SettingsError (List SettingsFile)} :
    gather files paths = result ↔ Gathers files paths result := by
  constructor
  · rintro rfl
    induction paths with
    | nil => exact .all .nil
    | cons path paths ih =>
      rcases missing_or_holds_or_fails files path with h | ⟨settings, h⟩ | ⟨error, h⟩
      · rw [gather_cons_missing h]
        generalize gather files paths = rest at ih
        cases ih with
        | all collects => exact .all (.missing h collects)
        | upTo collects fails => exact .upTo (.missing h collects) fails
      · rw [gather_cons_holds h]
        generalize gather files paths = rest at ih
        cases ih with
        | all collects => exact .all (.holds h collects)
        | upTo collects fails => exact .upTo (.holds h collects) fails
      · rw [gather_cons_fails h]
        exact .upTo .nil h
  · intro h
    cases h with
    | @all _ found collects =>
      have hg : gather files (paths ++ []) = .ok (found ++ []) := collects.gather_append []
      rwa [List.append_nil, List.append_nil] at hg
    | upTo collects fails =>
      rw [collects.gather_append, gather_cons_fails fails]
      rfl

def IsRoot (files : Files) (path : Path) : Prop :=
  ∃ settings, Holds files path settings ∧ settings.root = true

/-- Of the paths, those up to the first root file are visited, or all where there is none. -/
structure Climbs (files : Files) (paths visited : List Path) : Prop where
  begins : visited <+: paths
  passes : ∀ path ∈ visited.dropLast, ¬IsRoot files path
  stops : visited = paths ∨ ∃ last, visited.getLast? = some last ∧ IsRoot files last

theorem Holds.unique {settings other : Settings} (h : Holds files path settings)
    (ho : Holds files path other) : settings = other := by
  have he := h.load.symm.trans ho.load
  cases he
  rfl

theorem Climbs.root {paths : List Path} (h : IsRoot files path) :
    Climbs files (path :: paths) [path] :=
  ⟨⟨paths, rfl⟩, by simp, .inr ⟨path, rfl, h⟩⟩

theorem Climbs.cons {paths visited : List Path} (h : ¬IsRoot files path)
    (hc : Climbs files paths visited) : Climbs files (path :: paths) (path :: visited) := by
  refine ⟨(List.prefix_cons_inj path).mpr hc.begins, ?_, ?_⟩
  · intro other ho
    cases visited with
    | nil => simp at ho
    | cons next visited =>
      rcases List.mem_cons.mp ho with rfl | ho
      · exact h
      · exact hc.passes other ho
  · rcases hc.stops with rfl | ⟨last, hl, hr⟩
    · exact .inl rfl
    · exact .inr ⟨last, by simp [List.getLast?_cons, hl], hr⟩

theorem not_root {result : Except SettingsError (Option SettingsFile)}
    (h : load files path = result) (hn : ∀ file, result ≠ .ok (some file)) :
    ¬IsRoot files path := by
  rintro ⟨settings, hs, _⟩
  exact hn _ (h.symm.trans hs.load)

theorem in_directories_eq (files : Files) (directories : List Path) :
    ∃ visited, Climbs files (directories.map (·.join Settings.fileName)) visited ∧
      inDirectories files directories = gather files visited := by
  induction directories with
  | nil => exact ⟨[], ⟨List.prefix_rfl, by simp, .inl rfl⟩, rfl⟩
  | cons directory above ih =>
    obtain ⟨visited, hc, he⟩ := ih
    rw [List.map_cons, inDirectories]
    generalize directory.join Settings.fileName = path
    rcases missing_or_holds_or_fails files path with h | ⟨settings, h⟩ | ⟨error, h⟩
    · refine ⟨path :: visited, hc.cons (not_root h.load (by simp)), ?_⟩
      rw [h.load, gather_cons_missing h, ← he]
      rfl
    · by_cases ht : settings.root = true
      · refine ⟨[path], .root ⟨settings, h, ht⟩, ?_⟩
        rw [h.load, gather_cons_holds h]
        exact if_pos ht
      · have hr : ¬IsRoot files path := by
          rintro ⟨other, ho, hroot⟩
          exact ht (h.unique ho ▸ hroot)
        refine ⟨path :: visited, hc.cons hr, ?_⟩
        rw [h.load, gather_cons_holds h, ← he]
        refine (if_neg ht).trans ?_
        cases inDirectories files above <;> rfl
    · refine ⟨path :: visited, hc.cons (not_root h.load (by simp)), ?_⟩
      rw [h.load, gather_cons_fails h]
      rfl

theorem Climbs.unique {paths visited visited' : List Path} (h : Climbs files paths visited)
    (h' : Climbs files paths visited') : visited = visited' := by
  have hshort {short long : List Path} (hs : Climbs files paths short)
      (hl : Climbs files paths long) (hp : short <+: long) : short = long := by
    rcases hs.stops with rfl | ⟨last, hlast, hr⟩
    · exact hp.eq_of_length_le hl.begins.length_le
    · obtain ⟨rest, rfl⟩ := hp
      by_contra hne
      have hn : rest ≠ [] := fun hn => hne (by simp [hn])
      refine hl.passes last ?_ hr
      rw [List.dropLast_append_of_ne_nil hn]
      exact List.mem_append_left _ (List.mem_of_getLast? hlast)
  rcases List.prefix_or_prefix_of_prefix h.begins h'.begins with hp | hp
  · exact hshort h h' hp
  · exact (hshort h' h hp).symm

/-- The file at home is one of those that have been visited. -/
def Met (files : Files) (home : Path) (visited : List Path) : Prop :=
  ∃ path ∈ visited, (∃ settings, Holds files path settings) ∧
    path.components = (userPath home).components

/-- The paths whose files count: those that are visited on the way up, and the one at home unless
it has been met on the way. -/
structure Asks (files : Files) (home start : Path) (visited asked : List Path) : Prop where
  climbs : Climbs files ((start :: start.parents).map (·.join Settings.fileName)) visited
  home : Met files home visited ∧ asked = visited ∨
    ¬Met files home visited ∧ asked = visited ++ [userPath home]

theorem Missing.not_holds {settings : Settings} (h : Missing files path) :
    ¬Holds files path settings := by
  intro hs
  have hl := h.load.symm.trans hs.load
  cases hl

theorem Collects.mem_iff {paths : List Path} {found : List SettingsFile}
    (h : Collects files paths found) (file : SettingsFile) :
    file ∈ found ↔ file.path ∈ paths ∧ Holds files file.path file.settings := by
  induction h with
  | nil => simp
  | missing h _ ih =>
    rw [ih, List.mem_cons]
    constructor
    · exact fun hm => ⟨.inr hm.1, hm.2⟩
    · rintro ⟨he | hm, hs⟩
      · exact absurd (he ▸ hs) h.not_holds
      · exact ⟨hm, hs⟩
  | holds h _ ih =>
    rw [List.mem_cons, ih, List.mem_cons]
    constructor
    · rintro (rfl | hm)
      · exact ⟨.inl rfl, h⟩
      · exact ⟨.inr hm.1, hm.2⟩
    · rintro ⟨he | hm, hs⟩
      · obtain ⟨path, settings⟩ := file
        obtain rfl := he
        exact .inl (congrArg _ (hs.unique h))
      · exact .inr ⟨hm, hs⟩

theorem Collects.any_iff {home : Path} {visited : List Path} {found : List SettingsFile}
    (h : Collects files visited found) :
    (found.any fun file => decide (file.path.components = (userPath home).components)) = true ↔
      Met files home visited := by
  simp only [List.any_eq_true, decide_eq_true_eq, h.mem_iff]
  constructor
  · rintro ⟨file, ⟨hm, hs⟩, hc⟩
    exact ⟨file.path, hm, ⟨file.settings, hs⟩, hc⟩
  · rintro ⟨path, hm, ⟨settings, hs⟩, hc⟩
    exact ⟨⟨path, settings⟩, ⟨hm, hs⟩, hc⟩

theorem gather_singleton (files : Files) (path : Path) :
    gather files [path] = (load files path).map Option.toList := by
  rcases missing_or_holds_or_fails files path with h | ⟨settings, h⟩ | ⟨error, h⟩
  · rw [gather_cons_missing h, h.load]
    rfl
  · rw [gather_cons_holds h, h.load]
    rfl
  · rw [gather_cons_fails h, h.load]
    rfl

/-- What the search comes to is what reading the asked files one after the other comes to. -/
theorem discover_eq (files : Files) (home start : Path) :
    ∃ visited asked, Asks files home start visited asked ∧
      discover files home start = gather files asked := by
  obtain ⟨visited, hc, he⟩ := in_directories_eq files (start :: start.parents)
  have hg : Gathers files visited (gather files visited) := gather_eq_iff.mp rfl
  unfold discover
  rw [he]
  by_cases hm : Met files home visited
  · refine ⟨visited, visited, ⟨hc, .inl ⟨hm, rfl⟩⟩, ?_⟩
    generalize gather files visited = result at hg
    cases hg with
    | all collects => exact if_pos (collects.any_iff.mpr hm)
    | upTo => rfl
  · refine ⟨visited, _, ⟨hc, .inr ⟨hm, rfl⟩⟩, ?_⟩
    generalize hr : gather files visited = result at hg
    cases hg with
    | all collects =>
      rw [collects.gather_append, gather_singleton]
      refine (if_neg (mt collects.any_iff.mp hm)).trans ?_
      cases load files (userPath home) <;> rfl
    | upTo collects fails =>
      rw [List.append_assoc, List.cons_append, collects.gather_append, gather_cons_fails fails]
      rfl

theorem load_congr {other : Files} (h : other path = files path) :
    load other path = load files path := by
  simp only [load, h]

theorem gather_congr {other : Files} {paths : List Path}
    (h : ∀ path ∈ paths, other path = files path) : gather other paths = gather files paths := by
  have hm : paths.mapM (load other) = paths.mapM (load files) := by
    induction paths with
    | nil => rfl
    | cons path paths ih =>
      rw [List.mapM_cons, List.mapM_cons, load_congr (h path List.mem_cons_self),
        ih fun next hn => h next (List.mem_cons_of_mem _ hn)]
  rw [gather, gather, hm]

theorem holds_congr {other : Files} (h : other path = files path) (settings : Settings) :
    Holds other path settings ↔ Holds files path settings := by
  simp only [Holds, h]

theorem Asks.congr {other : Files} {home start : Path} {visited asked : List Path}
    (h : Asks files home start visited asked) (ho : ∀ path ∈ visited, other path = files path) :
    Asks other home start visited asked := by
  have hr : ∀ path ∈ visited, (IsRoot other path ↔ IsRoot files path) := by
    intro path hm
    simp only [IsRoot, holds_congr (ho path hm)]
  have hm : Met other home visited ↔ Met files home visited := by
    unfold Met
    apply exists_congr
    intro path
    apply and_congr_right
    intro hm
    simp only [holds_congr (ho path hm)]
  refine ⟨⟨h.climbs.begins, ?_, ?_⟩, ?_⟩
  · intro path hp
    rw [hr path (List.mem_of_mem_dropLast hp)]
    exact h.climbs.passes path hp
  · apply h.climbs.stops.imp_right
    rintro ⟨last, hl, hroot⟩
    exact ⟨last, hl, (hr last (List.mem_of_getLast? hl)).mpr hroot⟩
  · rw [hm]
    exact h.home

theorem Asks.unique {home start : Path} {visited visited' asked asked' : List Path}
    (h : Asks files home start visited asked) (h' : Asks files home start visited' asked') :
    visited = visited' ∧ asked = asked' := by
  obtain rfl := h.climbs.unique h'.climbs
  refine ⟨rfl, ?_⟩
  rcases h.home with ⟨hm, rfl⟩ | ⟨hm, rfl⟩
  · rcases h'.home with ⟨_, rfl⟩ | ⟨hn, _⟩
    · rfl
    · exact absurd hm hn
  · rcases h'.home with ⟨hn, _⟩ | ⟨_, rfl⟩
    · exact absurd hn hm
    · rfl

theorem Asks.subset {home start : Path} {visited asked : List Path}
    (h : Asks files home start visited asked) : asked ⊆ visited ++ [userPath home] := by
  rcases h.home with ⟨_, rfl⟩ | ⟨_, rfl⟩
  · exact List.subset_append_left _ _
  · exact fun _ hp => hp

/-- Files above the root file do not matter, nor does anything else but what the way up and the
file at home are. -/
theorem Asks.discover_congr {other : Files} {home start : Path} {visited asked : List Path}
    (h : Asks files home start visited asked)
    (ho : ∀ path ∈ visited ++ [userPath home], other path = files path) :
    discover other home start = discover files home start := by
  obtain ⟨visited₁, asked₁, ha, he⟩ := discover_eq files home start
  obtain ⟨visited₂, asked₂, hb, hf⟩ := discover_eq other home start
  obtain ⟨rfl, rfl⟩ := h.unique ha
  have hc := h.congr fun path hp => ho path (List.mem_append_left _ hp)
  obtain ⟨rfl, rfl⟩ := hc.unique hb
  rw [he, hf]
  exact gather_congr fun path hp => ho path (h.subset hp)

theorem Collects.paths_sublist {paths : List Path} {found : List SettingsFile}
    (h : Collects files paths found) : (found.map (·.path)).Sublist paths := by
  induction h with
  | nil => exact List.Sublist.slnil
  | missing _ _ ih => exact ih.cons _
  | holds _ _ ih => exact ih.cons_cons _

theorem Collects.of_append {before after : List Path} {found : List SettingsFile}
    (h : Collects files (before ++ after) found) :
    ∃ front back, Collects files before front ∧ Collects files after back ∧
      found = front ++ back := by
  induction before generalizing found with
  | nil => exact ⟨[], found, .nil, h, rfl⟩
  | cons path before ih =>
    cases h with
    | missing h rest =>
      obtain ⟨front, back, hf, hb, rfl⟩ := ih rest
      exact ⟨front, back, .missing h hf, hb, rfl⟩
    | holds h rest =>
      obtain ⟨front, back, hf, hb, rfl⟩ := ih rest
      exact ⟨_ :: front, back, .holds h hf, hb, rfl⟩

theorem file_name_relative : Path.isAbsolute Settings.fileName = false := rfl

theorem components_in_directory (directory : Path) :
    (directory.join Settings.fileName).components =
      directory.components ++ [Settings.fileName] :=
  Path.components_join file_name_relative (.inr rfl)

theorem Climbs.directory_of {start : Path} {visited : List Path}
    (h : Climbs files ((start :: start.parents).map (·.join Settings.fileName)) visited)
    {path : Path} (hp : path ∈ visited) :
    ∃ directory ∈ start :: start.parents, path = directory.join Settings.fileName := by
  obtain ⟨directory, hd, he⟩ := List.mem_map.mp (h.begins.subset hp)
  exact ⟨directory, hd, he.symm⟩

theorem Climbs.absolute {start : Path} (hs : start.isAbsolute = true) {visited : List Path}
    (h : Climbs files ((start :: start.parents).map (·.join Settings.fileName)) visited)
    {path : Path} (hp : path ∈ visited) :
    ∃ directory ∈ start :: start.parents, directory.isAbsolute = true ∧
      path = directory.join Settings.fileName := by
  obtain ⟨directory, hd, rfl⟩ := h.directory_of hp
  exact ⟨directory, hd, Path.absolute_parents hs hd, rfl⟩

theorem Climbs.nodup {start : Path} {visited : List Path}
    (h : Climbs files ((start :: start.parents).map (·.join Settings.fileName)) visited) :
    (visited.map Path.components).Nodup := by
  refine List.Nodup.sublist (h.begins.sublist.map _) ?_
  have hc : ((start :: start.parents).map (·.join Settings.fileName)).map Path.components =
      ((start :: start.parents).map Path.components).map (· ++ [Settings.fileName]) := by
    rw [List.map_map, List.map_map]
    exact List.map_congr_left fun directory _ => components_in_directory directory
  rw [hc]
  exact (Path.nodup_parents start).map (List.append_left_injective _)

/-- What is read are files of the way up, and behind them at most the one at home. -/
theorem Asks.split {home start : Path} {visited asked : List Path}
    (h : Asks files home start visited asked) {found : List SettingsFile}
    (hf : Collects files asked found) :
    ∃ walked atHome, found = walked ++ atHome ∧ Collects files visited walked ∧
      (atHome = [] ∨ ¬Met files home visited ∧ ∃ settings, atHome = [⟨userPath home, settings⟩]) := by
  rcases h.home with ⟨_, rfl⟩ | ⟨hm, rfl⟩
  · exact ⟨found, [], (List.append_nil found).symm, hf, .inl rfl⟩
  · obtain ⟨walked, atHome, hw, hh, rfl⟩ := hf.of_append
    refine ⟨walked, atHome, rfl, hw, ?_⟩
    cases hh with
    | missing _ rest =>
      cases rest
      exact .inl rfl
    | holds _ rest =>
      cases rest
      exact .inr ⟨hm, _, rfl⟩

/-- The file at home is added only where it is none of the files on the way up. -/
theorem Asks.nodup {home start : Path} {visited asked : List Path}
    (h : Asks files home start visited asked) {found : List SettingsFile}
    (hf : Collects files asked found) : (found.map (·.path.components)).Nodup := by
  obtain ⟨walked, atHome, rfl, hw, hh⟩ := h.split hf
  have hn : (walked.map (·.path.components)).Nodup := by
    have hp := (hw.paths_sublist.map Path.components).nodup h.climbs.nodup
    rwa [List.map_map] at hp
  rcases hh with rfl | ⟨hm, settings, rfl⟩
  · rwa [List.append_nil]
  · rw [List.map_append, List.map_singleton, List.nodup_append]
    refine ⟨hn, List.nodup_singleton _, ?_⟩
    intro components hc other ho he
    obtain ⟨file, hfile, rfl⟩ := List.mem_map.mp hc
    obtain rfl := List.mem_singleton.mp ho
    obtain ⟨hp, hs⟩ := (hw.mem_iff file).mp hfile
    exact hm ⟨file.path, hp, ⟨_, hs⟩, he⟩

/-- The path of the rules that a settings file names. It stands for itself if it is absolute, and
else it starts in the directory of the settings file. -/
structure NamesRules (file rules path : Path) : Prop where
  joined : ∃ directory, file.parent? = some directory ∧ path = directory.join rules
  absolute : rules.isAbsolute = true → path = rules
  relative : rules.isAbsolute = false → path.components = file.components.dropLast ++ rules.steps

/-- Each setting is that of the first file that has it, whatever file the other is from. -/
structure Decides (found : List SettingsFile) (merged : MergedSettings) : Prop where
  mode : ∀ mode, merged.mode = some mode ↔ ∃ nearer file farther,
    found = nearer ++ file :: farther ∧ file.settings.mode = some mode ∧
      ∀ other ∈ nearer, other.settings.mode = none
  rules : ∀ path, merged.rules = some path ↔ ∃ nearer file farther rules,
    found = nearer ++ file :: farther ∧ file.settings.rules = some rules ∧
      NamesRules file.path rules path ∧ ∀ other ∈ nearer, other.settings.rules = none
  sources : merged.sources = found.map (·.path)

theorem names_rules_iff {directory : Path} (hd : directory.isAbsolute = true) {rules path : Path} :
    path = ((directory.join Settings.fileName).parent?.getD ['.']).join rules ↔
      NamesRules (directory.join Settings.fileName) rules path := by
  have hc := components_in_directory directory
  obtain ⟨body, rfl⟩ := Path.absolute_cases hd
  rw [Path.components_absolute] at hc
  obtain ⟨parent, hp, ha, hpc⟩ := Path.components_parent (Path.absolute_join hd _) hc
  constructor
  · rw [hp]
    rintro rfl
    refine ⟨⟨parent, hp, rfl⟩, fun hr => ?_, fun hr => ?_⟩
    · simp [Path.join, hr]
    · have hn : parent ≠ [] := by
        rintro rfl
        cases ha
      rw [Option.getD_some, Path.components_join hr (.inl hn), hpc, hc, List.dropLast_concat]
  · rintro ⟨⟨directory, hj, rfl⟩, _, _⟩
    rw [hj]
    rfl

theorem decides {found : List SettingsFile}
    (h : ∀ file ∈ found, ∃ directory : Path, directory.isAbsolute = true ∧
      file.path = directory.join Settings.fileName) : Decides found (merge found) := by
  refine ⟨fun mode => ?_, fun path => ?_, rfl⟩
  · exact List.findSome?_eq_some_iff
  · simp only [merge, List.findSome?_eq_some_iff, Settings.rulesPath?, Option.map_eq_some_iff,
      Option.map_eq_none_iff]
    constructor
    · rintro ⟨nearer, file, farther, rfl, ⟨rules, hr, rfl⟩, hn⟩
      obtain ⟨directory, hd, hp⟩ := h file (by simp)
      refine ⟨nearer, file, farther, rules, rfl, hr, ?_, hn⟩
      rw [hp]
      exact (names_rules_iff hd).mp rfl
    · rintro ⟨nearer, file, farther, rules, rfl, hr, hnames, hn⟩
      obtain ⟨directory, hd, hp⟩ := h file (by simp)
      refine ⟨nearer, file, farther, rfl, ⟨rules, hr, ?_⟩, hn⟩
      rw [hp] at hnames ⊢
      exact ((names_rules_iff hd).mpr hnames).symm

/-- What holds of the settings files for a directory: which paths are visited on the way up, which
files are asked for, what the search comes to and what the files say together. -/
structure Cascade (files : Files) (home start : Path) (visited asked : List Path) : Prop where
  directories : (start :: start.parents).map Path.components =
    start.components.inits.tail.reverse
  asks : Asks files home start visited asked
  gathers : ∀ result, discover files home start = result ↔ Gathers files asked result
  once : ∀ found, discover files home start = .ok found → (found.map (·.path.components)).Nodup
  decides : ∀ found, discover files home start = .ok found → Decides found (merge found)
  /-- Files above the root file may be anything, be it malformed, and so may all others that are
  not asked for. -/
  no_others : ∀ other : Files, (∀ path ∈ visited ++ [userPath home], other path = files path) →
    discover other home start = discover files home start

theorem cascade_of_files (files : Files) {home start : Path} (hh : home.isAbsolute = true)
    (hs : start.isAbsolute = true) : ∃ visited asked, Cascade files home start visited asked := by
  obtain ⟨visited, asked, ha, he⟩ := discover_eq files home start
  have hg (result : Except SettingsError (List SettingsFile)) :
      discover files home start = result ↔ Gathers files asked result := by
    rw [he]
    exact gather_eq_iff
  have hc {found : List SettingsFile} (hf : discover files home start = .ok found) :
      Collects files asked found := by
    cases (hg _).mp hf with
    | all collects => exact collects
  refine ⟨visited, asked, ?_⟩
  refine
    { directories := Path.components_parents hs
      asks := ha
      gathers := hg
      once := fun found hf => ha.nodup (hc hf)
      decides := ?_
      no_others := fun other ho => ha.discover_congr ho }
  intro found hf
  apply SettingsFile.decides
  intro file hm
  have hp := ha.subset (((hc hf).mem_iff file).mp hm).1
  rcases List.mem_append.mp hp with hv | hu
  · obtain ⟨directory, _, hd, he⟩ := ha.climbs.absolute hs hv
    exact ⟨directory, hd, he⟩
  · exact ⟨home, hh, List.mem_singleton.mp hu⟩

/-- A closed file above the root file is not asked for, and one that is asked for is an error. -/
theorem cascade_with_home_on_the_way :
    let files := FileTree.files (.closed Settings.fileName .denied (.directory "home"
      (.file Settings.fileName (Text.utf8 "root = true\nrules = \"small.txt\"")
        (.directory "work" (.file Settings.fileName (Text.utf8 "mode = \"all\"") .empty) .empty))
      .empty)) []
    let home : Path := "/home"
    let start : Path := "/home/work"
    home.isAbsolute = true ∧ start.isAbsolute = true ∧
      (∃ visited asked, Cascade files home start visited asked) ∧
      (discover files home start).map merge = .ok ⟨some "/home/small.txt".toList, some .all,
        ["/home/work/.prg2p.toml".toList, "/home/.prg2p.toml".toList]⟩ ∧
      discover files home "/" = .error (.unreadable "/.prg2p.toml" .denied) :=
  ⟨rfl, rfl, cascade_of_files _ rfl rfl, by decide +kernel, by decide +kernel⟩

end SettingsFile

end LetterToSound
