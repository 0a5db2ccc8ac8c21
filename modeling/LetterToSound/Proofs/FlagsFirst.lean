import LetterToSound.Proofs.Cascade
import LetterToSound.Proofs.Commands
import LetterToSound.Proofs.TreesAlike

namespace LetterToSound

namespace SettingsFile

theorem Collects.not_fails {files : Files} {paths : List Path} {found : List SettingsFile}
    (h : Collects files paths found) {path : Path} (hp : path ∈ paths) (error : SettingsError) :
    ¬Fails files path error := by
  induction h with
  | nil => cases hp
  | missing h _ ih =>
    rcases List.mem_cons.mp hp with rfl | hp
    · intro hf
      cases h.load.symm.trans hf.load
    · exact ih hp
  | holds h _ ih =>
    rcases List.mem_cons.mp hp with rfl | hp
    · intro hf
      cases h.load.symm.trans hf.load
    · exact ih hp

end SettingsFile

/-- A flag says which transcriptions to give. -/
def Options.NamesMode (options : Options) : Prop := options.mode.isSome ∨ options.all

theorem MergedSettings.mode_in_effect_of_flag {options : Options} (h : options.NamesMode)
    (settings settings' : MergedSettings) :
    settings'.modeInEffect options = settings.modeInEffect options := by
  unfold modeInEffect
  split
  · rfl
  · rename_i ha
    obtain ⟨mode, hm⟩ := Option.isSome_iff_exists.mp (h.resolve_right ha)
    rw [hm, Option.some_or, Option.some_or]

theorem MergedSettings.mode_in_effect_of_no_flag {options : Options} (h : ¬options.NamesMode)
    (settings : MergedSettings) : settings.modeInEffect options = settings.mode.getD .first := by
  obtain ⟨hm, ha⟩ := not_or.mp h
  rw [modeInEffect, if_neg ha, Option.not_isSome_iff_eq_none.mp hm, Option.none_or]
  rfl

namespace Machine

/-- Of the settings files that are asked for, each that is there can be read. -/
def Readable (machine : Machine) : Prop :=
  ∀ visited asked, SettingsFile.Asks machine.files machine.home machine.here visited asked →
    ∀ path ∈ asked, ∀ error, ¬SettingsFile.Fails machine.files path error

variable {machine other : Machine}

theorem readable_iff : machine.Readable ↔ ∃ settings, machine.settings = .ok settings := by
  obtain ⟨visited, asked, ha, he⟩ :=
    SettingsFile.discover_eq machine.files machine.home machine.here
  have hg := SettingsFile.gather_eq_iff.mp he.symm
  constructor
  · intro h
    cases hd : SettingsFile.discover machine.files machine.home machine.here with
    | ok found => exact ⟨_, settings_eq_ok_iff.mpr ⟨found, hd, rfl⟩⟩
    | error error =>
      rw [hd] at hg
      cases hg with
      | upTo _ fails => exact absurd fails (h _ _ ha _ (by simp) _)
  · rintro ⟨settings, hs⟩ visited' asked' ha' path hp
    obtain ⟨rfl, rfl⟩ := ha.unique ha'
    obtain ⟨found, hd, _⟩ := settings_eq_ok_iff.mp hs
    rw [show SettingsFile.discover machine.files machine.home machine.here = .ok found from hd]
      at hg
    cases hg with
    | all collects => exact collects.not_fails hp

theorem trie_congr {rules : Option Path}
    (h : ∀ path ∈ rules, other.files path = machine.files path) :
    other.trie rules = machine.trie rules := by
  cases rules with
  | none => rfl
  | some path =>
    simp only [trie, RuleBook.ofFile, Files.opened_congr (h path rfl)]

theorem open_in_congr (hi : other.input = machine.input) {source : Source}
    (h : ∀ path, source = .file path → other.files path = machine.files path) :
    source.openIn other = source.openIn machine := by
  cases source with
  | standardInput => rw [Source.openIn, Source.openIn, hi]
  | file path => rw [Source.openIn, Source.openIn, Files.opened_congr (h path rfl)]

theorem of_sources_congr (hi : other.input = machine.input) {sources : List Source}
    (h : ∀ path, .file path ∈ sources → other.files path = machine.files path) :
    WordStream.ofSources other sources = WordStream.ofSources machine sources := by
  induction sources with
  | nil => rfl
  | cons source sources ih =>
    rw [WordStream.ofSources, WordStream.ofSources,
      open_in_congr hi fun path hp => h path (hp ▸ List.mem_cons_self),
      ih fun path hp => h path (List.mem_cons_of_mem _ hp)]

theorem mem_of_inputs {inputs : List Path} {path : Path}
    (h : .file path ∈ Source.ofInputs inputs) : path ∈ inputs := by
  unfold Source.ofInputs at h
  split at h
  · simp at h
  · simpa using h

/-- Rules and inputs are all that a run takes from the files. -/
theorem transcribe_with_congr (hi : other.input = machine.input) {rules : Option Path}
    {inputs : List Path} (mode : Mode)
    (h : ∀ path ∈ rules.toList ++ inputs, other.files path = machine.files path) :
    other.transcribeWith rules mode inputs = machine.transcribeWith rules mode inputs := by
  have ht : other.trie rules = machine.trie rules :=
    trie_congr fun path hp => h path (List.mem_append_left _ (Option.mem_toList.mpr hp))
  have hs : WordStream.ofSources other (Source.ofInputs inputs) =
      WordStream.ofSources machine (Source.ofInputs inputs) :=
    of_sources_congr hi fun path hp => h path (List.mem_append_right _ (mem_of_inputs hp))
  rw [transcribeWith, transcribeWith, ht, hs]

variable {options : Options} {settings settings' : MergedSettings}

theorem run_congr {arguments : List Text} (hr : Request.read arguments = .ok (.transcribe options))
    (hi : other.input = machine.input) (hs : machine.settings = .ok settings)
    (hs' : other.settings = .ok settings')
    (hrules : settings'.rulesInEffect options.rules = settings.rulesInEffect options.rules)
    (hmode : settings'.modeInEffect options = settings.modeInEffect options)
    (h : ∀ path ∈ (settings.rulesInEffect options.rules).toList ++ options.inputs,
      other.files path = machine.files path) : other.run arguments = machine.run arguments := by
  simp only [run, hr, answer]
  rw [transcribe_of_settings hs, transcribe_of_settings hs', hrules, hmode,
    transcribe_with_congr hi _ h]

/-- The machine with a tree of files, seen from a directory. -/
def on (machine : Machine) (tree : FileTree) (here : Place) : Machine :=
  { machine with files := tree.files here }

/-- What flags leave to the settings of two machines, if rules and inputs have allowed paths. -/
structure FlagsFirst (allowed : Path → Prop) (machine other : Machine) : Prop where
  /-- Nothing, where both the rules and the mode are named. -/
  both : ∀ {arguments options rules}, Request.Transcribes arguments options →
    options.rules = some rules → options.NamesMode →
    (∀ path ∈ rules :: options.inputs, allowed path) → machine.Readable → other.Readable →
    other.run arguments = machine.run arguments
  /-- The mode in effect, where the rules are named. -/
  rules_only : ∀ {arguments options rules settings settings'},
    Request.Transcribes arguments options → options.rules = some rules → ¬options.NamesMode →
    (∀ path ∈ rules :: options.inputs, allowed path) →
    machine.settings = .ok settings → other.settings = .ok settings' →
    settings'.mode.getD .first = settings.mode.getD .first →
    other.run arguments = machine.run arguments
  /-- The path of the rules, where the mode is named. -/
  mode_only : ∀ {arguments options settings settings'},
    Request.Transcribes arguments options → options.rules = none → options.NamesMode →
    (∀ path ∈ settings.rules.toList ++ options.inputs, allowed path) →
    machine.settings = .ok settings → other.settings = .ok settings' →
    settings'.rules = settings.rules → other.run arguments = machine.run arguments
  /-- The machine has settings just where its settings files can be read. -/
  settled : machine.Readable ↔ ∃ settings, machine.settings = .ok settings
  /-- One settings file that cannot be read ends the run before its first word. -/
  stops : ∀ {arguments options visited asked path error},
    Request.read arguments = .ok (.transcribe options) →
    SettingsFile.Asks machine.files machine.home machine.here visited asked → path ∈ asked →
    SettingsFile.Fails machine.files path error →
    (machine.run arguments).code = 1 ∧ (machine.run arguments).out = []

theorem run_unreadable {arguments : List Text}
    (hr : Request.read arguments = .ok (.transcribe options)) (h : ¬machine.Readable) :
    (machine.run arguments).code = 1 ∧ (machine.run arguments).out = [] := by
  cases hs : machine.settings with
  | ok settings => exact absurd (readable_iff.mpr ⟨settings, hs⟩) h
  | error failure =>
    simp only [run, hr, answer]
    rw [(stopped_by_settings hs).2]
    exact ⟨rfl, rfl⟩

/-- The files on the way to rules and inputs are the same, so only the settings could differ. -/
theorem flags_come_first {tree other : FileTree} (h : tree.SameButSettings other)
    (machine : Machine) (here : Place) :
    FlagsFirst (fun path => tree.Avoids here path ∧ other.Avoids here path)
      (machine.on tree here) (machine.on other here) := by
  have hf {paths : List Path}
      (hp : ∀ path ∈ paths, tree.Avoids here path ∧ other.Avoids here path) :
      ∀ path ∈ paths, (machine.on other here).files path = (machine.on tree here).files path :=
    fun path hm => h.files_eq (hp path hm).1 (hp path hm).2
  constructor
  case both =>
    intro arguments options rules hr hrules hmode hp ht ho
    obtain ⟨settings, hs⟩ := readable_iff.mp ht
    obtain ⟨settings', hs'⟩ := readable_iff.mp ho
    refine run_congr hr.read rfl hs hs' ?_ (settings.mode_in_effect_of_flag hmode settings') ?_
    · rw [hrules]
      rfl
    · rw [hrules]
      exact hf hp
  case rules_only =>
    intro arguments options rules settings settings' hr hrules hmode hp hs hs' he
    refine run_congr hr.read rfl hs hs' ?_ ?_ ?_
    · rw [hrules]
      rfl
    · rw [settings.mode_in_effect_of_no_flag hmode, settings'.mode_in_effect_of_no_flag hmode, he]
    · rw [hrules]
      exact hf hp
  case mode_only =>
    intro arguments options settings settings' hr hrules hmode hp hs hs' he
    refine run_congr hr.read rfl hs hs' ?_ (settings.mode_in_effect_of_flag hmode settings') ?_
    · rw [hrules]
      exact he
    · rw [hrules]
      exact hf hp
  case settled => exact readable_iff
  case stops => exact fun hr ha hp he => run_unreadable hr fun h => h _ _ ha _ hp _ he

/-- Both flags have their way with a settings file that would have it otherwise, but not with one
that cannot be opened. -/
theorem flags_before_other_mode :
    let tree : FileTree := .file "r" (Text.utf8 "E = *\nE\ta\tE\tb, c\n") .empty
    let document : Text := "mode = \"last\"\nrules = \"s\""
    let other : FileTree := .file Settings.fileName document.utf8 tree
    let closed : FileTree := .closed Settings.fileName .denied tree
    let machine : Machine := ⟨tree.files [], "/", "/home", Text.utf8 "a"⟩
    tree.SameButSettings other ∧ tree.SameButSettings closed ∧
      FlagsFirst (fun path => tree.Avoids [] path ∧ other.Avoids [] path) (machine.on tree [])
        (machine.on other []) ∧
      (machine.on other []).settings = .ok ⟨some "/s".toList, some .last, ["/.prg2p.toml".toList]⟩ ∧
      (machine.on other []).run ["-r", "r", "-a"] = (machine.on tree []).run ["-r", "r", "-a"] ∧
      (machine.on tree []).run ["-r", "r", "-a"] = ⟨0, "a\t2\tb|c\n", []⟩ ∧
      (machine.on closed []).run ["-r", "r", "-a"] =
        ⟨1, [], "error: Failed to load configuration\n\nCaused by:\n" ++
          "    0: Failed to read config file: /.prg2p.toml\n" ++
          "    1: Permission denied (os error 13)\n"⟩ := by
  intro tree document other closed machine
  have h : tree.SameButSettings other :=
    FileTree.same_but_settings_file (by simp [FileTree.Item.content]) rfl fun _ => rfl
  have hf := flags_come_first h machine []
  have hs : (machine.on tree []).settings = .ok ⟨none, none, []⟩ := by decide +kernel
  have hs' : (machine.on other []).settings =
      .ok ⟨some "/s".toList, some .last, ["/.prg2p.toml".toList]⟩ := by decide +kernel
  have hr : Request.Transcribes ["-r", "r", "-a"] { rules := some "r", all := true } :=
    ⟨by decide +kernel, rfl⟩
  have hp : ∀ path ∈ (["r"] : List Path), tree.Avoids [] path ∧ other.Avoids [] path := by
    intro path hm
    obtain rfl := List.mem_singleton.mp hm
    exact ⟨FileTree.avoids_of_names (by decide), FileTree.avoids_of_names (by decide)⟩
  have hclosed : tree.SameButSettings closed :=
    FileTree.same_but_settings_file (by simp [FileTree.Item.content]) rfl fun _ => rfl
  exact ⟨h, hclosed, hf, hs', hf.both hr rfl (.inr rfl) hp (readable_iff.mpr ⟨_, hs⟩)
    (readable_iff.mpr ⟨_, hs'⟩), by decide +kernel, by decide +kernel⟩

/-- A path that leads through a settings file and out again finds no file, and it fails in another
way when there is one. -/
theorem flag_leads_through_settings :
    let tree : FileTree := .file "r" (Text.utf8 "E = *\nE\ta\tE\tb\n") .empty
    let other : FileTree := .file Settings.fileName [] tree
    let machine : Machine := ⟨tree.files [], "/", "/home", Text.utf8 "a"⟩
    tree.SameButSettings other ∧
      ¬FlagsFirst (fun path => ¬tree.LeadsToSettings [] path ∧ ¬other.LeadsToSettings [] path)
        (machine.on tree []) (machine.on other []) := by
  intro tree other machine
  have h : tree.SameButSettings other :=
    FileTree.same_but_settings_file (by simp [FileTree.Item.content]) rfl fun _ => rfl
  refine ⟨h, fun hf => ?_⟩
  have hs : (machine.on tree []).settings = .ok ⟨none, none, []⟩ := by decide +kernel
  have hs' : (machine.on other []).settings = .ok ⟨none, none, ["/.prg2p.toml".toList]⟩ := by
    decide +kernel
  have hr : Request.Transcribes ["-r", ".prg2p.toml/../r", "-a"]
      { rules := some ".prg2p.toml/../r", all := true } := ⟨by decide +kernel, rfl⟩
  have hp : ∀ path ∈ ([".prg2p.toml/../r"] : List Path),
      ¬tree.LeadsToSettings [] path ∧ ¬other.LeadsToSettings [] path := by
    intro path hm
    obtain rfl := List.mem_singleton.mp hm
    have ht : tree.files [] ".prg2p.toml/../r" = .error .notFound := by decide +kernel
    have ho : other.files [] ".prg2p.toml/../r" = .error .notDirectory := by decide +kernel
    exact ⟨FileTree.not_leads_to_settings ht, FileTree.not_leads_to_settings ho⟩
  have he := hf.both hr rfl (.inr rfl) hp (readable_iff.mpr ⟨_, hs⟩) (readable_iff.mpr ⟨_, hs'⟩)
  exact absurd he (by decide +kernel)

end Machine

end LetterToSound
