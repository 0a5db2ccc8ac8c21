import LetterToSound.Proofs.Cascade
import LetterToSound.Proofs.TreesAlike

namespace LetterToSound

namespace Path

/-- No step of the path leads up. -/
def GoesDown (path : Path) : Prop := ['.', '.'] ∉ path.steps

instance (path : Path) : Decidable path.GoesDown :=
  inferInstanceAs (Decidable (['.', '.'] ∉ path.steps))

/-- Two paths without steps up that start alike. -/
structure Comparable (path other : Path) : Prop where
  down : path.GoesDown
  other_down : other.GoesDown
  anchor_eq : path.anchor.1 = other.anchor.1

/-- The place where a path starts. -/
def base (here : Place) (path : Path) : Place := if path.isAbsolute then [] else here

/-- The place that a path leads to, if it leads anywhere. -/
def place (here : Place) (path : Path) : Place := path.steps.foldl FileTree.enter (path.base here)

end Path

namespace FileTree

theorem enter_no_step (place : Place) {part : Text} (h : Path.isStep part = false) :
    enter place part = place := by
  unfold enter
  split
  · rename_i hp
    subst hp
    cases h
  · rw [h]
    rfl

theorem foldl_enter_steps (place : Place) (parts : List Text) :
    parts.foldl enter place = (parts.filter Path.isStep).foldl enter place := by
  induction parts generalizing place with
  | nil => rfl
  | cons part parts ih =>
    cases hs : Path.isStep part with
    | true => rw [List.filter_cons_of_pos hs, List.foldl_cons, List.foldl_cons, ih]
    | false =>
      rw [List.filter_cons_of_neg (by simp [hs]), List.foldl_cons, enter_no_step place hs, ih]

theorem foldl_enter_down (place : Place) {parts : List Text}
    (hs : ∀ part ∈ parts, Path.isStep part = true) (hd : ['.', '.'] ∉ parts) :
    parts.foldl enter place = place ++ parts := by
  induction parts generalizing place with
  | nil => rw [List.foldl_nil, List.append_nil]
  | cons part parts ih =>
    obtain ⟨hp, hd⟩ := not_or.mp (mt List.mem_cons.mpr hd)
    have he : enter place part = place ++ [part] := by
      rw [enter, if_neg (Ne.symm hp), if_pos (hs part List.mem_cons_self)]
    rw [List.foldl_cons, he, ih _ (fun next hn => hs next (List.mem_cons_of_mem _ hn)) hd,
      List.append_assoc, List.singleton_append]

theorem follow_place {tree : FileTree} {place last : Place} {parts : List Text} {content : Content}
    (h : tree.follow place parts = .ok (last, content)) : last = parts.foldl enter place := by
  induction parts generalizing place with
  | nil =>
    rw [follow_nil] at h
    split at h
    · cases h
    · cases h
      rfl
  | cons part parts ih =>
    rw [follow_cons] at h
    split at h
    · cases h
    · split at h
      · cases h
      · exact ih h
    · cases h

/-- The path leads to a file, which stands at the place. -/
def Denotes (tree : FileTree) (here : Place) (path : Path) (place : Place) : Prop :=
  ∃ bytes, tree.locate here path = .ok (place, .file bytes)

def SameFile (tree : FileTree) (here : Place) (path other : Path) : Prop :=
  ∃ place, tree.Denotes here path place ∧ tree.Denotes here other place

theorem Denotes.place_eq {tree : FileTree} {here place : Place} {path : Path}
    (h : tree.Denotes here path place) : place = path.place here := by
  obtain ⟨bytes, hl⟩ := h
  unfold locate at hl
  split at hl
  · cases hl
  · split at hl
    · cases hl
    · split at hl
      · cases hl
      · rw [follow_place hl, foldl_enter_steps]
        rfl

theorem denotes_of_files {tree : FileTree} {here : Place} {path : Path} {bytes : Bytes}
    (h : tree.files here path = .ok (.file bytes)) : tree.Denotes here path (path.place here) := by
  unfold files at h
  cases hl : tree.locate here path with
  | error cause =>
    rw [hl] at h
    cases h
  | ok found =>
    obtain ⟨place, content⟩ := found
    rw [hl] at h
    cases h
    have hd : tree.Denotes here path place := ⟨bytes, hl⟩
    rwa [← hd.place_eq]

end FileTree

namespace Path

theorem step_of_mem {path : Path} : ∀ part ∈ path.steps, isStep part = true :=
  fun _ hp => (List.mem_filter.mp hp).2

theorem GoesDown.place_eq {path : Path} (h : path.GoesDown) (here : Place) :
    path.place here = path.base here ++ path.steps :=
  FileTree.foldl_enter_down _ step_of_mem h

theorem base_congr {path other : Path} (h : path.anchor.1 = other.anchor.1) (here : Place) :
    path.base here = other.base here := by
  have ha : path.isAbsolute = other.isAbsolute := by
    rw [Bool.eq_iff_iff, ← anchor_eq_root_iff, ← anchor_eq_root_iff, h]
  rw [base, base, ha]

theorem Comparable.symm {path other : Path} (h : path.Comparable other) :
    other.Comparable path :=
  ⟨h.other_down, h.down, h.anchor_eq.symm⟩

theorem Comparable.trans {path between other : Path} (h : path.Comparable between)
    (h' : between.Comparable other) : path.Comparable other :=
  ⟨h.down, h'.other_down, h.anchor_eq.trans h'.anchor_eq⟩

/-- Comparable paths lead to one place only if they are the same path. -/
theorem Comparable.components_eq {path other : Path} (h : path.Comparable other) {here : Place}
    (hp : path.place here = other.place here) : path.components = other.components := by
  rw [h.down.place_eq, h.other_down.place_eq, base_congr h.anchor_eq] at hp
  rw [Path.components_eq, Path.components_eq, origin, origin, h.anchor_eq,
    List.append_cancel_left hp]

theorem steps_join_name (directory : Path) :
    (directory.join Settings.fileName).steps = directory.steps ++ [Settings.fileName] :=
  steps_join SettingsFile.file_name_relative directory

theorem anchor_join_name (directory : Path) :
    (directory.join Settings.fileName).anchor.1 = directory.anchor.1 :=
  anchor_join SettingsFile.file_name_relative (.inr rfl)

theorem place_join_name (here : Place) (directory : Path) :
    (directory.join Settings.fileName).place here =
      directory.place here ++ [Settings.fileName] := by
  rw [place, place, base_congr (anchor_join_name directory), steps_join_name, List.foldl_append]
  rfl

theorem GoesDown.join_name {directory : Path} (h : directory.GoesDown) :
    (directory.join Settings.fileName).GoesDown := by
  rw [GoesDown, steps_join_name, List.mem_append]
  exact not_or.mpr ⟨h, by decide⟩

/-- Whatever the path is, a directory on its way up is one that the path leads through. -/
theorem place_of_mem_upwards {path directory : Path} (h : directory ∈ path :: path.parents)
    (here : Place) : directory.steps <+: path.steps ∧
      directory.place here = directory.steps.foldl FileTree.enter (path.base here) := by
  rcases mem_upwards h with ⟨ha, hs⟩ | ⟨ha, rfl⟩
  · exact ⟨hs, by rw [place, base_congr ha]⟩
  · have hr : path.isAbsolute = false := by
      rw [← Bool.not_eq_true, ← anchor_eq_root_iff, ha]
      decide
    refine ⟨List.nil_prefix, ?_⟩
    rw [base, hr]
    rfl

end Path

namespace SettingsFile

/-- Which files those are that are found on the way up from `start` and at home. -/
structure OneFileEach (tree : FileTree) (here : Place) (home start : Path)
    (walked atHome : List SettingsFile) : Prop where
  home_last : atHome = [] ∨ ∃ settings, atHome = [⟨userPath home, settings⟩]
  denotes : ∀ file ∈ walked ++ atHome, tree.Denotes here file.path (file.path.place here)
  /-- No path is taken twice, in whatever way the start directory and home are spelled. -/
  spelled : ((walked ++ atHome).map (·.path.components)).Nodup
  /-- The way up goes through no directory that the path of the start directory does not lead
  through. -/
  through : ∀ file ∈ walked, ∃ steps, steps <+: start.steps ∧
    tree.Denotes here file.path
      (steps.foldl FileTree.enter (start.base here) ++ [Settings.fileName])
  above : start.GoesDown → ∀ file ∈ walked, ∃ directory, directory <+: start.place here ∧
    tree.Denotes here file.path (directory ++ [Settings.fileName])
  /-- A file is taken twice only by paths that start in two ways, or with a step up in one. -/
  apart : (walked ++ atHome).Pairwise fun file other =>
    file.path.Comparable other.path → ¬tree.SameFile here file.path other.path
  /-- On the way up only the file of the working directory is taken twice, and only from a dot. -/
  from_dot : start.GoesDown → walked.Pairwise fun file other =>
    tree.SameFile here file.path other.path →
      start.anchor.1 = ['.'] ∧ tree.Denotes here file.path (here ++ [Settings.fileName])
  once : start.Comparable home → start.anchor.1 ≠ ['.'] →
    (walked ++ atHome).Pairwise fun file other => ¬tree.SameFile here file.path other.path

variable {tree : FileTree} {here : Place} {home start : Path}

theorem Collects.denotes {paths : List Path} {found : List SettingsFile}
    (h : Collects (tree.files here) paths found) {file : SettingsFile} (hm : file ∈ found) :
    tree.Denotes here file.path (file.path.place here) := by
  obtain ⟨_, document, hf, _⟩ := (h.mem_iff file).mp hm
  exact FileTree.denotes_of_files hf

/-- What stands in a directory on the way up stands in one that the start path leads through. -/
theorem denotes_through {path directory : Path} (hd : directory ∈ start :: start.parents)
    (hp : path = directory.join Settings.fileName)
    (h : tree.Denotes here path (path.place here)) : ∃ steps, steps <+: start.steps ∧
      tree.Denotes here path
        (steps.foldl FileTree.enter (start.base here) ++ [Settings.fileName]) := by
  obtain ⟨hs, hplace⟩ := Path.place_of_mem_upwards hd here
  refine ⟨directory.steps, hs, ?_⟩
  rwa [← hplace, ← Path.place_join_name, ← hp]

/-- Without steps up the directories that a path leads through are those above its place. -/
theorem denotes_above {path : Path} {steps : List Text} (h : start.GoesDown)
    (hs : steps <+: start.steps)
    (hd : tree.Denotes here path
      (steps.foldl FileTree.enter (start.base here) ++ [Settings.fileName])) :
    ∃ directory, directory <+: start.place here ∧
      tree.Denotes here path (directory ++ [Settings.fileName]) := by
  rw [FileTree.foldl_enter_down _ (fun part hp => Path.step_of_mem part (hs.subset hp))
    fun hp => h (hs.subset hp)] at hd
  exact ⟨_, h.place_eq here ▸ (List.prefix_append_right_inj _).mpr hs, hd⟩

theorem apart_of_nodup (tree : FileTree) (here : Place) {found : List SettingsFile}
    (h : (found.map (·.path.components)).Nodup) : found.Pairwise fun file other =>
      file.path.Comparable other.path → ¬tree.SameFile here file.path other.path := by
  refine (List.pairwise_map.mp h).imp ?_
  rintro file other hne hc ⟨place, hp, hp'⟩
  exact hne (hc.components_eq (hp.place_eq.symm.trans hp'.place_eq))

/-- What is found on the way up is comparable to the start path. Only from a dot the way ends with
the file of the working directory, whose path starts anew. -/
theorem comparable_on_the_way {directory : Path} (h : directory ∈ start :: start.parents)
    (hs : start.GoesDown) (here : Place) :
    (directory.join Settings.fileName).Comparable start ∨ start.anchor.1 = ['.'] ∧
      (directory.join Settings.fileName).place here = here ++ [Settings.fileName] := by
  rcases Path.mem_upwards h with ⟨he, hp⟩ | ⟨he, rfl⟩
  · exact .inl ⟨Path.GoesDown.join_name fun hm => hs (hp.subset hm), hs,
      (Path.anchor_join_name directory).trans he⟩
  · exact .inr ⟨he, Path.place_join_name here []⟩

theorem comparable_at_home (h : start.Comparable home) : (userPath home).Comparable start :=
  ⟨h.other_down.join_name, h.down, (Path.anchor_join_name home).trans h.anchor_eq.symm⟩

/-- Two paths to one file are not comparable, so one of them is that of the working directory. -/
theorem same_file_on_the_way {directory other : Path} (h : directory ∈ start :: start.parents)
    (ho : other ∈ start :: start.parents) (hs : start.GoesDown)
    (hn : (directory.join Settings.fileName).Comparable (other.join Settings.fileName) →
      ¬tree.SameFile here (directory.join Settings.fileName) (other.join Settings.fileName))
    (hf : tree.SameFile here (directory.join Settings.fileName) (other.join Settings.fileName)) :
    start.anchor.1 = ['.'] ∧
      tree.Denotes here (directory.join Settings.fileName) (here ++ [Settings.fileName]) := by
  obtain ⟨place, hd, hd'⟩ := hf
  rcases comparable_on_the_way h hs here with hc | ⟨hdot, hp⟩
  · rcases comparable_on_the_way ho hs here with hc' | ⟨hdot, hp⟩
    · exact absurd ⟨place, hd, hd'⟩ (hn (hc.trans hc'.symm))
    · exact ⟨hdot, hp ▸ hd'.place_eq ▸ hd⟩
  · exact ⟨hdot, hp ▸ hd.place_eq ▸ hd⟩

theorem one_file_each {found : List SettingsFile}
    (h : discover (tree.files here) home start = .ok found) :
    ∃ walked atHome, found = walked ++ atHome ∧
      OneFileEach tree here home start walked atHome := by
  obtain ⟨visited, asked, ha, he⟩ := discover_eq (tree.files here) home start
  have hc : Collects (tree.files here) asked found := by
    cases gather_eq_iff.mp (he.symm.trans h) with
    | all collects => exact collects
  obtain ⟨walked, atHome, rfl, hw, hh⟩ := ha.split hc
  have hway : ∀ file ∈ walked, ∃ directory ∈ start :: start.parents,
      file.path = directory.join Settings.fileName :=
    fun file hm => ha.climbs.directory_of ((hw.mem_iff file).mp hm).1
  have hthrough : ∀ file ∈ walked, ∃ steps, steps <+: start.steps ∧
      tree.Denotes here file.path
        (steps.foldl FileTree.enter (start.base here) ++ [Settings.fileName]) := by
    intro file hm
    obtain ⟨directory, hd, hp⟩ := hway file hm
    exact denotes_through hd hp (hw.denotes hm)
  have hapart := apart_of_nodup tree here (ha.nodup hc)
  refine ⟨walked, atHome, rfl, ?_⟩
  refine
    { home_last := hh.imp_right And.right
      denotes := fun _ => hc.denotes
      spelled := ha.nodup hc
      through := hthrough
      above := ?_
      apart := hapart
      from_dot := ?_
      once := ?_ }
  · intro hs file hm
    obtain ⟨steps, hp, hd⟩ := hthrough file hm
    exact denotes_above hs hp hd
  · intro hs
    refine (hapart.sublist (List.sublist_append_left walked atHome)).imp_of_mem ?_
    rintro ⟨_, settings⟩ ⟨_, other⟩ hm hm' hn
    obtain ⟨directory, hd, rfl⟩ := hway _ hm
    obtain ⟨directory', hd', rfl⟩ := hway _ hm'
    exact same_file_on_the_way hd hd' hs hn
  · intro hs hdot
    have hstart : ∀ file ∈ walked ++ atHome, file.path.Comparable start := by
      intro file hm
      rcases List.mem_append.mp hm with hm | hm
      · obtain ⟨directory, hd, hp⟩ := hway file hm
        exact hp ▸ (comparable_on_the_way hd hs.down here).resolve_right fun h => hdot h.1
      · rcases hh with rfl | ⟨_, settings, rfl⟩
        · cases hm
        · obtain rfl := List.mem_singleton.mp hm
          exact comparable_at_home hs
    refine hapart.imp_of_mem ?_
    intro file other hf ho hn
    exact hn ((hstart file hf).trans (hstart other ho).symm)

/-- The start path is relative and has a dot and two slashes in it, and home is beside it. -/
theorem one_file_each_with_home_aside :
    let tree := FileTree.directory "home" (.directory "work"
        (.file Settings.fileName [] (.directory "deep" .empty .empty))
        (.file Settings.fileName (Text.utf8 "mode = \"all\"")
          (.directory "user" (.file Settings.fileName [] .empty) .empty))) .empty
    let here : Place := ["home".toList]
    let start : Path := "work/.//deep"
    let home : Path := "user"
    let found : List SettingsFile := [⟨"work/.prg2p.toml", {}⟩,
      ⟨".prg2p.toml", { mode := some .all }⟩, ⟨"user/.prg2p.toml", {}⟩]
    discover (tree.files here) home start = .ok found ∧
      (∃ walked atHome, found = walked ++ atHome ∧
        OneFileEach tree here home start walked atHome) ∧
      start.Comparable home ∧ start.anchor.1 ≠ ['.'] := by
  intro tree here start home found
  have h : discover (tree.files here) home start = .ok found := by decide +kernel
  exact ⟨h, one_file_each h, ⟨by decide +kernel, by decide +kernel, rfl⟩, by decide +kernel⟩

/-- A start path at a dot, a home that starts elsewhere and a home with a step up: each makes one
file be taken twice. A start path with a step up takes a file, too, that is not above its place. -/
theorem files_taken_twice_and_aside :
    let tree := FileTree.file Settings.fileName []
      (.directory "a" (.file Settings.fileName [] .empty) .empty)
    let takes (home start : Path) (paths : List Path) : Prop :=
      (discover (tree.files []) home start).map (·.map (·.path)) = .ok paths
    (takes "/b" "." ["./.prg2p.toml", ".prg2p.toml"] ∧
      tree.SameFile [] "./.prg2p.toml" ".prg2p.toml") ∧
    (takes "/" "" [".prg2p.toml", "/.prg2p.toml"] ∧
      tree.SameFile [] ".prg2p.toml" "/.prg2p.toml") ∧
    (takes "/a/.." "/" ["/.prg2p.toml", "/a/../.prg2p.toml"] ∧
      tree.SameFile [] "/.prg2p.toml" "/a/../.prg2p.toml") ∧
    takes "/b" "a/.." ["a/../.prg2p.toml", "a/.prg2p.toml", ".prg2p.toml"] ∧
      Path.place [] "a/.." = [] ∧
      tree.Denotes [] "a/.prg2p.toml" ["a", Settings.fileName] := by
  intro tree takes
  have root {path : Path} (h : tree.locate [] path = .ok ([Settings.fileName], .file [])) :
      tree.Denotes [] path [Settings.fileName] := ⟨[], h⟩
  refine ⟨⟨by decide +kernel, _, root ?_, root ?_⟩, ⟨by decide +kernel, _, root ?_, root ?_⟩,
    ⟨by decide +kernel, _, root ?_, root ?_⟩, by decide +kernel, by decide +kernel, [], ?_⟩
  all_goals decide +kernel

end SettingsFile

end LetterToSound
