import LetterToSound.Files.Tree
import LetterToSound.Settings.Basic

namespace LetterToSound.FileTree

/-- What stands at a place. The entries of a directory stand at places of their own. -/
def content? (tree : FileTree) (place : Place) : Option Content :=
  (tree.item? place).map Item.content

/-- A settings file stands at the place, be it open or closed. -/
def HoldsSettings (tree : FileTree) (place : Place) : Prop :=
  place.getLast? = some Settings.fileName ∧
    ∃ content ≠ .directory, tree.content? place = some content

/-- What stands at a place is the same in both trees, but for a settings file in either of them. -/
def SameButSettings (tree other : FileTree) : Prop :=
  ∀ place, other.content? place = tree.content? place ∨
    place.getLast? = some Settings.fileName ∧ tree.content? place ≠ some .directory ∧
      other.content? place ≠ some .directory

/-- The places that are looked up for the parts of a path, up to one that is no directory. -/
def visits (tree : FileTree) (place : Place) : List Text → List Place
  | [] => [place]
  | part :: parts =>
    match tree.content? place with
    | some .directory => place :: tree.visits (enter place part) parts
    | _ => [place]

/-- No settings file is looked up for the path. -/
def Avoids (tree : FileTree) (here : Place) (path : Path) : Prop :=
  ∀ place ∈ tree.visits (if path.isAbsolute then [] else here) (List.splitOn '/' path),
    ¬tree.HoldsSettings place

/-- What the path leads to is itself a settings file. -/
def LeadsToSettings (tree : FileTree) (here : Place) (path : Path) : Prop :=
  ∃ place, ∃ content ≠ .directory, tree.locate here path = .ok (place, content) ∧
    place.getLast? = some Settings.fileName

/-- A place without the name of a settings file holds none. -/
theorem avoids_of_names {tree : FileTree} {here : Place} {path : Path}
    (h : ∀ place ∈ tree.visits (if path.isAbsolute then [] else here) (List.splitOn '/' path),
      place.getLast? ≠ some Settings.fileName) : tree.Avoids here path :=
  fun place hm hs => h place hm hs.1

theorem not_leads_to_settings {tree : FileTree} {here : Place} {path : Path} {cause : FileError}
    (h : tree.files here path = .error cause) : ¬tree.LeadsToSettings here path := by
  rintro ⟨place, content, _, hl, _⟩
  rw [files, hl] at h
  cases h

theorem follow_nil (tree : FileTree) (place : Place) :
    tree.follow place [] = match tree.content? place with
      | none => .error .notFound
      | some content => .ok (place, content) := by
  rw [follow, content?]
  cases tree.item? place with
  | none => rfl
  | some item => rfl

theorem follow_cons (tree : FileTree) (place : Place) (part : Text) (parts : List Text) :
    tree.follow place (part :: parts) = match tree.content? place with
      | none => .error .notFound
      | some .directory =>
        if longestName < part.utf8Size then .error .nameTooLong
        else tree.follow (enter place part) parts
      | some _ => .error .notDirectory := by
  rw [follow, content?]
  cases tree.item? place with
  | none => rfl
  | some item => cases item <;> rfl

variable {tree other : FileTree}

theorem SameButSettings.content_eq (h : tree.SameButSettings other) {place : Place}
    (ht : ¬tree.HoldsSettings place) (ho : ¬other.HoldsSettings place) :
    other.content? place = tree.content? place := by
  rcases h place with he | ⟨hl, hd, hd'⟩
  · exact he
  · have hnone {seen : FileTree} (hs : ¬seen.HoldsSettings place)
        (hd : seen.content? place ≠ some .directory) : seen.content? place = none := by
      cases hc : seen.content? place with
      | none => rfl
      | some content =>
        exact absurd ⟨hl, content, fun he => hd (he ▸ hc), hc⟩ hs
    rw [hnone ht hd, hnone ho hd']

theorem mem_visits (tree : FileTree) (place : Place) (parts : List Text) :
    place ∈ tree.visits place parts := by
  cases parts with
  | nil => exact List.mem_singleton.mpr rfl
  | cons part parts =>
    rw [visits]
    split
    · exact List.mem_cons_self
    · exact List.mem_singleton.mpr rfl

theorem SameButSettings.follow_eq (h : tree.SameButSettings other) {place : Place}
    {parts : List Text} (ht : ∀ next ∈ tree.visits place parts, ¬tree.HoldsSettings next)
    (ho : ∀ next ∈ other.visits place parts, ¬other.HoldsSettings next) :
    other.follow place parts = tree.follow place parts := by
  -- The two ways are the same so far, so the place is looked up in both trees.
  induction parts generalizing place with
  | nil =>
    rw [follow_nil, follow_nil, h.content_eq (ht _ (mem_visits ..)) (ho _ (mem_visits ..))]
  | cons part parts ih =>
    have hc := h.content_eq (ht _ (mem_visits ..)) (ho _ (mem_visits ..))
    rw [follow_cons, follow_cons, hc]
    rw [visits] at ht
    rw [visits, hc] at ho
    cases hp : tree.content? place with
    | none => rfl
    | some content =>
      cases content with
      | file bytes => rfl
      | closed cause => rfl
      | directory =>
        simp only [hp] at ht ho
        dsimp only
        rw [ih (fun next hn => ht next (List.mem_cons_of_mem _ hn))
          (fun next hn => ho next (List.mem_cons_of_mem _ hn))]

/-- Settings files that are not met on the way do not change what a path leads to. -/
theorem SameButSettings.files_eq (h : tree.SameButSettings other) {here : Place} {path : Path}
    (ht : tree.Avoids here path) (ho : other.Avoids here path) :
    other.files here path = tree.files here path := by
  have hf := h.follow_eq ht ho
  unfold files locate
  rw [hf]

/-- A new settings file in the root changes nothing else. -/
theorem same_but_settings_file {item : Item} (hi : item.content ≠ .directory)
    (h : tree.find? Settings.fileName = none)
    (ho : ∀ name, other.find? name =
      if Settings.fileName = name then some item else tree.find? name) :
    tree.SameButSettings other := by
  intro place
  cases place with
  | nil => exact .inl rfl
  | cons name names =>
    by_cases hn : Settings.fileName = name
    · subst hn
      cases names with
      | nil =>
        refine .inr ⟨rfl, ?_, ?_⟩
        · simp [content?, item?, h]
        · cases item with
          | file bytes => simp [content?, item?, ho, Item.content]
          | closed cause => simp [content?, item?, ho, Item.content]
          | directory inside => exact absurd rfl hi
      | cons next names =>
        left
        cases item with
        | file bytes => simp [content?, item?, ho, h]
        | closed cause => simp [content?, item?, ho, h]
        | directory inside => exact absurd rfl hi
    · exact .inl (by simp [content?, item?, ho, hn])

end LetterToSound.FileTree
