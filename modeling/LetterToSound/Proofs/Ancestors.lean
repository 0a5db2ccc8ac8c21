import LetterToSound.Files.Path
import LetterToSound.Proofs.TextLines
import Mathlib.Data.List.Infix
import Mathlib.Data.List.Nodup

namespace LetterToSound.Path

/-- The components of what is joined to a path. -/
def steps (path : Path) : List Text := (List.splitOn '/' path).filter isStep

theorem absolute_cases {path : Path} (h : path.isAbsolute = true) : ∃ body, path = '/' :: body := by
  unfold isAbsolute at h
  exact List.head?_eq_some_iff.mp (by simpa using h)

theorem components_absolute (body : Path) : components ('/' :: body) = ['/'] :: steps body := rfl

theorem steps_append (front back : Path) :
    steps (front ++ '/' :: back) = steps front ++ steps back := by
  simp only [steps, List.splitOn_append_cons_self, List.filter_append]

theorem steps_nil : steps [] = [] := rfl

theorem absolute_join {base : Path} (h : base.isAbsolute = true) (path : Path) :
    (base.join path).isAbsolute = true := by
  obtain ⟨body, rfl⟩ := absolute_cases h
  unfold join
  split
  · assumption
  · split <;> rfl

theorem steps_intercalate {parts : List Text} (h : ∀ part ∈ parts, '/' ∉ part) :
    steps (['/'].intercalate parts) = parts.filter isStep := by
  by_cases hn : parts = []
  · subst hn
    rfl
  · rw [steps, List.splitOn_intercalate '/' h hn]

theorem intercalate_cons (part : Text) (parts : List Text) :
    ∃ rest, ['/'].intercalate (part :: parts) = part ++ rest ∧
      (rest = [] ∨ ∃ body, rest = '/' :: body) := by
  cases parts with
  | nil => exact ⟨[], by rw [List.intercalate_singleton, List.append_nil], .inl rfl⟩
  | cons next parts =>
    refine ⟨'/' :: ['/'].intercalate (next :: parts), ?_, .inr ⟨_, rfl⟩⟩
    rw [List.intercalate_cons_cons, List.append_assoc, List.singleton_append]

/-- What begins with a step starts neither at the root nor at a dot. -/
theorem anchor_of_step {part : Text} (hs : isStep part = true) (hn : '/' ∉ part) (rest : Text) :
    anchor (part ++ rest) = ([], part ++ rest) := by
  match part with
  | [] => cases hs
  | [c] =>
    have hd : c ≠ '.' := by simpa [isStep] using hs
    have hc : c ≠ '/' := by simpa [eq_comm] using hn
    unfold anchor
    split <;> simp_all
  | c :: d :: part =>
    have hc : c ≠ '/' ∧ d ≠ '/' := by grind
    unfold anchor
    split <;> simp_all

/-- A path starts at the root, at a dot that is its first part, or with its first step. -/
theorem anchor_cases (path : Path) :
    (∃ body, path = '/' :: body) ∨ path = ['.'] ∨ (∃ body, path = '.' :: '/' :: body) ∨
      path = [] ∨ ∃ part rest, path = part ++ rest ∧ isStep part = true ∧ '/' ∉ part ∧
        ∃ parts, List.splitOn '/' path = part :: parts := by
  obtain ⟨part, parts, hs⟩ := List.exists_cons_of_ne_nil (List.splitOn_ne_nil '/' path)
  have hn : '/' ∉ part := split_not_mem (hs ▸ List.mem_cons_self)
  have hi : ['/'].intercalate (part :: parts) = path := hs ▸ List.intercalate_splitOn '/'
  obtain ⟨rest, hr, hb⟩ := intercalate_cons part parts
  rw [hr] at hi
  by_cases hp : isStep part
  · exact .inr (.inr (.inr (.inr ⟨part, rest, hi.symm, hp, hn, parts, hs⟩)))
  · have he : part = [] ∨ part = ['.'] := by simpa [isStep, or_iff_not_imp_left] using hp
    subst hi
    rcases he with rfl | rfl <;> rcases hb with rfl | ⟨body, rfl⟩
    · exact .inr (.inr (.inr (.inl rfl)))
    · exact .inl ⟨body, rfl⟩
    · exact .inr (.inl rfl)
    · exact .inr (.inr (.inl ⟨body, rfl⟩))

theorem anchor_eq_root_iff (path : Path) : path.anchor.1 = ['/'] ↔ path.isAbsolute = true := by
  rcases anchor_cases path with ⟨_, rfl⟩ | rfl | ⟨_, rfl⟩ | rfl | ⟨part, rest, rfl, hp, hn, _⟩
  · exact ⟨fun _ => rfl, fun _ => rfl⟩
  · decide
  · simp [anchor, isAbsolute]
  · decide
  · rw [anchor_of_step hp hn]
    cases part with
    | nil => cases hp
    | cons c part => simpa [isAbsolute, eq_comm] using List.ne_of_not_mem_cons hn

/-- The components of a path before its steps: where it starts. -/
def origin (path : Path) : List Text := if path.anchor.1 = [] then [] else [path.anchor.1]

theorem components_eq (path : Path) : path.components = path.origin ++ path.steps := by
  rcases anchor_cases path with ⟨_, rfl⟩ | rfl | ⟨_, rfl⟩ | rfl | ⟨part, rest, rfl, hp, hn, _⟩
  · rfl
  · rfl
  · rfl
  · rfl
  · rw [components, origin, anchor_of_step hp hn]
    rfl

theorem split_slash (body : Path) : List.splitOn '/' ('/' :: body) = [] :: List.splitOn '/' body :=
  List.splitOn_append_cons_self [] body

theorem anchor_front {path : Path} {front : List Text}
    (h : front <+: List.splitOn '/' path.anchor.2) :
    anchor (path.anchor.1 ++ ['/'].intercalate front) =
      (path.anchor.1, ['/'].intercalate front) := by
  have hn {front : List Text} (h : front <+: [[]]) : front = [] ∨ front = [[]] := by
    rcases List.prefix_cons_iff.mp h with rfl | ⟨more, rfl, hm⟩
    · exact .inl rfl
    · exact .inr (by rw [List.prefix_nil.mp hm])
  rcases anchor_cases path with
    ⟨_, rfl⟩ | rfl | ⟨body, rfl⟩ | rfl | ⟨part, rest, he, hp, hslash, parts, hs⟩
  · rfl
  · rcases hn h with rfl | rfl <;> rfl
  · cases front with
    | nil => rfl
    | cons first front =>
      obtain ⟨rfl, _⟩ := List.cons_prefix_cons.mp (split_slash body ▸ h)
      obtain ⟨rest, hr, rfl | ⟨body, rfl⟩⟩ := intercalate_cons [] front <;> rw [hr] <;> rfl
  · rcases hn h with rfl | rfl <;> rfl
  · have ha : path.anchor = ([], path) := he ▸ anchor_of_step hp hslash rest
    rw [ha] at h ⊢
    cases front with
    | nil => rfl
    | cons first front =>
      obtain ⟨rfl, _⟩ := List.cons_prefix_cons.mp (hs ▸ h)
      obtain ⟨rest, hr, _⟩ := intercalate_cons first front
      rw [hr]
      exact anchor_of_step hp hslash rest

theorem components_front {path : Path} {front : List Text}
    (h : front <+: List.splitOn '/' path.anchor.2) :
    components (path.anchor.1 ++ ['/'].intercalate front) = path.origin ++ front.filter isStep := by
  have hf : ∀ part ∈ front, '/' ∉ part := fun part hp => split_not_mem (h.subset hp)
  rw [components, anchor_front h, origin]
  exact congrArg _ (steps_intercalate hf)

theorem join_relative {path : Path} (h : path.isAbsolute = false) (base : Path) :
    base.join path = if base = [] ∨ base.getLast? = some '/' then base ++ path
      else base ++ '/' :: path := by
  rw [join, h]
  rfl

theorem steps_join {path : Path} (h : path.isAbsolute = false) (base : Path) :
    (base.join path).steps = base.steps ++ path.steps := by
  rw [join_relative h]
  split
  · rename_i hb
    rcases hb with rfl | hb
    · rfl
    · obtain ⟨front, rfl⟩ := List.getLast?_eq_some_iff.mp hb
      rw [List.append_assoc, List.singleton_append, steps_append, steps_append, steps_nil,
        List.append_nil]
  · exact steps_append base path

/-- What is joined to a path starts where the path does. Only a dot that is joined to nothing
becomes the start. -/
theorem anchor_join {base path : Path} (h : path.isAbsolute = false)
    (hd : base ≠ [] ∨ path.anchor.1 = []) : (base.join path).anchor.1 = base.anchor.1 := by
  rw [join_relative h]
  rcases anchor_cases base with ⟨_, rfl⟩ | rfl | ⟨_, rfl⟩ | rfl | ⟨part, rest, rfl, hp, hn, _⟩
  · split <;> rfl
  · rfl
  · split <;> rfl
  · exact hd.resolve_left fun hb => hb rfl
  · split <;> rw [List.append_assoc, anchor_of_step hp hn, anchor_of_step hp hn]

theorem components_join {base path : Path} (h : path.isAbsolute = false)
    (hd : base ≠ [] ∨ path.anchor.1 = []) :
    (base.join path).components = base.components ++ path.steps := by
  rw [components_eq, components_eq, origin, origin, anchor_join h hd, steps_join h,
    List.append_assoc]

/-- Parts that lead nowhere are no components, so they can be left out at the end. -/
theorem filter_drop_no_steps (parts : List Text) :
    (parts.dropWhile (!isStep ·)).filter isStep = parts.filter isStep := by
  induction parts with
  | nil => rfl
  | cons part parts ih => by_cases h : isStep part <;> simp [h, ih]

theorem map_tails {α β : Type} (f : List α → β) (kept : List α) :
    kept.tails.map f = f kept :: kept.tails.tail.map f := by
  cases kept <;> rfl

theorem components_parents_from {start : Text} {parts first : List Text}
    (h : ∀ front, front <:+ parts → components (start ++ ['/'].intercalate front.reverse) =
      first ++ (front.filter isStep).reverse) :
    (parentsFrom start parts).map components =
      ((parts.filter isStep).tails.tail.map fun kept => first ++ kept.reverse) ++
        if start = ['.'] then [[]] else [] := by
  induction parts with
  | nil =>
    rw [parentsFrom]
    split <;> rfl
  | cons part parts ih =>
    have hr : ∀ front, front <:+ parts → components (start ++ ['/'].intercalate front.reverse) =
        first ++ (front.filter isStep).reverse :=
      fun front hf => h front (hf.trans (List.suffix_cons part parts))
    by_cases hs : isStep part
    · have hc := hr _ (List.dropWhile_suffix (!isStep ·))
      rw [filter_drop_no_steps] at hc
      rw [parentsFrom, if_pos hs, List.map_cons, hc, ih hr, List.filter_cons_of_pos hs,
        List.tails_cons, List.tail_cons, map_tails, List.cons_append]
    · rw [parentsFrom, if_neg hs, ih hr, List.filter_cons_of_neg hs]

theorem parents_eq (path : Path) :
    path.parents = parentsFrom path.anchor.1 (List.splitOn '/' path.anchor.2).reverse := rfl

theorem filter_split (path : Path) :
    (List.splitOn '/' path.anchor.2).filter isStep = path.steps :=
  List.append_cancel_left (components_eq path)

/-- Going up takes one step after the other from the end of a path. A dot that it starts at counts
as one more. -/
theorem map_components_upwards (path : Path) :
    (path :: path.parents).map components =
      (path.steps.inits.map (path.origin ++ ·)).reverse ++
        if path.anchor.1 = ['.'] then [[]] else [] := by
  have hc : path.parents.map components =
      (path.steps.reverse.tails.tail.map fun kept => path.origin ++ kept.reverse) ++
        if path.anchor.1 = ['.'] then [[]] else [] := by
    rw [parents_eq, ← filter_split, ← List.filter_reverse]
    apply components_parents_from
    intro front hf
    rw [components_front (List.reverse_suffix.mp (by rwa [List.reverse_reverse])),
      List.filter_reverse]
  calc (path :: path.parents).map components
    _ = path.components :: path.parents.map components := rfl
    _ = (path.steps.reverse.tails.map fun kept => path.origin ++ kept.reverse) ++
          if path.anchor.1 = ['.'] then [[]] else [] := by
      rw [hc, map_tails, List.reverse_reverse, ← components_eq, List.cons_append]
    _ = _ := by
      rw [List.tails_reverse, List.map_reverse, List.map_map]
      simp [Function.comp_def]

/-- A path and the directories above it have the initial parts of its components, the longest
first. Only for an absolute path the way up ends at its first component. -/
theorem components_upwards (path : Path) :
    (path :: path.parents).map components =
      if path.isAbsolute then path.components.inits.tail.reverse
      else path.components.inits.reverse := by
  rw [map_components_upwards, components_eq]
  rcases anchor_cases path with ⟨_, rfl⟩ | rfl | ⟨_, rfl⟩ | rfl | ⟨part, rest, rfl, hp, hn, _⟩
  · simp [origin, anchor, isAbsolute]
  · rfl
  · simp [origin, anchor, isAbsolute]
  · rfl
  · have ha : (part ++ rest).isAbsolute = false := by
      rw [← Bool.not_eq_true, ← anchor_eq_root_iff, anchor_of_step hp hn]
      exact List.cons_ne_nil _ _ ∘ Eq.symm
    simp [origin, anchor_of_step hp hn, ha]

theorem components_parents {path : Path} (h : path.isAbsolute = true) :
    (path :: path.parents).map components = path.components.inits.tail.reverse := by
  rw [components_upwards, if_pos h]

theorem mem_parents_from {start : Text} {parts : List Text} {directory : Path}
    (h : directory ∈ parentsFrom start parts) :
    (∃ front, front <:+ parts ∧ directory = start ++ ['/'].intercalate front.reverse) ∨
      start = ['.'] ∧ directory = [] := by
  induction parts with
  | nil =>
    rw [parentsFrom] at h
    split at h
    · rename_i hs
      exact .inr ⟨hs, List.mem_singleton.mp h⟩
    · cases h
  | cons part parts ih =>
    have hr (hp : directory ∈ parentsFrom start parts) :
        (∃ front, front <:+ part :: parts ∧
            directory = start ++ ['/'].intercalate front.reverse) ∨
          start = ['.'] ∧ directory = [] :=
      (ih hp).imp_left fun ⟨front, hf, hd⟩ => ⟨front, hf.trans (List.suffix_cons part parts), hd⟩
    rw [parentsFrom] at h
    split at h
    · rcases List.mem_cons.mp h with rfl | h
      · exact .inl ⟨_, (List.dropWhile_suffix _).trans (List.suffix_cons part parts), rfl⟩
      · exact hr h
    · exact hr h

/-- A directory on the way up starts like the path and has its first steps. Only the way up from a
dot ends with the empty path, which starts anew where the dot is. -/
theorem mem_upwards {path directory : Path} (h : directory ∈ path :: path.parents) :
    directory.anchor.1 = path.anchor.1 ∧ directory.steps <+: path.steps ∨
      path.anchor.1 = ['.'] ∧ directory = [] := by
  rcases List.mem_cons.mp h with rfl | h
  · exact .inl ⟨rfl, List.prefix_rfl⟩
  · rw [parents_eq] at h
    apply (mem_parents_from h).imp_left
    rintro ⟨front, hf, rfl⟩
    have hp : front.reverse <+: List.splitOn '/' path.anchor.2 :=
      List.reverse_suffix.mp (by rwa [List.reverse_reverse])
    have ha := congrArg Prod.fst (anchor_front hp)
    have hs := components_front hp
    rw [components_eq, origin, ha] at hs
    rw [List.append_cancel_left hs]
    exact ⟨ha, filter_split path ▸ hp.filter isStep⟩

theorem absolute_parents {path directory : Path} (h : path.isAbsolute = true)
    (hd : directory ∈ path :: path.parents) : directory.isAbsolute = true := by
  have hr := (anchor_eq_root_iff path).mpr h
  rcases mem_upwards hd with ⟨ha, _⟩ | ⟨ha, _⟩
  · exact (anchor_eq_root_iff directory).mp (ha.trans hr)
  · rw [hr] at ha
    cases ha

/-- Without its last component an absolute path is the directory that it stands in. -/
theorem components_parent {path : Path} (h : path.isAbsolute = true) {front : List Text}
    {last : Text} (hc : path.components = ['/'] :: front ++ [last]) :
    ∃ directory, path.parent? = some directory ∧ directory.isAbsolute = true ∧
      directory.components = ['/'] :: front := by
  have hp := components_parents h
  rw [List.map_cons, hc] at hp
  have hi : (['/'] :: front ++ [last]).inits.tail.reverse =
      (['/'] :: front ++ [last]) :: (['/'] :: front).inits.tail.reverse := by
    simp [List.inits_append]
  have hf : (['/'] :: front).inits.tail.reverse.head? = some (['/'] :: front) := by
    rw [List.inits_cons, List.tail_cons, List.inits_eq_tails, ← List.map_reverse,
      List.reverse_reverse, map_tails]
    simp
  rw [hi] at hp
  rw [← (List.cons.inj hp).2, List.head?_map, Option.map_eq_some_iff] at hf
  obtain ⟨directory, hd, he⟩ := hf
  exact ⟨directory, hd, absolute_parents h (List.mem_cons_of_mem _ (List.mem_of_mem_head? hd)), he⟩

theorem nodup_inits (parts : List Text) : parts.inits.Nodup := by
  induction parts with
  | nil => exact List.nodup_singleton _
  | cons part parts ih =>
    rw [List.inits_cons, List.nodup_cons]
    refine ⟨?_, ih.map fun _ _ he => (List.cons.inj he).2⟩
    simp

/-- No directory is spelled twice among those above a path. -/
theorem nodup_parents (path : Path) : ((path :: path.parents).map components).Nodup := by
  rw [components_upwards]
  split
  · exact List.nodup_reverse.mpr (nodup_inits _).tail
  · exact List.nodup_reverse.mpr (nodup_inits _)

end LetterToSound.Path
