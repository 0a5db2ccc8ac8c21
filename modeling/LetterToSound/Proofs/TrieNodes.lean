import LetterToSound.Trie.Basic

namespace LetterToSound

/-- The output of a node after one more has been stored there. -/
def Output.replacing (new : Output) : Option Output → Output
  | some old => if new.covered < old.covered then old else new
  | none => new

@[simp] theorem Node.store_number (node : Node) (new : Output) :
    (node.store new).number = node.number := by
  unfold Node.store
  split
  · split <;> rfl
  · rfl

@[simp] theorem Node.store_output (node : Node) (new : Output) :
    (node.store new).output = some (new.replacing node.output) := by
  obtain ⟨number, output⟩ := node
  cases output with
  | none => rfl
  | some old =>
    simp only [Node.store, Output.replacing]
    split <;> rfl

namespace Trie

/-- A new node with a new path below it. -/
def ofPath (fresh : Nat) (output : Output) : List Step → Trie
  | [] => ⟨⟨fresh, some output⟩, .none⟩
  | step :: path => ⟨⟨fresh, none⟩, .ofPath (fresh + 1) output step path⟩

/-- Insertion at a path that may end where it starts. -/
def insert (trie : Trie) (fresh : Nat) (output : Output) : List Step → Trie
  | [] => { trie with node := trie.node.store output }
  | step :: path => { trie with branches := trie.branches.insert fresh output step path }

def missing (trie : Trie) : List Step → Nat
  | [] => 0
  | step :: path => trie.branches.missing step path

/-- The number of the node at the end of a path. -/
def number? (trie : Trie) (path : List Step) : Option Nat := (trie.walk? path).map (·.node.number)

/-- What is stored at the end of a path, which need not exist. -/
def output? (trie : Trie) (path : List Step) : Option Output :=
  (trie.walk? path).bind (·.node.output)

@[simp] theorem walk_nil (trie : Trie) : trie.walk? [] = some trie := rfl

theorem walk_cons (trie : Trie) (step : Step) (path : List Step) :
    trie.walk? (step :: path) = (trie.child? step).bind (·.walk? path) := rfl

theorem walk_append (trie : Trie) (p q : List Step) :
    trie.walk? (p ++ q) = (trie.walk? p).bind (·.walk? q) := by
  induction p generalizing trie with
  | nil => rfl
  | cons step p ih =>
    rw [List.cons_append, walk_cons, walk_cons]
    cases trie.child? step with
    | none => rfl
    | some below => exact ih below

@[simp] theorem number_nil (trie : Trie) : trie.number? [] = some trie.node.number := rfl

@[simp] theorem output_nil (trie : Trie) : trie.output? [] = trie.node.output := rfl

theorem number_cons (trie : Trie) (step : Step) (path : List Step) :
    trie.number? (step :: path) = (trie.child? step).bind (·.number? path) := by
  unfold number?
  rw [walk_cons]
  cases trie.child? step <;> rfl

theorem output_cons (trie : Trie) (step : Step) (path : List Step) :
    trie.output? (step :: path) = (trie.child? step).bind (·.output? path) := by
  unfold output?
  rw [walk_cons]
  cases trie.child? step <;> rfl

end Trie

namespace Branches

theorem find_of_path (fresh : Nat) (output : Output) (step other : Step) (path : List Step) :
    (ofPath fresh output step path).find? other =
      if other = step then some (.ofPath fresh output path) else .none := by
  cases path with
  | nil => simp [ofPath, find?, Trie.ofPath, eq_comm]
  | cons next path => simp [ofPath, find?, Trie.ofPath, eq_comm]

/-- Insertion changes one child, which it makes if it is missing. -/
theorem find_insert (branches : Branches) (fresh : Nat) (output : Output) (step other : Step)
    (path : List Step) :
    (branches.insert fresh output step path).find? other =
      if other = step then
        some (match branches.find? step with
          | .none => .ofPath fresh output path
          | some child => child.insert fresh output path)
      else branches.find? other := by
  induction branches with
  | none => simp [insert, find?, find_of_path]
  | branch first node below rest _ ih =>
    by_cases hf : first = step
    · subst first
      cases path with
      | nil => by_cases ho : other = step <;> simp [insert, find?, Trie.insert, ho, Ne.symm]
      | cons next path =>
        by_cases ho : other = step <;> simp [insert, find?, Trie.insert, ho, Ne.symm]
    · by_cases ho : first = other
      · have hne : other ≠ step := ho ▸ hf
        simp [insert, find?, ho, hne]
      · simp [insert, find?, hf, ho, ih]

theorem missing_eq (branches : Branches) (step : Step) (path : List Step) :
    branches.missing step path =
      match branches.find? step with
      | .none => path.length + 1
      | some child => child.missing path := by
  induction branches with
  | none => rfl
  | branch first node below rest _ ih =>
    by_cases hf : first = step
    · cases path <;> simp [missing, find?, Trie.missing, hf]
    · simp [missing, find?, hf, ih]

theorem length_tries_of_path (fresh : Nat) (output : Output) (step : Step) (path : List Step) :
    (ofPath fresh output step path).tries.length = path.length + 1 := by
  induction path generalizing fresh step with
  | nil => rfl
  | cons next path ih => simp [ofPath, tries, ih]

/-- Insertion makes exactly the nodes that are missing. -/
theorem length_tries_insert (branches : Branches) (fresh : Nat) (output : Output) (step : Step)
    (path : List Step) :
    (branches.insert fresh output step path).tries.length =
      branches.tries.length + branches.missing step path := by
  induction branches generalizing step path with
  | none => simp [insert, missing, tries, length_tries_of_path]
  | branch first node below rest below_ih rest_ih =>
    by_cases hf : first = step
    · cases path with
      | nil => simp [insert, missing, tries, hf]
      | cons next path =>
        simp only [insert, missing, tries, hf, if_true, List.length_cons, List.length_append, below_ih]
        omega
    · simp only [insert, missing, tries, hf, if_false, List.length_cons, List.length_append, rest_ih]
      omega

/-- No step leaves a node twice. -/
def Distinct : Branches → Prop
  | none => True
  | branch step _ below rest => rest.find? step = .none ∧ below.Distinct ∧ rest.Distinct

theorem distinct_of_path (fresh : Nat) (output : Output) (step : Step) (path : List Step) :
    (ofPath fresh output step path).Distinct := by
  induction path generalizing fresh step with
  | nil => simp [ofPath, Distinct, find?]
  | cons next path ih => simp [ofPath, Distinct, find?, ih]

theorem Distinct.insert {branches : Branches} (h : branches.Distinct) (fresh : Nat)
    (output : Output) (step : Step) (path : List Step) :
    (branches.insert fresh output step path).Distinct := by
  induction branches generalizing step path with
  | none => exact distinct_of_path fresh output step path
  | branch first node below rest below_ih rest_ih =>
    obtain ⟨hn, hb, hr⟩ := h
    by_cases hf : first = step
    · cases path with
      | nil => simpa [Branches.insert, hf, Distinct] using ⟨hf ▸ hn, hb, hr⟩
      | cons next path =>
        simpa [Branches.insert, hf, Distinct] using ⟨hf ▸ hn, below_ih hb next path, hr⟩
    · simpa [Branches.insert, hf, Distinct, find_insert] using ⟨hn, hb, rest_ih hr step path⟩

theorem Distinct.find {branches : Branches} (h : branches.Distinct) {step : Step} {child : Trie}
    (hc : branches.find? step = some child) : child.branches.Distinct := by
  induction branches with
  | none => cases hc
  | branch first node below rest _ ih =>
    simp only [find?] at hc
    split at hc
    · cases hc
      exact h.2.1
    · exact ih h.2.2 hc

theorem mem_steps {branches : Branches} (h : branches.Distinct) {step : Step} {node : Node} :
    (step, node) ∈ branches.steps ↔ ∃ below, branches.find? step = some ⟨node, below⟩ := by
  induction branches with
  | none => simp [steps, find?]
  | branch first other below rest _ ih =>
    obtain ⟨hn, _, hr⟩ := h
    simp only [steps, find?, List.mem_cons, Prod.mk.injEq, ih hr]
    by_cases hf : first = step
    · subst first
      simp [hn, eq_comm]
    · simp [hf, Ne.symm hf]

/-- Every trie below a node stands at the end of some path, and nothing else does. -/
theorem mem_tries {branches : Branches} (h : branches.Distinct) {trie : Trie} :
    trie ∈ branches.tries ↔
      ∃ step path child, branches.find? step = some child ∧ child.walk? path = some trie := by
  induction branches with
  | none => simp [tries, find?]
  | branch first node below rest below_ih rest_ih =>
    obtain ⟨hn, hb, hr⟩ := h
    simp only [tries, List.mem_cons, List.mem_append, below_ih hb, rest_ih hr]
    constructor
    · intro hg
      rcases hg with rfl | ⟨step, path, child, hc, hw⟩ | ⟨step, path, child, hc, hw⟩
      · exact ⟨first, [], ⟨node, below⟩, by simp [find?], rfl⟩
      · exact ⟨first, step :: path, ⟨node, below⟩, by simp [find?], by
          rw [Trie.walk_cons, Trie.child?, hc]; exact hw⟩
      · have hne : first ≠ step := by
          rintro rfl
          simp [hn] at hc
        exact ⟨step, path, child, by simp [find?, hne, hc], hw⟩
    · intro hg
      obtain ⟨step, path, child, hc, hw⟩ := hg
      by_cases hf : first = step
      · simp only [find?, hf, if_true, Option.some.injEq] at hc
        subst child
        cases path with
        | nil => exact .inl (Option.some.inj hw).symm
        | cons next path =>
          obtain ⟨child, hc, hw⟩ := Option.bind_eq_some_iff.mp hw
          exact .inr (.inl ⟨next, path, child, hc, hw⟩)
      · simp only [find?, hf, if_false] at hc
        exact .inr (.inr ⟨step, path, child, hc, hw⟩)

theorem has_output_iff (branches : Branches) :
    branches.hasOutput = true ↔ ∃ trie ∈ branches.tries, trie.node.output.isSome = true := by
  induction branches with
  | none => simp [hasOutput, tries]
  | branch step node below rest below_ih rest_ih =>
    simp only [hasOutput, tries, Bool.or_eq_true, below_ih, rest_ih, List.mem_cons, List.mem_append,
      or_and_right, exists_or, exists_eq_left, or_assoc]

end Branches

namespace Trie

theorem child_of_path (fresh : Nat) (output : Output) (step other : Step) (path : List Step) :
    (ofPath fresh output (step :: path)).child? other =
      if other = step then some (ofPath (fresh + 1) output path) else none :=
  Branches.find_of_path (fresh + 1) output step other path

theorem child_insert (trie : Trie) (fresh : Nat) (output : Output) (step other : Step)
    (path : List Step) :
    (trie.insert fresh output (step :: path)).child? other =
      if other = step then
        some (match trie.child? step with
          | none => ofPath fresh output path
          | some child => child.insert fresh output path)
      else trie.child? other :=
  Branches.find_insert trie.branches fresh output step other path

theorem missing_cons (trie : Trie) (step : Step) (path : List Step) :
    trie.missing (step :: path) =
      match trie.child? step with
      | none => path.length + 1
      | some child => child.missing path :=
  Branches.missing_eq trie.branches step path

theorem output_of_path (fresh : Nat) (output : Output) (path q : List Step) :
    (ofPath fresh output path).output? q = if q = path then some output else none := by
  induction path generalizing fresh q with
  | nil => cases q <;> rfl
  | cons step path ih =>
    cases q with
    | nil => rfl
    | cons other q =>
      rw [output_cons, child_of_path]
      by_cases ho : other = step <;> simp [ho, ih]

theorem number_of_path (fresh : Nat) (output : Output) (path q : List Step) :
    (ofPath fresh output path).number? q = if q <+: path then some (fresh + q.length) else none := by
  induction path generalizing fresh q with
  | nil =>
    cases q with
    | nil => rfl
    | cons other q => simp [number_cons, child?, ofPath, Branches.find?]
  | cons step path ih =>
    cases q with
    | nil => simp [ofPath]
    | cons other q =>
      rw [number_cons, child_of_path]
      by_cases ho : other = step
      · simp [ho, ih, Nat.add_assoc, Nat.add_comm 1]
      · simp [ho]

/-- Insertion stores at the end of its path and nowhere else. -/
theorem output_insert (trie : Trie) (fresh : Nat) (output : Output) (path q : List Step) :
    (trie.insert fresh output path).output? q =
      if q = path then some (output.replacing (trie.output? path)) else trie.output? q := by
  induction path generalizing trie q with
  | nil =>
    cases q with
    | nil => simp [insert]
    | cons other q => rfl
  | cons step path ih =>
    cases q with
    | nil => rfl
    | cons other q =>
      rw [output_cons, child_insert, output_cons trie step, output_cons trie other]
      by_cases ho : other = step
      · subst other
        cases hc : trie.child? step with
        | none => by_cases hq : q = path <;> simp [output_of_path, hq, Output.replacing]
        | some child => by_cases hq : q = path <;> simp [ih, hq]
      · simp [ho]

theorem missing_le (trie : Trie) (path : List Step) : trie.missing path ≤ path.length := by
  induction path generalizing trie with
  | nil => exact Nat.le_refl 0
  | cons step path ih =>
    rw [missing_cons]
    cases trie.child? step with
    | none => exact Nat.le_refl _
    | some child => exact Nat.le_succ_of_le (ih child)

/-- The missing nodes of a path are its last ones. -/
theorem number_is_some_iff (trie : Trie) {path q : List Step} (hq : q <+: path) :
    (trie.number? q).isSome = true ↔ q.length + trie.missing path ≤ path.length := by
  induction path generalizing trie q with
  | nil =>
    obtain rfl := List.prefix_nil.mp hq
    simp [missing]
  | cons step path ih =>
    cases q with
    | nil => simpa using trie.missing_le (step :: path)
    | cons other q =>
      obtain ⟨rfl, hp⟩ := List.cons_prefix_cons.mp hq
      rw [number_cons, missing_cons]
      cases hc : trie.child? other with
      | none => simp
      | some child =>
        simp only [Option.bind_some, List.length_cons, ih child hp]
        omega

/-- Nodes keep their numbers. The new ones are numbered in the order of the path. -/
theorem number_insert (trie : Trie) (fresh : Nat) (output : Output) (path q : List Step) :
    (trie.insert fresh output path).number? q =
      (trie.number? q <|> if q <+: path then
        some (fresh + (q.length + trie.missing path - path.length - 1)) else none) := by
  induction path generalizing trie q with
  | nil =>
    cases q with
    | nil => simp [insert]
    | cons other q => simp [number_cons, insert, child?]
  | cons step path ih =>
    cases q with
    | nil => simp [insert]
    | cons other q =>
      rw [number_cons, child_insert, number_cons trie other, missing_cons]
      by_cases ho : other = step
      · subst other
        cases hc : trie.child? step with
        | none => simp [number_of_path]
        | some child =>
          have hl : q.length + 1 + child.missing path - (path.length + 1) - 1 =
              q.length + child.missing path - path.length - 1 := by omega
          simp [ih, hl]
      · simp [ho]

theorem length_tries_insert (trie : Trie) (fresh : Nat) (output : Output) (path : List Step) :
    (trie.insert fresh output path).tries.length = trie.tries.length + trie.missing path := by
  cases path with
  | nil => rfl
  | cons step path =>
    simp only [insert, tries, missing, List.length_cons, Branches.length_tries_insert]
    omega

theorem distinct_insert {trie : Trie} (h : trie.branches.Distinct) (fresh : Nat) (output : Output)
    (path : List Step) : (trie.insert fresh output path).branches.Distinct := by
  cases path with
  | nil => exact h
  | cons step path => exact h.insert fresh output step path

theorem distinct_walk {trie below : Trie} (h : trie.branches.Distinct) {path : List Step}
    (hw : trie.walk? path = some below) : below.branches.Distinct := by
  induction path generalizing trie with
  | nil =>
    cases hw
    exact h
  | cons step path ih =>
    obtain ⟨child, hc, hw⟩ := Option.bind_eq_some_iff.mp hw
    exact ih (h.find hc) hw

theorem mem_tries {trie : Trie} (h : trie.branches.Distinct) {below : Trie} :
    below ∈ trie.tries ↔ ∃ path, trie.walk? path = some below := by
  simp only [tries, List.mem_cons, Branches.mem_tries h]
  constructor
  · intro hg
    rcases hg with rfl | ⟨step, path, child, hc, hw⟩
    · exact ⟨[], rfl⟩
    · exact ⟨step :: path, by rw [walk_cons, child?, hc]; exact hw⟩
  · intro hg
    obtain ⟨path, hw⟩ := hg
    cases path with
    | nil => exact .inl (Option.some.inj hw).symm
    | cons step path =>
      obtain ⟨child, hc, hw⟩ := Option.bind_eq_some_iff.mp hw
      exact .inr ⟨step, path, child, hc, hw⟩

theorem has_output_iff {trie : Trie} (h : trie.branches.Distinct) :
    trie.hasOutput = true ↔ ∃ path output, trie.output? path = some output := by
  have ht : trie.hasOutput = true ↔ ∃ below ∈ trie.tries, below.node.output.isSome = true := by
    simp only [hasOutput, tries, Bool.or_eq_true, Branches.has_output_iff, List.mem_cons,
      or_and_right, exists_or, exists_eq_left]
  rw [ht]
  constructor
  · intro hg
    obtain ⟨below, hm, ho⟩ := hg
    obtain ⟨path, hw⟩ := (mem_tries h).mp hm
    obtain ⟨output, ho⟩ := Option.isSome_iff_exists.mp ho
    exact ⟨path, output, by rw [output?, hw]; exact ho⟩
  · intro hg
    obtain ⟨path, output, ho⟩ := hg
    obtain ⟨below, hw, ho⟩ := Option.bind_eq_some_iff.mp ho
    exact ⟨below, (mem_tries h).mpr ⟨path, hw⟩, by rw [ho]; rfl⟩

/-- What leads to a node is there when the node is. -/
theorem number_of_prefix {trie : Trie} {q path : List Step} (hq : q <+: path)
    (h : (trie.number? path).isSome = true) : (trie.number? q).isSome = true := by
  obtain ⟨rest, rfl⟩ := hq
  simp only [number?, Option.isSome_map, walk_append] at h ⊢
  cases hw : trie.walk? q with
  | none => simp [hw] at h
  | some below => rfl

end Trie

end LetterToSound
