import LetterToSound.Proofs.TrieNodes
import LetterToSound.Trie.OfRules
import Mathlib.Data.List.Induction
import Mathlib.Data.List.Perm.Subperm

namespace LetterToSound

namespace RuleTrie

theorem insert_eq (trie : RuleTrie) (path : List Step) (output : Output) :
    trie.insert path output =
      ⟨trie.root.insert trie.size output path, trie.size + trie.root.missing path⟩ := by
  cases path <;> rfl

/-- The nodes are numbered from zero up to the size, without gaps, and each has one number and
one path. Numbers grow along every path. -/
structure Numbered (trie : RuleTrie) : Prop where
  distinct : trie.root.branches.Distinct
  counted : trie.root.tries.length = trie.size
  bounded : ∀ {q n}, trie.root.number? q = some n → n < trie.size
  onto : ∀ {n}, n < trie.size → ∃ q, trie.root.number? q = some n
  unique : ∀ {p q n}, trie.root.number? p = some n → trie.root.number? q = some n → p = q
  rising : ∀ {q step m n}, trie.root.number? q = some m →
    trie.root.number? (q ++ [step]) = some n → m < n

theorem numbered_empty : Numbered .empty := by
  have hz : ∀ {q n}, RuleTrie.empty.root.number? q = some n → q = [] ∧ n = 0 := by
    intro q n h
    cases q with
    | nil => exact ⟨rfl, (Option.some.inj h).symm⟩
    | cons step q => cases h
  refine ⟨trivial, rfl, ?_, ?_, ?_, ?_⟩
  · intro q n h
    rw [(hz h).2]
    exact Nat.zero_lt_one
  · intro n hn
    obtain rfl : n = 0 := by simpa [empty] using hn
    exact ⟨[], rfl⟩
  · intro p q n hp hq
    rw [(hz hp).1, (hz hq).1]
  · intro q step m n _ h
    exact absurd (hz h).1 (by simp)

/-- The nodes after an insertion: the old ones as they were, and the end of the new path. -/
theorem number_insert {trie : RuleTrie} {path q : List Step} {output : Output} {n : Nat} :
    (trie.insert path output).root.number? q = some n ↔
      trie.root.number? q = some n ∨ q <+: path ∧
        path.length < q.length + trie.root.missing path ∧
        n = trie.size + (q.length + trie.root.missing path - path.length - 1) := by
  rw [insert_eq, Trie.number_insert]
  by_cases hq : q <+: path
  · have hs := trie.root.number_is_some_iff hq
    cases hn : trie.root.number? q with
    | none =>
      simp only [hn, Option.isSome_none, Bool.false_eq_true, false_iff] at hs
      simp [hq, Nat.not_le.mp hs, eq_comm]
    | some m =>
      simp only [hn, Option.isSome_some, true_iff] at hs
      simp [Nat.not_lt.mpr hs]
  · simp [hq]

theorem size_insert (trie : RuleTrie) (path : List Step) (output : Output) :
    (trie.insert path output).size = trie.size + trie.root.missing path := by
  rw [insert_eq]

theorem Numbered.bounded_insert {trie : RuleTrie} (h : trie.Numbered) {path q : List Step}
    {output : Output} {n : Nat} (hn : (trie.insert path output).root.number? q = some n) :
    n < (trie.insert path output).size := by
  rw [size_insert]
  rcases number_insert.mp hn with hn | ⟨hq, hl, rfl⟩
  · have := h.bounded hn
    omega
  · have := hq.length_le
    omega

/-- The new numbers go to the last nodes of the path. -/
theorem Numbered.onto_insert {trie : RuleTrie} (h : trie.Numbered) {path : List Step}
    {output : Output} {n : Nat} (hn : n < (trie.insert path output).size) :
    ∃ q, (trie.insert path output).root.number? q = some n := by
  rw [size_insert] at hn
  have hm := trie.root.missing_le path
  rcases Nat.lt_or_ge n trie.size with ho | ho
  · obtain ⟨q, hq⟩ := h.onto ho
    exact ⟨q, number_insert.mpr (.inl hq)⟩
  · let held := path.length - trie.root.missing path
    have hl : (path.take (n - trie.size + 1 + held)).length = n - trie.size + 1 + held := by
      rw [List.length_take]
      omega
    refine ⟨path.take (n - trie.size + 1 + held), number_insert.mpr (.inr ⟨?_, ?_, ?_⟩)⟩
    · exact List.take_prefix _ path
    · omega
    · omega

theorem Numbered.unique_insert {trie : RuleTrie} (h : trie.Numbered) {path p q : List Step}
    {output : Output} {n : Nat} (hp : (trie.insert path output).root.number? p = some n)
    (hq : (trie.insert path output).root.number? q = some n) : p = q := by
  rcases number_insert.mp hp with hp | ⟨hp, hpl, hpn⟩ <;>
    rcases number_insert.mp hq with hq | ⟨hq, hql, hqn⟩
  · exact h.unique hp hq
  · have := h.bounded hp
    omega
  · have := h.bounded hq
    omega
  · have hl : p.length = q.length := by omega
    rw [List.prefix_iff_eq_take.mp hp, List.prefix_iff_eq_take.mp hq, hl]

/-- A new node stands below old ones, never above one. -/
theorem Numbered.rising_insert {trie : RuleTrie} (h : trie.Numbered) {path q : List Step}
    {step : Step} {output : Output} {m n : Nat}
    (hq : (trie.insert path output).root.number? q = some m)
    (hn : (trie.insert path output).root.number? (q ++ [step]) = some n) : m < n := by
  rcases number_insert.mp hq with hq | ⟨hq, hql, hqn⟩ <;>
    rcases number_insert.mp hn with hn | ⟨hn, hnl, hnn⟩
  · exact h.rising hq hn
  · have := h.bounded hq
    omega
  · have hp : (trie.root.number? q).isSome = true :=
      Trie.number_of_prefix (List.prefix_append q [step]) (by simp [hn])
    have := (trie.root.number_is_some_iff hq).mp hp
    omega
  · rw [List.length_append, List.length_singleton] at hnn
    omega

theorem Numbered.insert {trie : RuleTrie} (h : trie.Numbered) (path : List Step)
    (output : Output) : (trie.insert path output).Numbered := by
  refine
    { distinct := ?_
      counted := ?_
      bounded := h.bounded_insert
      onto := h.onto_insert
      unique := h.unique_insert
      rising := h.rising_insert }
  · rw [insert_eq]
    exact Trie.distinct_insert h.distinct trie.size output path
  · rw [insert_eq, Trie.length_tries_insert, h.counted]

/-- Each number below the size is the number of exactly one node. -/
theorem Numbered.numbers {trie : RuleTrie} (h : trie.Numbered) :
    (trie.root.tries.map (·.node.number)).Perm (List.range trie.size) := by
  have hs : List.range trie.size ⊆ trie.root.tries.map (·.node.number) := by
    intro n hn
    obtain ⟨q, hq⟩ := h.onto (List.mem_range.mp hn)
    obtain ⟨below, hw, rfl⟩ := Option.map_eq_some_iff.mp hq
    exact List.mem_map.mpr ⟨below, (Trie.mem_tries h.distinct).mpr ⟨q, hw⟩, rfl⟩
  have hl : (trie.root.tries.map (·.node.number)).length = (List.range trie.size).length := by
    rw [List.length_map, List.length_range, h.counted]
  exact ((List.subperm_of_subset List.nodup_range hs).perm_of_length_le (Nat.le_of_eq hl)).symm

theorem Numbered.edges {trie : RuleTrie} (h : trie.Numbered) {below : Trie}
    (hm : below ∈ trie.root.tries) {step : Step} {node : Node}
    (hs : (step, node) ∈ below.branches.steps) :
    below.node.number < node.number ∧
      ∃ child ∈ trie.root.tries, below.child? step = some child ∧ child.node = node := by
  obtain ⟨q, hw⟩ := (Trie.mem_tries h.distinct).mp hm
  obtain ⟨rest, hc⟩ := (Branches.mem_steps (Trie.distinct_walk h.distinct hw)).mp hs
  have hq : trie.root.walk? (q ++ [step]) = some ⟨node, rest⟩ := by
    rw [Trie.walk_append, hw]
    exact (Trie.walk_cons below step []).trans (congrArg (Option.bind · _) hc)
  have hm : trie.root.number? q = some below.node.number := by
    rw [Trie.number?, hw]
    rfl
  have hn : trie.root.number? (q ++ [step]) = some node.number := by
    rw [Trie.number?, hq]
    rfl
  exact ⟨h.rising hm hn, ⟨node, rest⟩, (Trie.mem_tries h.distinct).mpr ⟨q ++ [step], hq⟩, hc, rfl⟩

theorem numbered_of_entries (entries : List Entry) : Numbered (.ofEntries entries) := by
  unfold ofEntries
  induction entries using List.reverseRecOn with
  | nil => exact numbered_empty
  | append_singleton entries entry ih =>
    rw [List.foldl_append]
    exact ih.insert entry.path entry.output

theorem number_insert_is_some {trie : RuleTrie} {path q : List Step} {output : Output} :
    ((trie.insert path output).root.number? q).isSome = true ↔
      (trie.root.number? q).isSome = true ∨ q <+: path := by
  rw [insert_eq, Trie.number_insert]
  cases trie.root.number? q with
  | none => by_cases hq : q <+: path <;> simp [hq]
  | some n => simp

/-- The nodes of a trie are its root and what leads to the end of an entry. -/
theorem number_of_entries {entries : List Entry} {q : List Step} :
    ((ofEntries entries).root.number? q).isSome = true ↔
      q = [] ∨ ∃ entry ∈ entries, q <+: entry.path := by
  unfold ofEntries
  induction entries using List.reverseRecOn with
  | nil => cases q <;> simp [empty, Trie.number_cons, Trie.child?, Branches.find?]
  | append_singleton entries entry ih =>
    rw [List.foldl_append, List.foldl_cons, List.foldl_nil, number_insert_is_some, ih]
    simp only [List.mem_append, List.mem_singleton, or_and_right, exists_or, exists_eq_left, or_assoc]

end RuleTrie

end LetterToSound
