import LetterToSound.Proofs.Tiling

namespace LetterToSound

theorem spaced_cons {part : Text} {parts : List Text} (h : parts ≠ []) :
    spaced (part :: parts) = part ++ ' ' :: spaced parts := by
  unfold spaced
  rw [List.intercalate_cons_of_ne_nil h, List.append_assoc, List.singleton_append]

theorem combinations_cons {alternatives : List Text} {segments : List (List Text)}
    (h : segments ≠ []) :
    combinations (alternatives :: segments) = alternatives.flatMap fun chosen =>
      (combinations segments).map fun tail => chosen ++ ' ' :: tail := by
  cases segments with
  | nil => exact absurd rfl h
  | cons next segments => rfl

theorem length_combinations {segments : List (List Text)} (h : segments ≠ []) :
    (combinations segments).length = (segments.map List.length).prod := by
  induction segments with
  | nil => exact absurd rfl h
  | cons alternatives segments ih =>
    by_cases hs : segments = []
    · subst hs
      simp [combinations]
    · rw [combinations_cons hs, List.length_flatMap, List.map_cons, List.prod_cons, ← ih hs]
      simp [List.map_const']

theorem head_combinations {segments : List (List Text)} (h : segments ≠ [])
    (hf : ∀ alternatives ∈ segments, alternatives ≠ []) :
    (combinations segments).head? = some (spaced (segments.filterMap List.head?)) := by
  induction segments with
  | nil => exact absurd rfl h
  | cons alternatives segments ih =>
    have ha := hf alternatives List.mem_cons_self
    obtain ⟨chosen, others, rfl⟩ := List.exists_cons_of_ne_nil ha
    by_cases hs : segments = []
    · subst hs
      simp [combinations, spaced]
    · have hi := ih hs fun other ho => hf other (List.mem_cons_of_mem _ ho)
      have hn : segments.filterMap List.head? ≠ [] := by
        obtain ⟨next, rest, rfl⟩ := List.exists_cons_of_ne_nil hs
        obtain ⟨first, _, rfl⟩ := List.exists_cons_of_ne_nil (hf next (by simp))
        simp
      rw [combinations_cons hs, List.flatMap_cons, List.head?_append, List.head?_map, hi,
        List.filterMap_cons, List.head?_cons, spaced_cons hn]
      rfl

/-- Reading every segment backwards reads the combinations backwards. -/
theorem reverse_combinations (segments : List (List Text)) :
    (combinations segments).reverse = combinations (segments.map List.reverse) := by
  induction segments with
  | nil => rfl
  | cons alternatives segments ih =>
    by_cases hs : segments = []
    · subst hs
      rfl
    · have hm : segments.map List.reverse ≠ [] := by simpa using hs
      rw [combinations_cons hs, List.map_cons, combinations_cons hm, List.reverse_flatMap, ← ih]
      simp only [Function.comp_def, List.map_reverse]

theorem last_combinations {segments : List (List Text)} (h : segments ≠ [])
    (hf : ∀ alternatives ∈ segments, alternatives ≠ []) :
    (combinations segments).getLast? = some (spaced (segments.filterMap List.getLast?)) := by
  have hm : segments.map List.reverse ≠ [] := by simpa using h
  have hr : ∀ alternatives ∈ segments.map List.reverse, alternatives ≠ [] := by
    intro alternatives ha
    obtain ⟨other, ho, rfl⟩ := List.mem_map.mp ha
    simpa using hf other ho
  rw [List.getLast?_eq_head?_reverse, reverse_combinations, head_combinations hm hr,
    List.filterMap_map]
  simp only [Function.comp_def, List.head?_reverse]

/-- The modes agree on segments that can all be combined. -/
theorem Mode.combine_ends {segments : List (List Text)} (h : segments ≠ [])
    (hf : ∀ alternatives ∈ segments, alternatives ≠ []) :
    ∃ hn : Mode.all.combine segments ≠ [],
      Mode.first.combine segments = [(Mode.all.combine segments).head hn] ∧
      Mode.last.combine segments = [(Mode.all.combine segments).getLast hn] := by
  have hhead := head_combinations h hf
  have hlast := last_combinations h hf
  have hn : combinations segments ≠ [] := by
    intro hnil
    rw [hnil] at hhead
    cases hhead
  rw [List.head?_eq_some_head hn] at hhead
  rw [List.getLast?_eq_some_getLast hn] at hlast
  refine ⟨hn, ?_, ?_⟩
  · simp only [combine, Option.some.inj hhead]
  · simp only [combine, Option.some.inj hlast]

theorem Choice.Tiled.targets_filled {rules : List Rule} {word : Text} {position : Nat}
    {tiles : List Choice} (ht : Choice.Tiled rules word position tiles)
    (hf : ∀ rule ∈ rules, rule.Filled) (hs : Choice.sources tiles ≠ []) :
    tiles.map (·.rule.targets) ≠ [] ∧
      ∀ alternatives ∈ tiles.map (·.rule.targets), alternatives ≠ [] := by
  constructor
  · intro hn
    rw [List.map_eq_nil_iff.mp hn] at hs
    exact hs rfl
  · intro alternatives ha
    obtain ⟨choice, hm, rfl⟩ := List.mem_map.mp ha
    exact (hf choice.rule (ht.from_rules choice hm).mem).targets

namespace RuleTrie

theorem segments_filled {rules : List Rule} (hf : ∀ rule ∈ rules, rule.Filled) {word : Text}
    {segments : List Output} (hw : word ≠ [])
    (hs : (ofRules rules).segments? word = some segments) :
    segments.map Output.targets ≠ [] ∧
      ∀ alternatives ∈ segments.map Output.targets, alternatives ≠ [] := by
  obtain ⟨tiles, ht, rfl, rfl⟩ := (segments_eq_some_iff_tiled hf).mp hs
  rw [List.map_map]
  exact ht.targets_filled hf hw

/-- Either a word is refused in every mode and for the same reason, or the first and the last
mode give the ends of what there is in all. -/
def ModesAgree (trie : RuleTrie) (word : Text) : Prop :=
  (∃ error, ∀ mode, trie.transcribe mode word = .error error) ∨
    ∃ segments all, ∃ hn : all ≠ [], trie.segments? word.lower = some segments ∧
      trie.transcribe .all word = .ok all ∧
      all.length = (segments.map (·.targets.length)).prod ∧
      trie.transcribe .first word = .ok [all.head hn] ∧
      trie.transcribe .last word = .ok [all.getLast hn]

theorem modes_agree {book : RuleBook} (h : book.Reached) (word : Text) :
    (ofRules book.rules).ModesAgree word := by
  cases ht : (ofRules book.rules).transcribe .all word with
  | error error =>
    left
    refine ⟨error, fun mode => ?_⟩
    rw [transcribe_eq_error_iff] at ht ⊢
    exact ht
  | ok all =>
    right
    obtain ⟨ho, hw, segments, hs, rfl⟩ := transcribe_eq_ok_iff.mp ht
    obtain ⟨hm, hall⟩ := segments_filled h.filled hw hs
    obtain ⟨hn, hfirst, hlast⟩ := Mode.combine_ends hm hall
    refine ⟨segments, _, hn, hs, ht, ?_, ?_, ?_⟩
    · have hl := length_combinations hm
      rw [List.map_map] at hl
      exact hl
    · rw [transcribe_eq_ok_iff]
      exact ⟨ho, hw, segments, hs, hfirst.symm⟩
    · rw [transcribe_eq_ok_iff]
      exact ⟨ho, hw, segments, hs, hlast.symm⟩

theorem modes_agree_on_two_targets :
    let book := (RuleBook.empty.readLines 1 [.ok "E = *", .ok "E\ta\tE\tb, c"]).book
    book.Reached ∧ (ofRules book.rules).ModesAgree "aA" :=
  ⟨RuleBook.Reached.empty.lines 1 _, modes_agree (RuleBook.Reached.empty.lines 1 _) "aA"⟩

end RuleTrie

end LetterToSound
