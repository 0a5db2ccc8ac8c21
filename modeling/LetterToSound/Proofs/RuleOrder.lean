import LetterToSound.Proofs.Tiling

namespace LetterToSound

/-- Both contexts admit everything, or they list the same tokens. -/
def Context.SameTokens (context other : Context) : Prop :=
  Option.Rel (fun tokens others => ∀ token, token ∈ tokens ↔ token ∈ others)
    context.tokens? other.tokens?

theorem Context.SameTokens.alternatives {context other : Context} (h : context.SameTokens other)
    (token : Text) : token ∈ context.alternatives ↔ token ∈ other.alternatives := by
  unfold Context.alternatives
  unfold SameTokens at h
  generalize context.tokens? = tokens, other.tokens? = others at h
  cases h with
  | none => exact Iff.rfl
  | some hs => exact hs token

theorem Context.SameTokens.symm {context other : Context} (h : context.SameTokens other) :
    other.SameTokens context := by
  unfold SameTokens at h ⊢
  generalize context.tokens? = tokens, other.tokens? = others at h
  cases h with
  | none => exact .none
  | some hs => exact .some fun token => (hs token).symm

namespace Rule

/-- The rules say the same, though they may list the tokens of a context in other ways. -/
structure Alike (rule other : Rule) : Prop where
  left : rule.left.SameTokens other.left
  source : rule.source = other.source
  right : rule.right.SameTokens other.right
  targets : rule.targets = other.targets

/-- For every source, the rules of that source are alike one by one and in the same order. -/
def AlikeBySource (rules others : List Rule) : Prop :=
  ∀ source, List.Forall₂ Alike (rules.filter (·.source = source))
    (others.filter (·.source = source))

theorem Alike.paths {rule other : Rule} (h : rule.Alike other) (q : List Step) :
    (∃ entry ∈ rule.entries, entry.path = q) ↔ ∃ entry ∈ other.entries, entry.path = q := by
  have hp (right left : Text) :
      (Choice.mk 0 rule right left).path = (Choice.mk 0 other right left).path := by
    simp only [Choice.path, Choice.ahead, Choice.behind, h.source]
  simp only [mem_paths 0, h.right.alternatives, h.left.alternatives, hp]

theorem Alike.output {rule other : Rule} (h : rule.Alike other) : rule.output = other.output := by
  unfold Rule.output
  rw [h.source, h.targets]

/-- Rules that end at one path and cover as much have the same source. -/
theorem source_unique {rule other : Rule} {q : List Step}
    (h : ∃ entry ∈ rule.entries, entry.path = q) (ho : ∃ entry ∈ other.entries, entry.path = q)
    (hl : rule.source.length = other.source.length) : rule.source = other.source := by
  obtain ⟨right, _, left, _, hp⟩ := (mem_paths 0).mp h
  obtain ⟨right', _, left', _, hp'⟩ := (mem_paths 0).mp ho
  obtain ⟨ha, _⟩ := route_inj.mp (hp.trans hp'.symm)
  have hs : rule.source.map Edge.letter = other.source.map Edge.letter :=
    List.append_inj_left ha (by simpa using hl)
  exact List.map_injective_iff.mpr (fun _ _ => Edge.letter.inj) hs

/-- What is stored at a path once a rule has been inserted over what was there. -/
def storeAt (q : List Step) (old : Option Output) (rule : Rule) : Option Output :=
  if ∃ entry ∈ rule.entries, entry.path = q then some (rule.output.replacing old) else old

theorem Alike.store_at {rule other : Rule} (h : rule.Alike other) (q : List Step)
    (old : Option Output) : storeAt q old rule = storeAt q old other := by
  simp only [storeAt, h.paths q, h.output]

end Rule

theorem Output.replacing_comm {new other : Output} (h : new.covered ≠ other.covered)
    (old : Option Output) :
    new.replacing (some (other.replacing old)) = other.replacing (some (new.replacing old)) := by
  cases old with
  | none => grind [replacing]
  | some old => grind [replacing]

namespace Rule

/-- Rules of different sources can be stored in either order. -/
theorem store_at_comm {rule other : Rule} (h : rule.source ≠ other.source) (q : List Step)
    (old : Option Output) :
    storeAt q (storeAt q old rule) other = storeAt q (storeAt q old other) rule := by
  unfold storeAt
  by_cases hr : ∃ entry ∈ rule.entries, entry.path = q
  · by_cases ho : ∃ entry ∈ other.entries, entry.path = q
    · have hc : other.output.covered ≠ rule.output.covered :=
        fun hl => h (source_unique hr ho hl.symm)
      rw [if_pos hr, if_pos ho, if_pos hr, if_pos ho, Output.replacing_comm hc]
    · rw [if_neg ho, if_neg ho]
  · rw [if_neg hr, if_neg hr]

theorem foldl_store_front {rules : List Rule} {rule : Rule}
    (h : ∀ other ∈ rules, other.source ≠ rule.source) (q : List Step) (old : Option Output) :
    storeAt q (rules.foldl (storeAt q) old) rule = rules.foldl (storeAt q) (storeAt q old rule) := by
  induction rules generalizing old with
  | nil => rfl
  | cons other rules ih =>
    rw [List.foldl_cons, List.foldl_cons, ih fun next hn => h next (List.mem_cons_of_mem _ hn),
      store_at_comm (h other List.mem_cons_self).symm]

/-- The partner of the first rule is the first of its source in the other list. -/
theorem AlikeBySource.cons {rule : Rule} {rules others : List Rule}
    (h : AlikeBySource (rule :: rules) others) :
    ∃ front other back, others = front ++ other :: back ∧
      (∀ next ∈ front, next.source ≠ rule.source) ∧ rule.Alike other ∧
      AlikeBySource rules (front ++ back) := by
  have hs := h rule.source
  rw [List.filter_cons_of_pos (by simp)] at hs
  obtain ⟨other, back', ha, _, hf⟩ := List.forall₂_cons_left_iff.mp hs
  obtain ⟨front, back, rfl, hn, _, _⟩ := List.filter_eq_cons_iff.mp hf
  have hne : ∀ next ∈ front, next.source ≠ rule.source := by simpa using hn
  refine ⟨front, other, back, rfl, hne, ha, ?_⟩
  intro source
  have hsource := h source
  rw [List.filter_append] at hsource ⊢
  by_cases he : rule.source = source
  · have hfront : front.filter (·.source = source) = [] := by
      simpa [List.filter_eq_nil_iff, ← he] using hne
    rw [hfront, List.filter_cons_of_pos (by simpa using he),
      List.filter_cons_of_pos (by simpa [← ha.source] using he)] at hsource
    rw [hfront]
    exact (List.forall₂_cons.mp hsource).2
  · rw [List.filter_cons_of_neg (by simpa using he),
      List.filter_cons_of_neg (by simpa [← ha.source] using he)] at hsource
    exact hsource

/-- Lists that agree source by source store the same at every path. -/
theorem AlikeBySource.foldl_store {rules others : List Rule} (h : AlikeBySource rules others)
    (q : List Step) (old : Option Output) :
    rules.foldl (storeAt q) old = others.foldl (storeAt q) old := by
  induction rules generalizing others old with
  | nil =>
    cases others with
    | nil => rfl
    | cons other others =>
      have hs := h other.source
      rw [List.filter_cons_of_pos (by simp)] at hs
      cases hs
  | cons rule rules ih =>
    obtain ⟨front, other, back, rfl, hn, ha, hr⟩ := h.cons
    have hm : ∀ next ∈ front, next.source ≠ other.source := fun next hm => ha.source ▸ hn next hm
    calc
      (rule :: rules).foldl (storeAt q) old
      _ = (front ++ back).foldl (storeAt q) (storeAt q old rule) := ih hr _
      _ = (front ++ back).foldl (storeAt q) (storeAt q old other) := by rw [ha.store_at]
      _ = (front ++ other :: back).foldl (storeAt q) old := by
        rw [List.foldl_append, List.foldl_append, List.foldl_cons, foldl_store_front hm]

theorem AlikeBySource.exists_alike {rules others : List Rule} (h : AlikeBySource rules others)
    {rule : Rule} (hm : rule ∈ rules) : ∃ other ∈ others, rule.Alike other := by
  induction rules generalizing others with
  | nil => cases hm
  | cons first rules ih =>
    obtain ⟨front, other, back, rfl, _, ha, hr⟩ := h.cons
    rcases List.mem_cons.mp hm with rfl | hm
    · exact ⟨other, by simp, ha⟩
    · obtain ⟨partner, hp, ha⟩ := ih hr hm
      refine ⟨partner, ?_, ha⟩
      rcases List.mem_append.mp hp with hp | hp
      · exact List.mem_append_left _ hp
      · exact List.mem_append_right _ (List.mem_cons_of_mem _ hp)

theorem Alike.symm {rule other : Rule} (h : rule.Alike other) : other.Alike rule :=
  ⟨h.left.symm, h.source.symm, h.right.symm, h.targets.symm⟩

theorem AlikeBySource.symm {rules others : List Rule} (h : AlikeBySource rules others) :
    AlikeBySource others rules :=
  fun source => (h source).flip.imp fun _ _ => Alike.symm

end Rule

namespace Trie

/-- The search looks only at what is stored. -/
theorem match_ahead_congr {trie other : Trie} (h : ∀ q, trie.output? q = other.output? q)
    (behind ahead : Text) : trie.matchAhead behind ahead = other.matchAhead behind ahead := by
  cases ht : trie.matchAhead behind ahead with
  | none =>
    rw [match_ahead_eq_none_iff] at ht
    symm
    rw [match_ahead_eq_none_iff]
    intro front back hf hb
    rw [← h]
    exact ht front back hf hb
  | some output =>
    obtain ⟨front, back, hf, hb, ho, hg⟩ := match_ahead_eq_some ht
    cases hu : other.matchAhead behind ahead with
    | none =>
      have hn := match_ahead_eq_none_iff.mp hu front back hf hb
      rw [← h, ho] at hn
      cases hn
    | some output' =>
      obtain ⟨front', back', hf', hb', ho', hg'⟩ := match_ahead_eq_some hu
      have hle := hg front' back' hf' hb' (by simp [h, ho'])
      have hge := hg' front back hf hb (by simp [← h, ho])
      obtain ⟨rfl, hl⟩ : front' = front ∧ back'.length = back.length := by
        rcases hle with hle | ⟨rfl, hle⟩ <;> rcases hge with hge | ⟨he, hge⟩
        · omega
        · rw [he] at hle
          omega
        · omega
        · exact ⟨rfl, Nat.le_antisymm hle hge⟩
      have he : back' = back := by
        rw [List.prefix_iff_eq_take.mp hb', List.prefix_iff_eq_take.mp hb, hl]
      rw [he, ← h, ho] at ho'
      exact ho'

end Trie

namespace RuleTrie

/-- Neither the size nor the transcription of any word tells the tries apart. -/
structure Alike (trie other : RuleTrie) : Prop where
  size : trie.size = other.size
  has_output : trie.root.hasOutput = other.root.hasOutput
  transcribe : ∀ mode word, trie.transcribe mode word = other.transcribe mode word

theorem segments_from_congr {trie other : RuleTrie}
    (h : ∀ behind ahead, trie.best? behind ahead = other.best? behind ahead) (behind : Text)
    (skip : Nat) (ahead : Text) :
    trie.segmentsFrom behind skip ahead = other.segmentsFrom behind skip ahead := by
  induction ahead generalizing behind skip with
  | nil => rfl
  | cons c ahead ih =>
    cases skip with
    | succ skip => exact ih (c :: behind) skip
    | zero => simp only [segmentsFrom, h, ih]

theorem transcribe_congr {trie other : RuleTrie}
    (h : ∀ q, trie.root.output? q = other.root.output? q)
    (ho : trie.root.hasOutput = other.root.hasOutput) (mode : Mode) (word : Text) :
    trie.transcribe mode word = other.transcribe mode word := by
  have hs (letters : Text) : trie.segments? letters = other.segments? letters :=
    segments_from_congr (Trie.match_ahead_congr h) [] 0 letters
  simp only [transcribe, ho, hs]

/-- The same paths in two tries of rules make equally many nodes. -/
theorem size_congr {rules others : List Rule}
    (h : ∀ q, ((ofRules rules).root.number? q).isSome = ((ofRules others).root.number? q).isSome) :
    (ofRules rules).size = (ofRules others).size := by
  have ha (address : List Edge × List Edge) :
      ((ofRules rules).at? address.1 address.2).isSome =
        ((ofRules others).at? address.1 address.2).isSome := by
    have hq := h (route address.1 address.2)
    simp only [Trie.number?, Option.isSome_map] at hq
    exact hq
  have hr := (numbered_of_rules rules).card fun _ hm => exists_at hm
  have ho := (numbered_of_rules others).card fun _ hm => exists_at hm
  simp only [ha] at hr
  exact Nat.cast_injective (hr.symm.trans ho)

theorem output_eq_foldl (rules : List Rule) (q : List Step) :
    (ofRules rules).root.output? q = rules.foldl (Rule.storeAt q) none := by
  induction rules using List.reverseRecOn with
  | nil => cases q <;> rfl
  | append_singleton rules rule ih =>
    rw [of_rules_append, output_insert_all fun _ he => Rule.entry_output he, ih, List.foldl_append]
    rfl

theorem number_of_partners {rules others : List Rule}
    (h : ∀ rule ∈ rules, ∃ other ∈ others, rule.Alike other) {q : List Step}
    (hq : ((ofRules rules).root.number? q).isSome = true) :
    ((ofRules others).root.number? q).isSome = true := by
  rw [number_of_rules] at hq ⊢
  apply hq.imp_right
  intro hg
  obtain ⟨choice, hc, hp⟩ := hg
  obtain ⟨other, hm, ha⟩ := h choice.rule hc.mem
  obtain ⟨partner, hfrom, hrule, hright, hleft⟩ := Choice.exists_of_mem hm
    ((ha.right.alternatives _).mp hc.2.1) ((ha.left.alternatives _).mp hc.2.2)
  refine ⟨partner, hfrom, ?_⟩
  simpa only [Choice.path, Choice.ahead, Choice.behind, hrule, hright, hleft, ha.source] using hp

/-- Where each rule of either list has a partner in the other, only what is stored can tell the
tries apart. -/
theorem alike_of_partners {rules others : List Rule}
    (h : ∀ rule ∈ rules, ∃ other ∈ others, rule.Alike other)
    (ho : ∀ other ∈ others, ∃ rule ∈ rules, other.Alike rule)
    (hs : ∀ q, rules.foldl (Rule.storeAt q) none = others.foldl (Rule.storeAt q) none) :
    (ofRules rules).Alike (ofRules others) := by
  have hout (q : List Step) : (ofRules rules).root.output? q = (ofRules others).root.output? q := by
    rw [output_eq_foldl, output_eq_foldl, hs]
  have hnum (q : List Step) : ((ofRules rules).root.number? q).isSome =
      ((ofRules others).root.number? q).isSome :=
    Bool.eq_iff_iff.mpr ⟨number_of_partners h, number_of_partners ho⟩
  have hhas : (ofRules rules).root.hasOutput = (ofRules others).root.hasOutput := by
    rw [Bool.eq_iff_iff, Trie.has_output_iff (numbered_of_rules rules).distinct,
      Trie.has_output_iff (numbered_of_rules others).distinct]
    simp only [hout]
  exact ⟨size_congr hnum, hhas, transcribe_congr hout hhas⟩

theorem alike_of_rules {rules others : List Rule} (h : Rule.AlikeBySource rules others) :
    (ofRules rules).Alike (ofRules others) := by
  apply alike_of_partners
  · exact fun rule hm => h.exists_alike hm
  · exact fun other hm => h.symm.exists_alike hm
  · exact fun q => h.foldl_store q none

theorem alike_in_two_orders :
    let long : Rule := ⟨.any, "ab", .any, ["x"]⟩
    let short : Rule := ⟨.any, "a", .only ["b", "$"], ["y", "z"]⟩
    let other : Rule := ⟨.any, "a", .allBut ["$", "b", "b"], ["y", "z"]⟩
    Rule.AlikeBySource [long, short] [other, long] ∧
      (ofRules [long, short]).Alike (ofRules [other, long]) := by
  intro long short other
  have hlong : long.Alike long := ⟨.none, rfl, .none, rfl⟩
  have hshort : short.Alike other :=
    ⟨.none, rfl, .some fun token => by simp [or_comm], rfl⟩
  have ha : Rule.AlikeBySource [long, short] [other, long] := by
    intro source
    by_cases hs : "a".toList = source
    · subst source
      exact .cons hshort .nil
    · by_cases hl : "ab".toList = source
      · subst source
        exact .cons hlong .nil
      · simp only [List.filter_cons, long, short, other, hs, hl, decide_false, Bool.false_eq_true,
          if_false, List.filter_nil, List.forall₂_nil_left_iff]
  exact ⟨ha, alike_of_rules ha⟩

end RuleTrie

end LetterToSound
