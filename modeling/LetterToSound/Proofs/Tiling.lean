import LetterToSound.Proofs.LongestMatch
import LetterToSound.Words.Transcription

namespace LetterToSound

namespace RuleTrie

/-- A run of matches from one position to another. It says nothing about whether it could go on. -/
inductive Run (trie : RuleTrie) (word : Text) : Nat → List Output → Nat → Prop
  | stay (position : Nat) : Run trie word position [] position
  | turn {position last : Nat} {output : Output} {outputs : List Output}
      (inside : position < word.length) (found : trie.bestAt? word position = some output)
      (rest : Run trie word (position + output.covered) outputs last) :
      Run trie word position (output :: outputs) last

/-- No run goes on from here. -/
def Halts (trie : RuleTrie) (word : Text) (position : Nat) : Prop :=
  position < word.length → trie.bestAt? word position = none

/-- Every match covers at least one letter, and only letters of the word. -/
def Covers (trie : RuleTrie) : Prop :=
  ∀ {word position output}, trie.bestAt? word position = some output →
    position < position + output.covered ∧ position + output.covered ≤ word.length

/-- There is only one run from a position to where it halts. -/
theorem Run.unique {trie : RuleTrie} {word : Text} {position last last' : Nat}
    {outputs outputs' : List Output} (h : trie.Run word position outputs last)
    (hl : trie.Halts word last) (h' : trie.Run word position outputs' last')
    (hl' : trie.Halts word last') : outputs = outputs' ∧ last = last' := by
  induction h generalizing outputs' with
  | stay position =>
    cases h' with
    | stay => exact ⟨rfl, rfl⟩
    | turn inside found rest =>
      rw [hl inside] at found
      cases found
  | turn inside found rest ih =>
    cases h' with
    | stay =>
      rw [hl' inside] at found
      cases found
    | turn _ found' rest' =>
      have ho := Option.some.inj (found.symm.trans found')
      subst ho
      obtain ⟨rfl, he⟩ := ih hl rest'
      exact ⟨rfl, he⟩

/-- A run moves by at least one letter a turn, and never past the end. -/
theorem Run.bounds {trie : RuleTrie} (hc : trie.Covers) {word : Text} {position last : Nat}
    {outputs : List Output} (h : trie.Run word position outputs last)
    (hp : position ≤ word.length) :
    position + outputs.length ≤ last ∧ last ≤ word.length := by
  induction h with
  | stay position => exact ⟨Nat.le_refl _, hp⟩
  | turn _ found _ ih =>
    obtain ⟨hlt, hle⟩ := hc found
    obtain ⟨hs, he⟩ := ih hle
    rw [List.length_cons]
    omega

theorem best_at_append {trie : RuleTrie} {behind ahead : Text} :
    trie.bestAt? (behind.reverse ++ ahead) behind.length = trie.best? behind ahead := by
  unfold bestAt?
  rw [← List.length_reverse, List.take_left, List.drop_left, List.reverse_reverse]

/-- The segments of a word are those of the run that halts, provided that it halts at the end. -/
theorem segments_from_run {trie : RuleTrie} (hc : trie.Covers) {word behind ahead : Text}
    {skip : Nat} (hw : behind.reverse ++ ahead = word) (hs : skip ≤ ahead.length) :
    ∃ outputs last, trie.Run word (behind.length + skip) outputs last ∧ trie.Halts word last ∧
      last ≤ word.length ∧
      trie.segmentsFrom behind skip ahead = if last < word.length then none else some outputs := by
  induction ahead generalizing behind skip with
  | nil =>
    have hz : skip = 0 := Nat.le_zero.mp hs
    have hl : word.length = behind.length := by simp [← hw]
    subst hz
    exact ⟨[], behind.length, .stay _, fun hi => by omega, by omega, by simp [segmentsFrom, hl]⟩
  | cons c ahead ih =>
    have hw' : (c :: behind).reverse ++ ahead = word := by simpa using hw
    have hl : word.length = behind.length + (ahead.length + 1) := by simp [← hw]
    cases skip with
    | succ skip =>
      obtain ⟨outputs, last, hr, hh, hb, hf⟩ := ih hw' (Nat.le_of_succ_le_succ hs)
      have hp : (c :: behind).length + skip = behind.length + (skip + 1) := by
        rw [List.length_cons]
        omega
      exact ⟨outputs, last, hp ▸ hr, hh, hb, hf⟩
    | zero =>
      have hi : behind.length < word.length := by omega
      have hm : trie.bestAt? word behind.length = trie.best? behind (c :: ahead) := by
        rw [← hw, best_at_append]
      cases hb : trie.best? behind (c :: ahead) with
      | none =>
        rw [hb] at hm
        refine ⟨[], behind.length, .stay _, fun _ => hm, Nat.le_of_lt hi, ?_⟩
        rw [if_pos hi, segmentsFrom, hb]
        rfl
      | some output =>
        rw [hb] at hm
        obtain ⟨hlt, hle⟩ := hc hm
        have hk : output.covered - 1 ≤ ahead.length := by omega
        obtain ⟨outputs, last, hr, hh, he, hf⟩ := ih hw' hk
        have hp : (c :: behind).length + (output.covered - 1) = behind.length + output.covered := by
          rw [List.length_cons]
          omega
        refine ⟨output :: outputs, last, .turn hi hm (hp ▸ hr), hh, he, ?_⟩
        rw [segmentsFrom, hb, Option.bind_eq_bind, Option.bind_some, hf]
        split <;> rfl

theorem segments_run {trie : RuleTrie} (hc : trie.Covers) (word : Text) :
    ∃ outputs last, trie.Run word 0 outputs last ∧ trie.Halts word last ∧ last ≤ word.length ∧
      trie.segments? word = if last < word.length then none else some outputs := by
  have hw : ([] : Text).reverse ++ word = word := rfl
  exact segments_from_run hc hw (Nat.zero_le word.length)

theorem segments_eq_some_iff {trie : RuleTrie} (hc : trie.Covers) {word : Text}
    {outputs : List Output} :
    trie.segments? word = some outputs ↔ trie.Run word 0 outputs word.length := by
  obtain ⟨all, last, hr, hh, hl, hs⟩ := segments_run hc word
  rw [hs]
  constructor
  · intro h
    split at h
    · cases h
    · rename_i hn
      have he : last = word.length := Nat.le_antisymm hl (Nat.not_lt.mp hn)
      rw [← he, ← Option.some.inj h]
      exact hr
  · intro h
    obtain ⟨rfl, rfl⟩ := hr.unique hh h fun hi => absurd hi (Nat.lt_irrefl _)
    exact if_neg (Nat.lt_irrefl _)

theorem segments_eq_none_iff {trie : RuleTrie} (hc : trie.Covers) {word : Text} :
    trie.segments? word = none ↔ ∃ outputs last, trie.Run word 0 outputs last ∧
      last < word.length ∧ trie.bestAt? word last = none := by
  obtain ⟨all, last, hr, hh, hl, hs⟩ := segments_run hc word
  rw [hs]
  constructor
  · intro h
    split at h
    · rename_i hi
      exact ⟨all, last, hr, hi, hh hi⟩
    · cases h
  · intro hg
    obtain ⟨outputs, last', hr', hi, hn⟩ := hg
    obtain ⟨_, rfl⟩ := hr.unique hh hr' fun _ => hn
    exact if_pos hi

end RuleTrie

/-- What applies at a position stands within the word. -/
theorem Choice.AppliesAt.bounds {choice : Choice} {word : Text} {position : Nat}
    (h : choice.AppliesAt word position) (hs : choice.rule.source ≠ []) :
    position < position + choice.rule.source.length ∧
      position + choice.rule.source.length ≤ word.length := by
  obtain ⟨⟨rest, hd, _⟩, _⟩ := h
  have hl := congrArg List.length hd
  rw [List.length_drop, List.length_append] at hl
  have hp := List.length_pos_of_ne_nil hs
  omega

theorem RuleTrie.covers_of_rules {rules : List Rule} (h : ∀ rule ∈ rules, rule.Filled) :
    (ofRules rules).Covers := by
  intro word position output hb
  obtain ⟨choice, hc, rfl⟩ := best_at_eq_some hb
  exact hc.applies.bounds (h choice.rule hc.from_rules.mem).source

namespace Choice

/-- Each choice is the best one where the source before it ends. -/
def Tiled (rules : List Rule) (word : Text) : Nat → List Choice → Prop
  | _, [] => True
  | position, choice :: tiles =>
    choice.Best rules word position ∧
      Tiled rules word (position + choice.rule.source.length) tiles

def sources (tiles : List Choice) : Text := tiles.flatMap (·.rule.source)

theorem length_sources_cons (choice : Choice) (tiles : List Choice) :
    (sources (choice :: tiles)).length = choice.rule.source.length + (sources tiles).length :=
  List.length_append

theorem Tiled.from_rules {rules : List Rule} {word : Text} {position : Nat} {tiles : List Choice}
    (h : Tiled rules word position tiles) : ∀ choice ∈ tiles, choice.From rules := by
  induction tiles generalizing position with
  | nil => simp
  | cons choice tiles ih =>
    obtain ⟨hb, ht⟩ := h
    intro other ho
    rcases List.mem_cons.mp ho with rfl | ho
    · exact hb.from_rules
    · exact ih ht other ho

/-- The sources of tiles are the letters that they stand on. -/
theorem Tiled.sources_prefix {rules : List Rule} {word : Text} {position : Nat}
    {tiles : List Choice} (h : Tiled rules word position tiles) :
    sources tiles <+: word.drop position := by
  induction tiles generalizing position with
  | nil => exact List.nil_prefix
  | cons choice tiles ih =>
    obtain ⟨hb, ht⟩ := h
    obtain ⟨⟨rest, hd, _⟩, _⟩ := hb.applies
    have hr : word.drop (position + choice.rule.source.length) = rest := by
      rw [← List.drop_drop, hd, List.drop_left]
    have hp := ih ht
    rw [hr] at hp
    rw [hd]
    exact (List.prefix_append_right_inj _).mpr hp

theorem Tiled.exists_tile {rules : List Rule} {word : Text} {position : Nat} {tiles : List Choice}
    (h : Tiled rules word position tiles) {before after : Text} {c : Char}
    (hs : sources tiles = before ++ c :: after) :
    ∃ choice : Choice, ∃ start front back, choice.Best rules word start ∧
      choice.rule.source = front ++ c :: back ∧
      start + front.length = position + before.length := by
  induction tiles generalizing position before with
  | nil => simp [sources] at hs
  | cons choice tiles ih =>
    obtain ⟨hb, ht⟩ := h
    have hcons : choice.rule.source ++ sources tiles = before ++ c :: after := hs
    rcases List.append_eq_append_iff.mp hcons with ⟨middle, rfl, hm⟩ | ⟨middle, he, hm⟩
    · obtain ⟨tile, start, front, back, htile, hsource, hl⟩ := ih ht hm
      refine ⟨tile, start, front, back, htile, hsource, ?_⟩
      rw [hl, List.length_append, Nat.add_assoc]
    · cases middle with
      | nil =>
        rw [List.append_nil] at he
        obtain ⟨tile, start, front, back, htile, hsource, hl⟩ := ih ht (hm.symm.trans (List.nil_append _).symm)
        refine ⟨tile, start, front, back, htile, hsource, ?_⟩
        rw [hl, he, List.length_nil, Nat.add_zero]
      | cons d back =>
        obtain ⟨rfl, _⟩ := List.cons.inj hm
        exact ⟨choice, position, before, back, hb, he, rfl⟩

theorem Tiled.run {rules : List Rule} (hf : ∀ rule ∈ rules, rule.Filled) {word : Text}
    {position : Nat} {tiles : List Choice} (h : Tiled rules word position tiles) :
    (RuleTrie.ofRules rules).Run word position (tiles.map (·.rule.output))
      (position + (sources tiles).length) := by
  induction tiles generalizing position with
  | nil => exact .stay position
  | cons choice tiles ih =>
    obtain ⟨hb, ht⟩ := h
    have hi := hb.applies.bounds (hf choice.rule hb.from_rules.mem).source
    have hr := ih ht
    rw [length_sources_cons, ← Nat.add_assoc]
    exact .turn (Nat.lt_of_lt_of_le hi.1 hi.2) (RuleTrie.best_at_eq_some_iff.mpr ⟨choice, hb, rfl⟩) hr

end Choice

/-- The outputs of a run are those of tiles. -/
theorem RuleTrie.Run.tiled {rules : List Rule} {word : Text} {position last : Nat}
    {outputs : List Output} (h : (ofRules rules).Run word position outputs last) :
    ∃ tiles, Choice.Tiled rules word position tiles ∧ tiles.map (·.rule.output) = outputs ∧
      last = position + (Choice.sources tiles).length := by
  induction h with
  | stay position => exact ⟨[], trivial, rfl, rfl⟩
  | turn _ found _ ih =>
    obtain ⟨choice, hb, rfl⟩ := best_at_eq_some found
    obtain ⟨tiles, ht, rfl, rfl⟩ := ih
    refine ⟨choice :: tiles, ⟨hb, ht⟩, rfl, ?_⟩
    rw [Choice.length_sources_cons, ← Nat.add_assoc]
    rfl

namespace RuleTrie

theorem has_output_of_rules {rules : List Rule} (hf : ∀ rule ∈ rules, rule.Filled)
    (hr : rules ≠ []) : (ofRules rules).root.hasOutput = true := by
  rw [← Bool.not_eq_false, has_output_eq_false_iff hf]
  exact hr

theorem transcribe_eq_ok_iff {trie : RuleTrie} {mode : Mode} {word : Text} {result : List Text} :
    trie.transcribe mode word = .ok result ↔ trie.root.hasOutput = true ∧ word.lower ≠ [] ∧
      ∃ segments, trie.segments? word.lower = some segments ∧
        result = mode.combine (segments.map Output.targets) := by
  unfold transcribe
  cases trie.root.hasOutput with
  | false => simp
  | true =>
    cases word.lower with
    | nil => simp
    | cons c letters =>
      dsimp only
      cases trie.segments? (c :: letters) with
      | none => simp
      | some segments => simp [@eq_comm _ result]

theorem transcribe_eq_error_iff {trie : RuleTrie} {mode : Mode} {word : Text} {error : WordError} :
    trie.transcribe mode word = .error error ↔
      trie.root.hasOutput = false ∧ error = .noRules ∨
      trie.root.hasOutput = true ∧ error = .noMatch word ∧
        (word.lower = [] ∨ trie.segments? word.lower = none) := by
  unfold transcribe
  cases trie.root.hasOutput with
  | false => simp [@eq_comm _ error]
  | true =>
    cases word.lower with
    | nil => simp [@eq_comm _ error]
    | cons c letters =>
      dsimp only
      cases trie.segments? (c :: letters) with
      | none => simp [@eq_comm _ error]
      | some segments => simp

/-- The segments of a word are found when the sources of tiles are the whole word. -/
theorem segments_eq_some_iff_tiled {rules : List Rule} (hf : ∀ rule ∈ rules, rule.Filled)
    {word : Text} {outputs : List Output} :
    (ofRules rules).segments? word = some outputs ↔
      ∃ tiles, Choice.Tiled rules word 0 tiles ∧ Choice.sources tiles = word ∧
        tiles.map (·.rule.output) = outputs := by
  rw [segments_eq_some_iff (covers_of_rules hf)]
  constructor
  · intro h
    obtain ⟨tiles, ht, ho, hl⟩ := h.tiled
    rw [Nat.zero_add] at hl
    exact ⟨tiles, ht, ht.sources_prefix.eq_of_length hl.symm, ho⟩
  · intro hg
    obtain ⟨tiles, ht, hs, rfl⟩ := hg
    have hr := ht.run hf
    rw [hs, Nat.zero_add] at hr
    exact hr

theorem segments_eq_none_iff_tiled {rules : List Rule} (hf : ∀ rule ∈ rules, rule.Filled)
    {word : Text} :
    (ofRules rules).segments? word = none ↔
      ∃ tiles, Choice.Tiled rules word 0 tiles ∧ (Choice.sources tiles).length < word.length ∧
        ∀ choice : Choice, choice.From rules →
          ¬choice.AppliesAt word (Choice.sources tiles).length := by
  rw [segments_eq_none_iff (covers_of_rules hf)]
  constructor
  · intro hg
    obtain ⟨outputs, last, hr, hl, hn⟩ := hg
    obtain ⟨tiles, ht, _, he⟩ := hr.tiled
    rw [Nat.zero_add] at he
    rw [he] at hl hn
    exact ⟨tiles, ht, hl, best_at_eq_none_iff.mp hn⟩
  · intro hg
    obtain ⟨tiles, ht, hl, hn⟩ := hg
    have hr := ht.run hf
    rw [Nat.zero_add] at hr
    exact ⟨_, _, hr, hl, best_at_eq_none_iff.mpr hn⟩

end RuleTrie

end LetterToSound
