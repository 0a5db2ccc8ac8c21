import LetterToSound.Proofs.StoredRules
import LetterToSound.Words.Match

namespace LetterToSound

/-- A text as the search goes along it: its letters and then the boundary. -/
def symbols (t : Text) : List Edge := t.map .letter ++ [.boundary]

namespace Trie

/-- Goes along edges as far as they lead, and back to the last node where something is found. -/
def deepest (side : Side) (found : Trie → Option Output) (trie : Trie) : List Edge → Option Output
  | [] => found trie
  | edge :: edges => (trie.child? ⟨side, edge⟩).bind (deepest side found · edges) <|> found trie

theorem match_behind_eq (trie : Trie) (behind : Text) :
    trie.matchBehind behind = trie.deepest .behind (·.node.output) (symbols behind) := by
  induction behind generalizing trie with
  | nil => rfl
  | cons c behind ih =>
    simp only [matchBehind, ih]
    rfl

theorem match_ahead_eq (trie : Trie) (behind ahead : Text) :
    trie.matchAhead behind ahead = trie.deepest .ahead (·.matchBehind behind) (symbols ahead) := by
  induction ahead generalizing trie with
  | nil => rfl
  | cons c ahead ih =>
    simp only [matchAhead, ih]
    rfl

/-- What is found at the end of a way along one side. -/
def foundAt (trie : Trie) (side : Side) (found : Trie → Option Output) (edges : List Edge) :
    Option Output :=
  (trie.walk? (edges.map (⟨side, ·⟩))).bind found

theorem found_at_cons (trie : Trie) (side : Side) (found : Trie → Option Output) (edge : Edge)
    (edges : List Edge) :
    trie.foundAt side found (edge :: edges) =
      (trie.child? ⟨side, edge⟩).bind (·.foundAt side found edges) := by
  unfold foundAt
  rw [List.map_cons, walk_cons]
  cases trie.child? ⟨side, edge⟩ <;> rfl

theorem found_at_nil (trie : Trie) (side : Side) (found : Trie → Option Output) :
    trie.foundAt side found [] = found trie := rfl

theorem deepest_eq_none_iff {side : Side} {found : Trie → Option Output} {trie : Trie}
    {edges : List Edge} :
    trie.deepest side found edges = none ↔
      ∀ front, front <+: edges → trie.foundAt side found front = none := by
  induction edges generalizing trie with
  | nil => simp [deepest, found_at_nil]
  | cons edge edges ih =>
    simp only [deepest, Option.orElse_eq_orElse, Option.orElse_eq_or, Option.or_eq_none_iff,
      List.prefix_cons_iff, forall_eq_or_imp, found_at_nil]
    rw [and_comm]
    apply and_congr_right
    intro _
    cases hc : trie.child? ⟨side, edge⟩ with
    | none =>
      refine ⟨?_, fun _ => rfl⟩
      rintro _ _ ⟨front, rfl, _⟩
      rw [found_at_cons, hc]
      rfl
    | some child =>
      rw [Option.bind_some, ih]
      constructor
      · rintro h _ ⟨front, rfl, hp⟩
        rw [found_at_cons, hc]
        exact h front hp
      · intro h front hp
        have hf := h (edge :: front) ⟨front, rfl, hp⟩
        rw [found_at_cons, hc] at hf
        exact hf

/-- The search finds what stands at the end of the longest way. -/
theorem deepest_eq_some {side : Side} {found : Trie → Option Output} {trie : Trie}
    {edges : List Edge} {output : Output} (h : trie.deepest side found edges = some output) :
    ∃ front, front <+: edges ∧ trie.foundAt side found front = some output ∧
      ∀ longer, longer <+: edges → front.length < longer.length →
        trie.foundAt side found longer = none := by
  induction edges generalizing trie with
  | nil =>
    refine ⟨[], List.nil_prefix, h, ?_⟩
    intro longer hl hn
    rw [List.prefix_nil.mp hl] at hn
    exact absurd hn (Nat.lt_irrefl 0)
  | cons edge edges ih =>
    simp only [deepest, Option.orElse_eq_orElse, Option.orElse_eq_or, Option.or_eq_some_iff] at h
    rcases h with h | ⟨hn, h⟩
    · obtain ⟨child, hc, h⟩ := Option.bind_eq_some_iff.mp h
      obtain ⟨front, hp, hf, hl⟩ := ih h
      refine ⟨edge :: front, List.cons_prefix_cons.mpr ⟨rfl, hp⟩, ?_, ?_⟩
      · rw [found_at_cons, hc]
        exact hf
      · intro longer hq hn
        rcases List.prefix_cons_iff.mp hq with rfl | ⟨rest, rfl, hr⟩
        · exact absurd hn (Nat.not_lt_zero _)
        · rw [found_at_cons, hc]
          exact hl rest hr (Nat.lt_of_succ_lt_succ hn)
    · refine ⟨[], List.nil_prefix, h, ?_⟩
      intro longer hq hl
      rcases List.prefix_cons_iff.mp hq with rfl | ⟨rest, rfl, hr⟩
      · exact absurd hl (Nat.lt_irrefl 0)
      · rw [found_at_cons]
        cases hc : trie.child? ⟨side, edge⟩ with
        | none => rfl
        | some child =>
          rw [hc, Option.bind_some] at hn
          exact deepest_eq_none_iff.mp hn rest hr

/-- A walk ahead and a search behind from its end look at the ends of routes. -/
theorem found_ahead_eq (trie : Trie) (behind : Text) (front : List Edge) :
    trie.foundAt .ahead (·.matchBehind behind) front =
      (trie.walk? (front.map (⟨.ahead, ·⟩))).bind
        (·.deepest .behind (·.node.output) (symbols behind)) := by
  simp only [foundAt, match_behind_eq]

theorem output_route (trie : Trie) (front back : List Edge) :
    trie.output? (route front back) =
      (trie.walk? (front.map (⟨.ahead, ·⟩))).bind (·.foundAt .behind (·.node.output) back) := by
  unfold output? route
  rw [walk_append]
  cases trie.walk? (front.map (⟨.ahead, ·⟩)) <;> rfl

theorem found_ahead_eq_none_iff {trie : Trie} {behind : Text} {front : List Edge} :
    trie.foundAt .ahead (·.matchBehind behind) front = none ↔
      ∀ back, back <+: symbols behind → trie.output? (route front back) = none := by
  rw [found_ahead_eq]
  simp only [output_route]
  cases trie.walk? (front.map (⟨.ahead, ·⟩)) with
  | none => simp
  | some below => exact deepest_eq_none_iff

theorem match_ahead_eq_none_iff {trie : Trie} {behind ahead : Text} :
    trie.matchAhead behind ahead = none ↔ ∀ front back, front <+: symbols ahead →
      back <+: symbols behind → trie.output? (route front back) = none := by
  rw [match_ahead_eq, deepest_eq_none_iff]
  simp only [found_ahead_eq_none_iff]
  exact ⟨fun h front back hf => h front hf back, fun h front hf back => h front back hf⟩

/-- The search prefers the longest way ahead, and from its end the longest way behind. -/
theorem match_ahead_eq_some {trie : Trie} {behind ahead : Text} {output : Output}
    (h : trie.matchAhead behind ahead = some output) :
    ∃ front back, front <+: symbols ahead ∧ back <+: symbols behind ∧
      trie.output? (route front back) = some output ∧
      ∀ front' back', front' <+: symbols ahead → back' <+: symbols behind →
        trie.output? (route front' back') ≠ none →
        front'.length < front.length ∨ front' = front ∧ back'.length ≤ back.length := by
  rw [match_ahead_eq] at h
  obtain ⟨front, hf, ho, hl⟩ := deepest_eq_some h
  rw [found_ahead_eq] at ho
  obtain ⟨below, hw, ho⟩ := Option.bind_eq_some_iff.mp ho
  obtain ⟨back, hb, ho, hm⟩ := deepest_eq_some ho
  refine ⟨front, back, hf, hb, ?_, ?_⟩
  · rw [output_route, hw]
    exact ho
  · intro front' back' hf' hb' hs
    rcases Nat.lt_trichotomy front'.length front.length with hlt | heq | hgt
    · exact .inl hlt
    · have he : front' = front := by
        rw [List.prefix_iff_eq_take.mp hf', List.prefix_iff_eq_take.mp hf, heq]
      refine .inr ⟨he, Nat.not_lt.mp fun hn => hs ?_⟩
      rw [he, output_route, hw]
      exact hm back' hb' hn
    · exact absurd (found_ahead_eq_none_iff.mp (hl front' hf' hgt) back' hb') hs

end Trie

namespace Token

/-- The token stands where `rest` starts. The boundary stands only where nothing follows. -/
def Opens (token rest : Text) : Prop :=
  if token = boundary then rest = [] else token <+: rest

/-- The token stands where `before` ends. The boundary stands only where nothing comes before. -/
def Closes (token before : Text) : Prop :=
  if token = boundary then before = [] else token <:+ before

instance (token rest : Text) : Decidable (Opens token rest) :=
  inferInstanceAs (Decidable (if token = boundary then rest = [] else token <+: rest))

instance (token before : Text) : Decidable (Closes token before) :=
  inferInstanceAs (Decidable (if token = boundary then before = [] else token <:+ before))

theorem opens_nil (rest : Text) : Opens [] rest := List.nil_prefix

theorem closes_nil (before : Text) : Closes [] before := List.nil_suffix

theorem opens_iff_of_ne {token rest : Text} (h : token ≠ boundary) :
    Opens token rest ↔ token <+: rest := by
  rw [Opens, if_neg h]

theorem closes_iff_of_ne {token before : Text} (h : token ≠ boundary) :
    Closes token before ↔ token <:+ before := by
  rw [Closes, if_neg h]

theorem length_edges (token : Text) : (edges token).length = token.length := by
  unfold edges
  split
  · rename_i hb
    rw [hb]
    rfl
  · exact List.length_map _

theorem letters_prefix_iff {token rest : Text} :
    token.map .letter <+: symbols rest ↔ token <+: rest := by
  induction token generalizing rest with
  | nil => simp
  | cons c token ih =>
    cases rest with
    | nil => simp [symbols]
    | cons d rest =>
      have hs : symbols (d :: rest) = .letter d :: symbols rest := rfl
      rw [List.map_cons, hs, List.cons_prefix_cons, List.cons_prefix_cons, ih, Edge.letter.injEq]

theorem edges_prefix_iff {token rest : Text} :
    edges token <+: symbols rest ↔ Opens token rest := by
  unfold edges Opens
  split
  · cases rest <;> simp [symbols]
  · exact letters_prefix_iff

theorem edges_reverse_prefix_iff {token before : Text} :
    (edges token).reverse <+: symbols before.reverse ↔ Closes token before := by
  unfold edges Closes
  split
  · rw [List.reverse_singleton, ← @List.reverse_eq_nil_iff _ before]
    cases before.reverse <;> simp [symbols]
  · rw [← List.map_reverse, letters_prefix_iff, List.reverse_prefix]

end Token

namespace Choice

/-- At a position of a word the source follows, the right token after it, and the left token
comes before. -/
def AppliesAt (choice : Choice) (word : Text) (position : Nat) : Prop :=
  (∃ rest, word.drop position = choice.rule.source ++ rest ∧ Token.Opens choice.right rest) ∧
    Token.Closes choice.left (word.take position)

theorem source_prefix_iff {source token ahead : Text} :
    source.map .letter ++ Token.edges token <+: symbols ahead ↔
      ∃ rest, ahead = source ++ rest ∧ Token.Opens token rest := by
  induction source generalizing ahead with
  | nil => simp [Token.edges_prefix_iff]
  | cons c source ih =>
    cases ahead with
    | nil => simp [symbols]
    | cons d ahead =>
      have hs : symbols (d :: ahead) = .letter d :: symbols ahead := rfl
      rw [List.map_cons, List.cons_append, hs, List.cons_prefix_cons, ih]
      simp only [Edge.letter.injEq, List.cons_append, List.cons.injEq, and_assoc, exists_and_left,
        eq_comm (a := c)]

theorem applies_at_iff {choice : Choice} {word : Text} {position : Nat} :
    choice.AppliesAt word position ↔ choice.ahead <+: symbols (word.drop position) ∧
      choice.behind <+: symbols (word.take position).reverse := by
  rw [ahead, source_prefix_iff, behind, Token.edges_reverse_prefix_iff]
  rfl

theorem applies_at_source_iff {choice : Choice} {before after : Text} :
    choice.AppliesAt (before ++ choice.rule.source ++ after) before.length ↔
      Token.Opens choice.right after ∧ Token.Closes choice.left before := by
  unfold AppliesAt
  rw [List.append_assoc, List.drop_left, List.take_left]
  simp

theorem exists_of_mem {rules : List Rule} {rule : Rule} (hm : rule ∈ rules) {right left : Text}
    (hr : right ∈ rule.right.alternatives) (hl : left ∈ rule.left.alternatives) :
    ∃ choice : Choice, choice.From rules ∧ choice.rule = rule ∧ choice.right = right ∧
      choice.left = left := by
  obtain ⟨index, hi⟩ := List.mem_iff_getElem?.mp hm
  exact ⟨⟨index, rule, right, left⟩, ⟨hi, hr, hl⟩, rfl, rfl, rfl⟩

theorem length_ahead (choice : Choice) :
    choice.ahead.length = choice.rule.source.length + choice.right.length := by
  simp [ahead, Token.length_edges]

theorem length_behind (choice : Choice) : choice.behind.length = choice.left.length := by
  simp [behind, Token.length_edges]

/-- The source with the right token decides, then the left token, then the source alone, and at
last the place of the rule. -/
def rank (choice : Choice) : Nat ×ₗ Nat ×ₗ Nat ×ₗ Nat :=
  toLex (choice.rule.source.length + choice.right.length, toLex (choice.left.length,
    toLex (choice.rule.source.length, choice.index)))

/-- Of the choices that apply at a position this one has the greatest rank. -/
structure Best (rules : List Rule) (word : Text) (position : Nat) (choice : Choice) : Prop where
  from_rules : choice.From rules
  applies : choice.AppliesAt word position
  greatest : ∀ other : Choice, other.From rules → other.AppliesAt word position →
    other.rank ≤ choice.rank

theorem Best.unique {rules : List Rule} {word : Text} {position : Nat} {choice other : Choice}
    (h : choice.Best rules word position) (ho : other.Best rules word position) :
    choice.rule = other.rule := by
  have he : choice.rank = other.rank :=
    le_antisymm (ho.greatest choice h.from_rules h.applies) (h.greatest other ho.from_rules ho.applies)
  have hi : choice.index = other.index := by
    simp only [rank, toLex_inj, Prod.mk.injEq] at he
    exact he.2.2.2
  have hr := h.from_rules.1
  rw [hi, ho.from_rules.1] at hr
  exact (Option.some.inj hr).symm

end Choice

namespace RuleTrie

theorem best_at_eq_none_iff {rules : List Rule} {word : Text} {position : Nat} :
    (ofRules rules).bestAt? word position = none ↔
      ∀ choice : Choice, choice.From rules → ¬choice.AppliesAt word position := by
  unfold bestAt? best?
  rw [Trie.match_ahead_eq_none_iff]
  constructor
  · intro h choice hc ha
    obtain ⟨hf, hb⟩ := Choice.applies_at_iff.mp ha
    exact output_eq_none_iff.mp (h _ _ hf hb) choice hc rfl
  · intro h front back hf hb
    rw [output_eq_none_iff]
    intro choice hc hp
    obtain ⟨rfl, rfl⟩ := route_inj.mp hp
    exact h choice hc (Choice.applies_at_iff.mpr ⟨hf, hb⟩)

theorem best_at_eq_some {rules : List Rule} {word : Text} {position : Nat} {output : Output}
    (h : (ofRules rules).bestAt? word position = some output) :
    ∃ choice : Choice, choice.Best rules word position ∧ choice.rule.output = output := by
  obtain ⟨front, back, hf, hb, ho, hg⟩ := Trie.match_ahead_eq_some h
  obtain ⟨choice, hk, rfl⟩ := output_eq_some_iff.mp ho
  obtain ⟨rfl, rfl⟩ := route_inj.mp hk.path_eq
  refine ⟨choice, ⟨hk.from_rules, Choice.applies_at_iff.mpr ⟨hf, hb⟩, ?_⟩, rfl⟩
  intro other hc ha
  obtain ⟨hf', hb'⟩ := Choice.applies_at_iff.mp ha
  have hs : (ofRules rules).root.output? other.path ≠ none :=
    fun hn => output_eq_none_iff.mp hn other hc rfl
  have hle := hg _ _ hf' hb' hs
  simp only [Choice.length_ahead, Choice.length_behind] at hle
  rcases hle with hl | ⟨ha, hl⟩
  · exact Prod.Lex.toLex_le_toLex.mpr (.inl hl)
  · have hal := congrArg List.length ha
    rw [Choice.length_ahead, Choice.length_ahead] at hal
    refine Prod.Lex.toLex_le_toLex.mpr (.inr ⟨hal, ?_⟩)
    rcases Nat.lt_or_eq_of_le hl with hl | hl
    · exact Prod.Lex.toLex_le_toLex.mpr (.inl hl)
    · have hbl : other.behind.length = choice.behind.length := by
        rw [Choice.length_behind, Choice.length_behind, hl]
      have hbe : other.behind = choice.behind := by
        rw [List.prefix_iff_eq_take.mp hb', List.prefix_iff_eq_take.mp hb, hbl]
      exact Prod.Lex.toLex_le_toLex.mpr
        (.inr ⟨hl, hk.greatest other hc (route_inj.mpr ⟨ha, hbe⟩)⟩)

theorem best_at_eq_some_iff {rules : List Rule} {word : Text} {position : Nat} {output : Output} :
    (ofRules rules).bestAt? word position = some output ↔
      ∃ choice : Choice, choice.Best rules word position ∧ choice.rule.output = output := by
  refine ⟨best_at_eq_some, ?_⟩
  intro hg
  obtain ⟨choice, hb, rfl⟩ := hg
  cases h : (ofRules rules).bestAt? word position with
  | none => exact absurd hb.applies (best_at_eq_none_iff.mp h choice hb.from_rules)
  | some output =>
    obtain ⟨other, ho, rfl⟩ := best_at_eq_some h
    rw [hb.unique ho]

end RuleTrie

end LetterToSound
