import LetterToSound.Proofs.Tiling

namespace LetterToSound

/-- The letter that is all of a token. -/
def Token.letter? : Text → Option Char
  | [c] => if [c] = boundary then none else some c
  | _ => none

theorem Token.letter_eq_some_iff {token : Text} {c : Char} :
    letter? token = some c ↔ token = [c] ∧ [c] ≠ boundary := by
  unfold letter?
  split
  · split
    · rename_i hb
      simp only [reduceCtorEq, List.cons.injEq, and_true, false_iff, not_and]
      rintro rfl
      exact not_not_intro hb
    · rename_i hb
      simp only [Option.some.injEq, List.cons.injEq, and_true]
      constructor
      · rintro rfl
        exact ⟨rfl, hb⟩
      · exact And.left
  · rename_i hn
    simp only [reduceCtorEq, false_iff, not_and]
    rintro rfl
    exact absurd rfl (hn c)

namespace Context

/-- The nearest letter is enough for the context. The boundary is written as its sign. -/
def Admits (context : Context) (neighbour : Char) : Prop :=
  ∀ tokens, context.tokens? = some tokens → [neighbour] ∈ tokens

instance (context : Context) (neighbour : Char) : Decidable (context.Admits neighbour) :=
  match h : context.tokens? with
  | none => .isTrue (by simp [Admits, h])
  | some tokens => decidable_of_iff ([neighbour] ∈ tokens) (by simp [Admits, h])

theorem Admits.mem_alternatives {context : Context} {neighbour : Char}
    (h : context.Admits neighbour) :
    [] ∈ context.alternatives ∨ [neighbour] ∈ context.alternatives := by
  unfold alternatives
  cases ht : context.tokens? with
  | none => exact .inl (List.mem_singleton.mpr rfl)
  | some tokens => exact .inr (h tokens ht)

theorem Admits.opens {context : Context} {after : Text} (h : context.Admits (after.headD '$'))
    (hb : '$' ∉ after) : ∃ token ∈ context.alternatives, Token.Opens token after := by
  rcases h.mem_alternatives with hm | hm
  · exact ⟨[], hm, Token.opens_nil after⟩
  · refine ⟨_, hm, ?_⟩
    cases after with
    | nil => rfl
    | cons c after =>
      have hc : [c] ≠ Token.boundary := fun he => hb (by simp [(List.cons.inj he).1])
      exact (Token.opens_iff_of_ne hc).mpr ⟨after, rfl⟩

theorem Admits.closes {context : Context} {before : Text}
    (h : context.Admits (before.getLastD '$')) (hb : '$' ∉ before) :
    ∃ token ∈ context.alternatives, Token.Closes token before := by
  rcases h.mem_alternatives with hm | hm
  · exact ⟨[], hm, Token.closes_nil before⟩
  · refine ⟨_, hm, ?_⟩
    cases before using List.reverseRecOn with
    | nil => rfl
    | append_singleton before c =>
      have hc : [c] ≠ Token.boundary := fun he => hb (by simp [(List.cons.inj he).1])
      rw [List.getLastD_concat]
      exact (Token.closes_iff_of_ne hc).mpr ⟨before, rfl⟩

end Context

namespace RuleBook

/-- A letter is a token of one letter, and not the boundary. -/
def IsLetter (book : RuleBook) (c : Char) : Prop :=
  [c] ≠ Token.boundary ∧ ∃ all, book.vars.all? = some all ∧ [c] ∈ all

/-- Some rule for the letter lists a token that comes next. -/
def Follows (book : RuleBook) (c : Char) (after : Text) : Prop :=
  ∃ rule ∈ book.rules, rule.source = [c] ∧
    ∃ tokens, rule.right.tokens? = some tokens ∧ ∃ token ∈ tokens, token <+: after

/-- Words of letters, where each of the bound letters ends the word or comes before a token that
is listed for it. -/
structure Spells (book : RuleBook) (bound : List Char) (word : Text) : Prop where
  nonempty : word ≠ []
  letters : ∀ c ∈ word, book.IsLetter c
  followed : ∀ before c after, word = before ++ c :: after → c ∈ bound →
    after = [] ∨ book.Follows c after

def letters (book : RuleBook) : List Char :=
  (book.vars.all?.getD []).filterMap Token.letter?

theorem mem_letters {book : RuleBook} {c : Char} : c ∈ book.letters ↔ book.IsLetter c := by
  unfold letters IsLetter
  cases book.vars.all? with
  | none => simp
  | some all => simp [Token.letter_eq_some_iff, and_comm]

def neighbours (book : RuleBook) : List Char := '$' :: book.letters

def rulesFor (book : RuleBook) (c : Char) : List Rule := book.rules.filter (·.source = [c])

/-- The rules for a letter that have this left context, or none, admit all that may come after. -/
def FillsAhead (book : RuleBook) (c : Char) (left : Context) : Prop :=
  ∀ next ∈ book.neighbours, ∃ rule ∈ book.rulesFor c,
    (rule.left = .any ∨ rule.left = left) ∧ rule.right.Admits next

-- Every quantifier over letters is told its list, so that no other letters are tried.
instance (book : RuleBook) (c : Char) (left : Context) : Decidable (book.FillsAhead c left) :=
  List.decidableBAll (fun next => ∃ rule ∈ book.rulesFor c,
    (rule.left = .any ∨ rule.left = left) ∧ rule.right.Admits next) book.neighbours

/-- A finite look at the rules. Only the bound letters need a listed token after them. -/
structure Covers (book : RuleBook) (bound : List Char) : Prop where
  sources : ∀ rule ∈ book.rules, ∀ c ∈ rule.source, c ∈ book.letters
  /-- No longer source takes in a bound letter, and its rules do not ask what comes before. -/
  alone : ∀ c ∈ bound, ∀ rule ∈ book.rules, c ∈ rule.source →
    rule.source = [c] ∧ rule.left = .any ∧ rule.right.tokens? ≠ none
  ends : ∀ c ∈ bound, ∃ rule ∈ book.rulesFor c, rule.right.Admits '$'
  free : ∀ c ∈ book.letters, c ∈ bound ∨ ∀ last ∈ book.neighbours,
    ∃ rule ∈ book.rulesFor c, rule.left.Admits last ∧ book.FillsAhead c rule.left

instance (book : RuleBook) (bound : List Char) : Decidable (book.Covers bound) :=
  decidable_of_iff
    ((book.rules.all fun rule => rule.source.all (· ∈ book.letters)) ∧
      (bound.all fun c => book.rules.all fun rule => c ∉ rule.source ∨
        rule.source = [c] ∧ rule.left = .any ∧ rule.right.tokens? ≠ none) ∧
      (bound.all fun c => (book.rulesFor c).any (·.right.Admits '$')) ∧
      book.letters.all fun c => c ∈ bound ∨ book.neighbours.all fun last =>
        (book.rulesFor c).any fun rule => rule.left.Admits last ∧ book.FillsAhead c rule.left)
    (by
      simp only [List.all_eq_true, List.any_eq_true, decide_eq_true_eq, ← imp_iff_not_or]
      exact ⟨fun h => ⟨h.1, h.2.1, h.2.2.1, h.2.2.2⟩,
        fun h => ⟨h.sources, h.alone, h.ends, h.free⟩⟩)

theorem mem_rules_for {book : RuleBook} {c : Char} {rule : Rule} :
    rule ∈ book.rulesFor c ↔ rule ∈ book.rules ∧ rule.source = [c] := by
  simp [rulesFor]

theorem head_mem_neighbours {book : RuleBook} {t : Text} (h : ∀ c ∈ t, c ∈ book.letters) :
    t.headD '$' ∈ book.neighbours := by
  cases t with
  | nil => exact List.mem_cons_self
  | cons c t => exact List.mem_cons_of_mem _ (h c List.mem_cons_self)

theorem last_mem_neighbours {book : RuleBook} {t : Text} (h : ∀ c ∈ t, c ∈ book.letters) :
    t.getLastD '$' ∈ book.neighbours := by
  cases t using List.reverseRecOn with
  | nil => exact List.mem_cons_self
  | append_singleton t c =>
    rw [List.getLastD_concat]
    exact List.mem_cons_of_mem _ (h c (by simp))

theorem boundary_not_mem {book : RuleBook} {t : Text} (h : ∀ c ∈ t, c ∈ book.letters) :
    '$' ∉ t :=
  fun hm => (mem_letters.mp (h '$' hm)).1 rfl

theorem applies_of_tokens {book : RuleBook} {c : Char} {rule : Rule}
    (hm : rule ∈ book.rulesFor c) {before after right left : Text}
    (hr : right ∈ rule.right.alternatives) (ho : Token.Opens right after)
    (hl : left ∈ rule.left.alternatives) (hc : Token.Closes left before) :
    ∃ choice : Choice, choice.From book.rules ∧
      choice.AppliesAt (before ++ c :: after) before.length := by
  obtain ⟨hrule, hs⟩ := mem_rules_for.mp hm
  obtain ⟨choice, hfrom, rfl, rfl, rfl⟩ := Choice.exists_of_mem hrule hr hl
  refine ⟨choice, hfrom, ?_⟩
  have happlies := Choice.applies_at_source_iff.mpr ⟨ho, hc⟩
  rw [hs, List.append_assoc] at happlies
  exact happlies

namespace Covers

variable {book : RuleBook} {bound : List Char}

theorem applies_free (h : book.Covers bound) {before after : Text} {c : Char}
    (hb : ∀ d ∈ before, d ∈ book.letters) (ha : ∀ d ∈ after, d ∈ book.letters)
    (hc : c ∈ book.letters) (hn : c ∉ bound) :
    ∃ choice : Choice, choice.From book.rules ∧
      choice.AppliesAt (before ++ c :: after) before.length := by
  have hfree := (h.free c hc).resolve_left hn
  obtain ⟨rule, hm, hlast, hfill⟩ := hfree _ (last_mem_neighbours hb)
  obtain ⟨other, hm', hleft, hnext⟩ := hfill _ (head_mem_neighbours ha)
  have hlast' : other.left.Admits (before.getLastD '$') := by
    rcases hleft with he | he
    · rw [he]
      intro tokens ht
      cases ht
    · rw [he]
      exact hlast
  obtain ⟨right, hr, ho⟩ := hnext.opens (boundary_not_mem ha)
  obtain ⟨left, hl, hcloses⟩ := hlast'.closes (boundary_not_mem hb)
  exact applies_of_tokens hm' hr ho hl hcloses

theorem applies_bound (h : book.Covers bound) {before after : Text} {c : Char}
    (ha : ∀ d ∈ after, d ∈ book.letters) (hc : c ∈ bound)
    (hf : after = [] ∨ book.Follows c after) :
    ∃ choice : Choice, choice.From book.rules ∧
      choice.AppliesAt (before ++ c :: after) before.length := by
  have hany (rule : Rule) (hm : rule ∈ book.rulesFor c) : [] ∈ rule.left.alternatives := by
    obtain ⟨hrule, hs⟩ := mem_rules_for.mp hm
    have hleft := (h.alone c hc rule hrule (by simp [hs])).2.1
    rw [hleft]
    exact List.mem_singleton.mpr rfl
  have hnil : Token.Closes [] before := Token.closes_nil before
  rcases hf with rfl | ⟨rule, hrule, hs, tokens, ht, token, hm, hp⟩
  · obtain ⟨rule, hm, hend⟩ := h.ends c hc
    have hopens : ∃ token ∈ rule.right.alternatives, Token.Opens token [] :=
      hend.opens List.not_mem_nil
    obtain ⟨right, hr, ho⟩ := hopens
    exact applies_of_tokens hm hr ho (hany rule hm) hnil
  · have hrule' : rule ∈ book.rulesFor c := mem_rules_for.mpr ⟨hrule, hs⟩
    have hr : token ∈ rule.right.alternatives := by
      unfold Context.alternatives
      rw [ht]
      exact hm
    have hb : token ≠ Token.boundary := by
      rintro rfl
      exact boundary_not_mem ha (hp.subset List.mem_cons_self)
    exact applies_of_tokens hrule' hr ((Token.opens_iff_of_ne hb).mpr hp) (hany rule hrule') hnil

/-- At every letter of a word that is spelled with the rules, one of them applies. -/
theorem applies (h : book.Covers bound) {word : Text} (hw : book.Spells bound word)
    {position : Nat} (hp : position < word.length) :
    ∃ choice : Choice, choice.From book.rules ∧ choice.AppliesAt word position := by
  have hcut : word = word.take position ++ word[position] :: word.drop (position + 1) := by
    rw [← List.drop_eq_getElem_cons hp, List.take_append_drop]
  have hl : (word.take position).length = position := List.length_take_of_le (Nat.le_of_lt hp)
  have hletters (c : Char) (hc : c ∈ word) : c ∈ book.letters := mem_letters.mpr (hw.letters c hc)
  have hb : ∀ d ∈ word.take position, d ∈ book.letters :=
    fun d hd => hletters d (List.mem_of_mem_take hd)
  have ha : ∀ d ∈ word.drop (position + 1), d ∈ book.letters :=
    fun d hd => hletters d (List.mem_of_mem_drop hd)
  have happlies : ∃ choice : Choice, choice.From book.rules ∧ choice.AppliesAt
      (word.take position ++ word[position] :: word.drop (position + 1))
      (word.take position).length := by
    by_cases hc : word[position] ∈ bound
    · exact h.applies_bound ha hc (hw.followed _ _ _ hcut hc)
    · exact h.applies_free hb ha (hletters _ (List.getElem_mem hp)) hc
  rwa [← hcut, hl] at happlies

/-- Tiles that cover a word spell it with the rules. -/
theorem spells_of_tiled (h : book.Covers bound) {word : Text} (hw : word ≠ [])
    {tiles : List Choice} (ht : Choice.Tiled book.rules word 0 tiles)
    (hs : Choice.sources tiles = word) : book.Spells bound word := by
  refine
    { nonempty := hw
      letters := ?_
      followed := ?_ }
  · intro c hc
    rw [← hs] at hc
    obtain ⟨tile, htile, hm⟩ := List.mem_flatMap.mp hc
    exact mem_letters.mp (h.sources tile.rule (ht.from_rules tile htile).mem c hm)
  · intro before c after hcut hc
    obtain ⟨tile, start, front, back, hbest, hsource, hl⟩ := ht.exists_tile (hs.trans hcut)
    have hrule := hbest.from_rules.mem
    obtain ⟨hone, _, hsome⟩ := h.alone c hc tile.rule hrule (by simp [hsource])
    -- The tile is the bound letter alone, so it stands where the letter stands.
    have hfront : front = [] := by
      have hlen := congrArg List.length (hsource.symm.trans hone)
      simp only [List.length_append, List.length_cons, List.length_nil] at hlen
      exact List.eq_nil_of_length_eq_zero (by omega)
    have hstart : start = before.length := by
      rw [hfront, List.length_nil] at hl
      omega
    obtain ⟨rest, hd, ho⟩ := hbest.applies.1
    rw [hcut, hstart, List.drop_left, hone] at hd
    obtain ⟨_, rfl⟩ := List.cons.inj hd
    obtain ⟨tokens, htokens⟩ := Option.ne_none_iff_exists'.mp hsome
    have hright : tile.right ∈ tokens := by
      have hr := hbest.from_rules.2.1
      unfold Context.alternatives at hr
      rw [htokens] at hr
      exact hr
    unfold Token.Opens at ho
    split at ho
    · exact .inl ho
    · exact .inr ⟨tile.rule, hrule, hone, tokens, htokens, tile.right, hright, ho⟩

theorem transcribes_iff (h : book.Covers bound) (hf : ∀ rule ∈ book.rules, rule.Filled)
    (hr : book.rules ≠ []) {mode : Mode} {word : Text} :
    (∃ result, (RuleTrie.ofRules book.rules).transcribe mode word = .ok result) ↔
      book.Spells bound word.lower := by
  simp only [RuleTrie.transcribe_eq_ok_iff, RuleTrie.has_output_of_rules hf hr, true_and]
  constructor
  · intro hg
    obtain ⟨_, hw, segments, hs, _⟩ := hg
    obtain ⟨tiles, ht, hsources, _⟩ := (RuleTrie.segments_eq_some_iff_tiled hf).mp hs
    exact h.spells_of_tiled hw ht hsources
  · intro hw
    cases hs : (RuleTrie.ofRules book.rules).segments? word.lower with
    | some segments => exact ⟨_, hw.nonempty, segments, rfl, rfl⟩
    | none =>
      obtain ⟨tiles, _, hl, hn⟩ := (RuleTrie.segments_eq_none_iff_tiled hf).mp hs
      obtain ⟨choice, hc, happlies⟩ := h.applies hw hl
      exact absurd happlies (hn choice hc)

end Covers

end RuleBook

end LetterToSound
