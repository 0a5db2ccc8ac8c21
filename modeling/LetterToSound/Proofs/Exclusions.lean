import LetterToSound.Proofs.Complements
import LetterToSound.Proofs.ContextFields

namespace LetterToSound

namespace Token

theorem opens_boundary_iff {rest : Text} : Opens boundary rest ↔ rest = [] := by
  rw [Opens, if_pos rfl]

theorem closes_boundary_iff {before : Text} : Closes boundary before ↔ before = [] := by
  rw [Closes, if_pos rfl]

/-- On a side of a place, one token is a part of the other that lies next to the place. -/
def NearPart (side : Side) (token other : Text) : Prop :=
  match side with
  | .ahead => token <+: other
  | .behind => token <:+ other

/-- Of two tokens that stand on one side of a place, one is a part of the other. -/
theorem Beside.near_part {side : Side} {before after token other : Text}
    (h : Beside side before after token) (ho : Beside side before after other)
    (hb : token ≠ boundary) (hbo : other ≠ boundary) :
    NearPart side token other ∨ NearPart side other token := by
  cases side with
  | ahead =>
    have hp : token <+: after := (opens_iff_of_ne hb).mp h
    exact List.prefix_or_prefix_of_prefix hp ((opens_iff_of_ne hbo).mp ho)
  | behind =>
    have hp : token <:+ before := (closes_iff_of_ne hb).mp h
    exact List.suffix_or_suffix_of_suffix hp ((closes_iff_of_ne hbo).mp ho)

theorem Beside.eq_boundary {side : Side} {before after token : Text}
    (h : Beside side before after token) (hn : token ≠ [])
    (hb : Beside side before after boundary) : token = boundary := by
  by_contra hne
  cases side with
  | ahead =>
    have ha : after = [] := opens_boundary_iff.mp hb
    have hp : token <+: after := (opens_iff_of_ne hne).mp h
    exact hn (List.prefix_nil.mp (ha ▸ hp))
  | behind =>
    have ha : before = [] := closes_boundary_iff.mp hb
    have hp : token <:+ before := (closes_iff_of_ne hne).mp h
    exact hn (List.suffix_nil.mp (ha ▸ hp))

end Token

namespace RuleTrie

variable {side : Side} {context : Context} {source : Text} {targets : List Text}

/-- The only rule is taken where one of the tokens that it asks for stands beside its source. -/
theorem best_of_one_eq_none_iff {before after : Text} :
    (ofRules [.beside side context source targets]).bestAt? (before ++ source ++ after)
        before.length = none ↔
      ∀ token ∈ context.alternatives, ¬Token.Beside side before after token := by
  have hm : Rule.beside side context source targets ∈ [.beside side context source targets] :=
    List.mem_singleton.mpr rfl
  rw [best_at_eq_none_iff]
  constructor
  · intro h token ht hb
    obtain ⟨choice, hc, he, rfl⟩ := Choice.exists_beside hm ht
    apply h choice hc
    have hs : choice.rule.source = source := by rw [he, Rule.beside_source]
    rw [← hs, (hc.beside he).2.applies_iff]
    exact hb
  · intro h choice hc ha
    have he := List.mem_singleton.mp hc.mem
    obtain ⟨ht, ho⟩ := hc.beside he
    have hs : choice.rule.source = source := by rw [he, Rule.beside_source]
    rw [← hs, ho.applies_iff] at ha
    exact h _ ht ha

/-- The only rule is taken there, and nothing is taken elsewhere. -/
theorem best_of_one {before after : Text} :
    (ofRules [.beside side context source targets]).bestAt? (before ++ source ++ after)
        before.length =
      if ∃ token ∈ context.alternatives, Token.Beside side before after token then
        some ⟨source.length, targets⟩
      else none := by
  cases hb : (ofRules [.beside side context source targets]).bestAt? (before ++ source ++ after)
      before.length with
  | none =>
    rw [best_of_one_eq_none_iff] at hb
    exact (if_neg fun ⟨token, ht, hs⟩ => hb token ht hs).symm
  | some output =>
    have hs : ∃ token ∈ context.alternatives, Token.Beside side before after token := by
      by_contra hn
      rw [best_of_one_eq_none_iff.mpr fun token ht hs => hn ⟨token, ht, hs⟩] at hb
      cases hb
    obtain ⟨choice, best, rfl⟩ := best_at_eq_some hb
    rw [if_pos hs, List.mem_singleton.mp best.from_rules.mem, Rule.beside_output]

end RuleTrie

namespace Context

theorem ComesTo.not_mem_nil {vars : Variables} (h : vars.Sound) {sign : Char} {t : Text}
    {tokens : List Text} (hx : ComesTo vars sign t (.ok tokens)) : [] ∉ tokens := by
  cases hx with
  | list lists =>
    rw [lists.items]
    intro hm
    obtain ⟨piece, hp, he⟩ := List.mem_map.mp hm
    exact lists.filled piece hp he
  | names parted known => exact fun hm => (clean_flatten h known [] hm).ne_nil rfl

/-- An excluded token after the source keeps the rule away, whatever else may stand there. -/
def Bars (vars : Variables) (operand : Text) (excluded : List Text) : Prop :=
  ∀ {all context}, vars.all? = some all → read vars ('-' :: operand) = .ok context →
    ∀ source targets before after, (∃ token ∈ excluded, Token.Opens token after) →
      (RuleTrie.ofRules [.beside .ahead context source targets]).bestAt?
        (before ++ source ++ after) before.length = none

/-- Where the only rule is taken, if its context on one side excludes tokens. -/
structure Excludes (all excluded : List Text) (context : Context) : Prop where
  /-- The rule waits for a token that is left. -/
  taken : ∀ side source targets before after,
    (RuleTrie.ofRules [.beside side context source targets]).bestAt? (before ++ source ++ after)
        before.length =
      if ∃ token ∈ all, token ∉ excluded ∧ Token.Beside side before after token then
        some ⟨source.length, targets⟩
      else none
  /-- At the end of a word the boundary stands alone, so it is excluded without exception. -/
  at_end : Token.boundary ∈ excluded → ∀ side source targets before after,
    Token.Beside side before after Token.boundary →
    (RuleTrie.ofRules [.beside side context source targets]).bestAt? (before ++ source ++ after)
      before.length = none
  /-- So is any token that no token that is left is a part of, nor the other way round. -/
  apart : ∀ side source targets before after, ∀ token ∈ excluded,
    Token.Beside side before after token →
    (∀ other ∈ all, other ∉ excluded →
      ¬Token.NearPart side other token ∧ ¬Token.NearPart side token other) →
    (RuleTrie.ofRules [.beside side context source targets]).bestAt? (before ++ source ++ after)
      before.length = none

theorem eq_all_but_of_read {vars : Variables} (h : vars.Sound) {all excluded : List Text}
    (hall : vars.all? = some all) {operand : Text} (hx : ComesTo vars '-' operand (.ok excluded))
    {context : Context} (hr : read vars ('-' :: operand) = .ok context) :
    context = .allBut (all.filter (· ∉ excluded)) := by
  rw [read_minus h hall hx] at hr
  split at hr
  · cases hr
  · exact (Except.ok.inj hr).symm

theorem excludes_of_operand {book : RuleBook} (h : book.Reached) {all excluded : List Text}
    (hall : book.vars.all? = some all) {operand : Text}
    (hx : ComesTo book.vars '-' operand (.ok excluded)) {context : Context}
    (hr : read book.vars ('-' :: operand) = .ok context) : Excludes all excluded context := by
  have hv : book.vars.Sound := h.sound.vars
  have hfilled : ∀ token ∈ all, token ≠ [] := fun token hm hn => hv.values_filled hall (hn ▸ hm)
  have hmem (token : Text) : token ∈ context.alternatives ↔ token ∈ all ∧ token ∉ excluded := by
    rw [eq_all_but_of_read hv hall hx hr]
    exact mem_without
  have htaken : ∀ side source targets before after,
      (RuleTrie.ofRules [.beside side context source targets]).bestAt? (before ++ source ++ after)
          before.length =
        if ∃ token ∈ all, token ∉ excluded ∧ Token.Beside side before after token then
          some ⟨source.length, targets⟩
        else none := by
    intro side source targets before after
    have hleft : (∃ token ∈ context.alternatives, Token.Beside side before after token) ↔
        ∃ token ∈ all, token ∉ excluded ∧ Token.Beside side before after token := by
      simp only [hmem, and_assoc]
    rw [RuleTrie.best_of_one, if_congr hleft rfl rfl]
  constructor
  case taken => exact htaken
  case at_end =>
    intro hx side source targets before after hb
    rw [htaken]
    refine if_neg ?_
    rintro ⟨token, hm, hn, hs⟩
    exact hn (hs.eq_boundary (hfilled token hm) hb ▸ hx)
  case apart =>
    intro side source targets before after token ht hs hapart
    rw [htaken]
    refine if_neg ?_
    rintro ⟨other, hm, hn, ho⟩
    -- The boundary stands with no other token, so it is neither of the two.
    have hb : token ≠ Token.boundary := by
      rintro rfl
      exact hn (ho.eq_boundary (hfilled other hm) hs ▸ ht)
    have hbo : other ≠ Token.boundary := by
      rintro rfl
      exact hb (hs.eq_boundary (fun he => hx.not_mem_nil hv (he ▸ ht)) ho)
    exact (hs.near_part ho hb hbo).elim (hapart other hm hn).2 (hapart other hm hn).1

/-- A token is kept away along with the letter that it begins with. -/
theorem excludes_letter_and_token :
    let book := (RuleBook.empty.readLines 1 [.ok "ALL = c, ch, h"]).book
    let context : Context := .allBut ["h", "$"]
    book.Reached ∧ book.vars.all? = some (["c", "ch", "h", "$"] : List Text) ∧
      ComesTo book.vars '-' "(c, ch)" (.ok ["c", "ch"]) ∧
      read book.vars "-(c, ch)" = .ok context ∧
      Excludes ["c", "ch", "h", "$"] ["c", "ch"] context ∧
      (RuleTrie.ofRules [.beside .ahead context "s" ["x"]]).bestAt? "sch" 0 = none ∧
      (RuleTrie.ofRules [.beside .ahead context "s" ["x"]]).bestAt? "sh" 0 = some ⟨1, ["x"]⟩ := by
  intro book context
  have h : book.Reached := RuleBook.Reached.empty.lines 1 _
  have hall : book.vars.all? = some (["c", "ch", "h", "$"] : List Text) := by decide
  have hx : ComesTo book.vars '-' "(c, ch)" (.ok ["c", "ch"]) :=
    read_operand_eq_iff.mp (by decide)
  have hr : read book.vars "-(c, ch)" = .ok context := by decide
  have he := excludes_of_operand h hall hx hr
  exact ⟨h, hall, hx, hr, he, he.taken .ahead "s" ["x"] [] "ch", he.taken .ahead "s" ["x"] [] "h"⟩

/-- A letter that is left stands there too where the token begins with it. -/
theorem letter_left_lets_token_pass :
    let book := (RuleBook.empty.readLines 1 [.ok "ALL = s, ss"]).book
    book.Reached ∧ book.vars.all? = some (["s", "ss", "$"] : List Text) ∧
      ComesTo book.vars '-' "(ss)" (.ok ["ss"]) ∧ ¬Bars book.vars "(ss)" ["ss"] := by
  intro book
  have hall : book.vars.all? = some (["s", "ss", "$"] : List Text) := by decide
  have hr : read book.vars "-(ss)" = .ok (.allBut ["s", "$"]) := by decide
  refine ⟨RuleBook.Reached.empty.lines 1 _, hall, read_operand_eq_iff.mp (by decide), fun hb => ?_⟩
  have hn := hb hall hr "s" ["x"] [] "ss" ⟨"ss", List.mem_singleton.mpr rfl, by decide⟩
  exact absurd hn (by decide)

end Context

end LetterToSound
