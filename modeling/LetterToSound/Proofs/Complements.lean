import LetterToSound.Proofs.LongestMatch
import LetterToSound.Proofs.Calls

namespace LetterToSound

namespace Token

theorem edges_injective {token other : Text} (h : edges token = edges other) : token = other := by
  have hi : Function.Injective Edge.letter := fun _ _ => Edge.letter.inj
  unfold edges at h
  split at h <;> split at h
  · rename_i ht ho
    rw [ht, ho]
  · cases other with
    | nil => cases h
    | cons c other => cases h
  · cases token with
    | nil => cases h
    | cons c token => cases h
  · exact List.map_injective_iff.mpr hi h

/-- The token stands on one side of a place, which has one text before it and one after it. -/
def Beside (side : Side) (before after token : Text) : Prop :=
  match side with
  | .ahead => Opens token after
  | .behind => Closes token before

instance (side : Side) (before after token : Text) : Decidable (Beside side before after token) :=
  match side with
  | .ahead => inferInstanceAs (Decidable (Opens token after))
  | .behind => inferInstanceAs (Decidable (Closes token before))

theorem Beside.unique {side : Side} {before after token other : Text}
    (h : Beside side before after token) (ho : Beside side before after other)
    (hl : token.length = other.length) : token = other := by
  apply edges_injective
  have he : (edges token).length = (edges other).length := by
    rw [length_edges, length_edges, hl]
  cases side with
  | ahead =>
    have hp := List.prefix_iff_eq_take.mp (edges_prefix_iff.mpr h)
    rw [hp, List.prefix_iff_eq_take.mp (edges_prefix_iff.mpr ho), he]
  | behind =>
    have hp := List.prefix_iff_eq_take.mp (edges_reverse_prefix_iff.mpr h)
    have hq := List.prefix_iff_eq_take.mp (edges_reverse_prefix_iff.mpr ho)
    rw [List.length_reverse] at hp hq
    rw [← List.reverse_inj, hp, hq, he]

/-- Of the tokens that stand on one side of a place none is longer. -/
structure Longest (side : Side) (before after : Text) (tokens : List Text) (token : Text) :
    Prop where
  mem : token ∈ tokens
  beside : Beside side before after token
  longest : ∀ other ∈ tokens, Beside side before after other → other.length ≤ token.length

end Token

/-- A rule with a context on one side only. -/
def Rule.beside (side : Side) (context : Context) (source : Text) (targets : List Text) : Rule :=
  match side with
  | .ahead => ⟨.any, source, context, targets⟩
  | .behind => ⟨context, source, .any, targets⟩

@[simp] theorem Rule.beside_source (side : Side) (context : Context) (source : Text)
    (targets : List Text) : (beside side context source targets).source = source := by
  cases side <;> rfl

@[simp] theorem Rule.beside_output (side : Side) (context : Context) (source : Text)
    (targets : List Text) :
    (beside side context source targets).output = ⟨source.length, targets⟩ := by
  cases side <;> rfl

namespace Choice

def token (choice : Choice) : Side → Text
  | .ahead => choice.right
  | .behind => choice.left

def OnlyOn (choice : Choice) : Side → Prop
  | .ahead => choice.left = []
  | .behind => choice.right = []

theorem From.beside {rules : List Rule} {choice : Choice} (h : choice.From rules) {side : Side}
    {context : Context} {source : Text} {targets : List Text}
    (hc : choice.rule = .beside side context source targets) :
    choice.token side ∈ context.alternatives ∧ choice.OnlyOn side := by
  obtain ⟨_, hr, hl⟩ := h
  rw [hc] at hr hl
  cases side with
  | ahead => exact ⟨hr, List.mem_singleton.mp hl⟩
  | behind => exact ⟨hl, List.mem_singleton.mp hr⟩

theorem OnlyOn.applies_iff {choice : Choice} {side : Side} (h : choice.OnlyOn side)
    {before after : Text} :
    choice.AppliesAt (before ++ choice.rule.source ++ after) before.length ↔
      Token.Beside side before after (choice.token side) := by
  rw [applies_at_source_iff]
  cases side with
  | ahead =>
    have hl : choice.left = [] := h
    rw [hl]
    exact and_iff_left (Token.closes_nil before)
  | behind =>
    have hr : choice.right = [] := h
    rw [hr]
    exact and_iff_right (Token.opens_nil after)

/-- Between choices of one source on one side, the rank goes by the token. -/
theorem OnlyOn.length_le {choice other : Choice} {side : Side} (h : choice.OnlyOn side)
    (ho : other.OnlyOn side) (hs : choice.rule.source = other.rule.source)
    (hr : choice.rank ≤ other.rank) : (choice.token side).length ≤ (other.token side).length := by
  simp only [rank, Prod.Lex.toLex_le_toLex, hs] at hr
  cases side with
  | ahead =>
    simp only [token]
    omega
  | behind =>
    have hc : choice.right = [] := h
    have hd : other.right = [] := ho
    simp only [hc, hd, Nat.lt_irrefl, false_or, true_and] at hr
    simp only [token]
    omega

end Choice

theorem Choice.exists_beside {rules : List Rule} {side : Side} {context : Context} {source : Text}
    {targets : List Text} (hm : Rule.beside side context source targets ∈ rules) {token : Text}
    (ht : token ∈ context.alternatives) :
    ∃ choice : Choice, choice.From rules ∧
      choice.rule = .beside side context source targets ∧ choice.token side = token := by
  have hany : [] ∈ Context.any.alternatives := List.mem_singleton.mpr rfl
  cases side with
  | ahead =>
    obtain ⟨choice, hc, he, hk, _⟩ := Choice.exists_of_mem hm ht hany
    exact ⟨choice, hc, he, hk⟩
  | behind =>
    obtain ⟨choice, hc, he, _, hk⟩ := Choice.exists_of_mem hm hany ht
    exact ⟨choice, hc, he, hk⟩

namespace RuleTrie

section

variable {side : Side} {admitted excluded : Context} {source : Text}
  {targets others : List Text} {rules : List Rule}
  (hr : rules.Perm [.beside side admitted source targets, .beside side excluded source others])

include hr

theorem rule_of_two {choice : Choice} (h : choice.From rules) :
    choice.rule = .beside side admitted source targets ∨
      choice.rule = .beside side excluded source others := by
  simpa using hr.mem_iff.mp h.mem

theorem exists_choice_of_two {token : Text}
    (ht : token ∈ admitted.alternatives ++ excluded.alternatives) :
    ∃ choice : Choice, choice.From rules ∧ choice.rule.source = source ∧
      choice.OnlyOn side ∧ choice.token side = token := by
  rcases List.mem_append.mp ht with ht | ht
  · have hm : .beside side admitted source targets ∈ rules := hr.mem_iff.mpr List.mem_cons_self
    obtain ⟨choice, hc, he, hk⟩ := Choice.exists_beside hm ht
    exact ⟨choice, hc, by simp [he], (hc.beside he).2, hk⟩
  · have hm : .beside side excluded source others ∈ rules := hr.mem_iff.mpr (by simp)
    obtain ⟨choice, hc, he, hk⟩ := Choice.exists_beside hm ht
    exact ⟨choice, hc, by simp [he], (hc.beside he).2, hk⟩

theorem choice_of_two {choice : Choice} (h : choice.From rules) :
    choice.rule.source = source ∧ choice.OnlyOn side ∧
      choice.token side ∈ admitted.alternatives ++ excluded.alternatives := by
  rcases rule_of_two hr h with he | he
  · obtain ⟨hm, ho⟩ := h.beside he
    exact ⟨by simp [he], ho, List.mem_append_left _ hm⟩
  · obtain ⟨hm, ho⟩ := h.beside he
    exact ⟨by simp [he], ho, List.mem_append_right _ hm⟩

theorem best_of_two_eq_none {before after : Text}
    (h : ∀ token ∈ admitted.alternatives ++ excluded.alternatives,
      ¬Token.Beside side before after token) :
    (ofRules rules).bestAt? (before ++ source ++ after) before.length = none := by
  rw [best_at_eq_none_iff]
  intro choice hc ha
  obtain ⟨hs, ho, hm⟩ := choice_of_two hr hc
  rw [← hs, ho.applies_iff] at ha
  exact h _ hm ha

/-- What is found belongs to the longest token of either context. -/
theorem best_of_two {before after token : Text}
    (h : Token.Longest side before after (admitted.alternatives ++ excluded.alternatives) token) :
    token ∈ admitted.alternatives ∧ (ofRules rules).bestAt? (before ++ source ++ after)
        before.length = some ⟨source.length, targets⟩ ∨
      token ∈ excluded.alternatives ∧ (ofRules rules).bestAt? (before ++ source ++ after)
        before.length = some ⟨source.length, others⟩ := by
  obtain ⟨choice, hc, hs, ho, hk⟩ := exists_choice_of_two hr h.mem
  have happlies : choice.AppliesAt (before ++ source ++ after) before.length := by
    rw [← hs, ho.applies_iff, hk]
    exact h.beside
  cases hb : (ofRules rules).bestAt? (before ++ source ++ after) before.length with
  | none => exact absurd happlies (best_at_eq_none_iff.mp hb choice hc)
  | some output =>
    obtain ⟨best, hbest, rfl⟩ := best_at_eq_some hb
    obtain ⟨hsource, honly, hm⟩ := choice_of_two hr hbest.from_rules
    have hstands : Token.Beside side before after (best.token side) := by
      rw [← honly.applies_iff, hsource]
      exact hbest.applies
    -- The best choice has a token at least as long, so it has the very same token.
    have hle := ho.length_le honly (hs.trans hsource.symm) (hbest.greatest choice hc happlies)
    rw [hk] at hle
    have htoken : token = best.token side :=
      h.beside.unique hstands (Nat.le_antisymm hle (h.longest _ hm hstands))
    rw [htoken]
    rcases rule_of_two hr hbest.from_rules with he | he
    · exact .inl ⟨(hbest.from_rules.beside he).1, by rw [he, Rule.beside_output]⟩
    · exact .inr ⟨(hbest.from_rules.beside he).1, by rw [he, Rule.beside_output]⟩

end

end RuleTrie

namespace Context

/-- What a list or the name of a variable stands for, where it is all of a context. A name with a
sign in it is read as several names, and a wildcard stands for no tokens. -/
inductive Operand (vars : Variables) : Text → List Text → Prop
  | list {field : Text} {tokens : List Text} (read : readList field = .ok tokens) :
      Operand vars field tokens
  | named {name : Text} {tokens : List Text} (no_plus : '+' ∉ name) (no_minus : '-' ∉ name)
      (found : vars.get? name = some tokens) (proper : tokens ≠ [Token.wildcard]) :
      Operand vars name tokens

theorem map_m_find_one {vars : Variables} {name : Text} {tokens : List Text} (h : vars.Sound)
    (hg : vars.get? name = some tokens) : [name].mapM vars.find = .ok [tokens] := by
  have ht : name.trim = name := (h.name _ (Variables.mem_entries hg)).trimmed
  exact map_m_ok.mpr (.cons (Variables.find_eq_ok_iff.mpr (ht.symm ▸ hg)) .nil)

theorem Operand.read_tokens {vars : Variables} (h : vars.Sound) (all : List Text) {field : Text}
    {tokens : List Text} (hx : Operand vars field tokens) :
    readTokens vars all field = .ok (.only tokens) ∧
      readTokens vars all ('-' :: field) = .ok (.allBut (without all tokens)) := by
  cases hx with
  | list read =>
    obtain ⟨inner, rfl, _⟩ := read_list_cases read
    constructor <;> simp only [readTokens, read] <;> rfl
  | named no_plus no_minus found proper =>
    have hf := map_m_find_one h found
    have hn := h.name _ (Variables.mem_entries found)
    constructor
    · unfold readTokens
      split
      · exact absurd List.mem_cons_self no_minus
      · exact absurd List.mem_cons_self no_minus
      · exact absurd rfl hn.no_list
      · rw [List.splitOn_eq_singleton no_plus, hf]
        simp [bind, Except.bind, pure, Except.pure]
    · unfold readTokens
      split
      · rename_i heq
        rw [(List.cons.inj heq).2] at hn
        exact absurd rfl hn.no_list
      · rename_i names _ heq
        rw [← (List.cons.inj heq).2, List.splitOn_eq_singleton no_minus, hf]
        rfl
      · rename_i heq
        cases heq
      · rename_i hnot _
        exact absurd rfl (hnot field)

theorem Operand.not_wildcard {vars : Variables} (h : vars.Sound) {field : Text}
    {tokens : List Text} (hx : Operand vars field tokens) :
    vars.get? field ≠ some [Token.wildcard] ∧ vars.get? ('-' :: field) ≠ some [Token.wildcard] := by
  have hm : vars.get? ('-' :: field) ≠ some [Token.wildcard] :=
    fun hg => (h.name _ (Variables.mem_entries hg)).no_exclusion rfl
  refine ⟨?_, hm⟩
  cases hx with
  | list read =>
    obtain ⟨inner, rfl, _⟩ := read_list_cases read
    exact fun hg => (h.name _ (Variables.mem_entries hg)).no_list rfl
  | named _ _ found proper =>
    rw [found]
    exact fun he => proper (Option.some.inj he)

/-- An operand alone is read as its tokens, and after a minus sign as all other tokens. -/
theorem Operand.read {vars : Variables} (h : vars.Sound) {all tokens : List Text}
    (hall : vars.all? = some all) {field : Text} (hx : Operand vars field tokens)
    {admitted excluded : Context} (ha : Context.read vars field = .ok admitted)
    (he : Context.read vars ('-' :: field) = .ok excluded) :
    admitted = .only tokens ∧ excluded = .allBut (without all tokens) := by
  obtain ⟨hw, hm⟩ := hx.not_wildcard h
  obtain ⟨honly, hbut⟩ := hx.read_tokens h all
  rcases read_cases ha with ⟨hn, _⟩ | ⟨all', hall', ht, _⟩
  · exact absurd hn hw
  rcases read_cases he with ⟨hn, _⟩ | ⟨all'', hall'', ht', _⟩
  · exact absurd hn hm
  rw [hall] at hall' hall''
  cases hall'
  cases hall''
  rw [honly] at ht
  rw [hbut] at ht'
  exact ⟨(Except.ok.inj ht).symm, (Except.ok.inj ht').symm⟩

theorem mem_without {tokens removed : List Text} {token : Text} :
    token ∈ without tokens removed ↔ token ∈ tokens ∧ token ∉ removed := by
  simp [without]

/-- Two rules of one source, for a field on some side and for the field after a minus sign, share
out the places where the source stands. The longest token beside it decides: the first rule is
taken if the token is listed, the second if it is not, and none if there is no such token. -/
def Dispatches (vars : Variables) (field : Text) (tokens : List Text) : Prop :=
  ∀ {all admitted excluded}, vars.all? = some all → read vars field = .ok admitted →
    read vars ('-' :: field) = .ok excluded → ∀ side source targets others {rules : List Rule},
    rules.Perm [.beside side admitted source targets, .beside side excluded source others] →
    ∀ before after,
      (∀ token, Token.Longest side before after (all ++ tokens) token →
        (RuleTrie.ofRules rules).bestAt? (before ++ source ++ after) before.length =
          some ⟨source.length, if token ∈ tokens then targets else others⟩) ∧
      ((∀ token ∈ all ++ tokens, ¬Token.Beside side before after token) →
        (RuleTrie.ofRules rules).bestAt? (before ++ source ++ after) before.length = none)

theorem dispatches_of_operand {book : RuleBook} (h : book.Reached) {field : Text}
    {tokens : List Text} (hx : Operand book.vars field tokens) :
    Dispatches book.vars field tokens := by
  intro all admitted excluded hall ha he side source targets others rules hr before after
  obtain ⟨rfl, rfl⟩ := hx.read h.sound.vars hall ha he
  have hmem (token : Text) : token ∈ (Context.only tokens).alternatives ++
      (Context.allBut (without all tokens)).alternatives ↔ token ∈ all ++ tokens := by
    have hw : token ∈ (Context.allBut (without all tokens)).alternatives ↔
        token ∈ all ∧ token ∉ tokens := mem_without
    have ho : token ∈ (Context.only tokens).alternatives ↔ token ∈ tokens := Iff.rfl
    rw [List.mem_append, List.mem_append, hw, ho]
    tauto
  constructor
  · intro token hl
    have hl' : Token.Longest side before after ((Context.only tokens).alternatives ++
        (Context.allBut (without all tokens)).alternatives) token :=
      ⟨(hmem token).mpr hl.mem, hl.beside, fun other ho => hl.longest other ((hmem other).mp ho)⟩
    rcases RuleTrie.best_of_two hr hl' with ⟨hin, hb⟩ | ⟨hout, hb⟩
    · have hin : token ∈ tokens := hin
      rw [hb, if_pos hin]
    · have hout : token ∉ tokens := (mem_without.mp hout).2
      rw [hb, if_neg hout]
  · intro hnone
    exact RuleTrie.best_of_two_eq_none hr fun token ht => hnone token ((hmem token).mp ht)

/-- The longer token decides although it begins with a listed one. -/
theorem dispatches_to_longer_token :
    let book := (RuleBook.empty.readLines 1 [.ok "ALL = c, ch, s"]).book
    let rules : List Rule := [.beside .ahead (.allBut ["ch", "s", "$"]) "s" ["y"],
      .beside .ahead (.only ["c"]) "s" ["x"]]
    book.Reached ∧ Operand book.vars "(c)" ["c"] ∧
      book.vars.all? = some (["c", "ch", "s", "$"] : List Text) ∧
      read book.vars "(c)" = .ok (.only ["c"]) ∧
      read book.vars "-(c)" = .ok (.allBut ["ch", "s", "$"]) ∧
      Token.Longest .ahead [] "ch" (["c", "ch", "s", "$"] ++ ["c"]) "ch" ∧
      (RuleTrie.ofRules rules).bestAt? "sch" 0 = some ⟨1, ["y"]⟩ := by
  intro book rules
  have short : ∀ other ∈ (["c", "ch", "s", "$"] ++ ["c"] : List Text), other.length ≤ 2 := by
    decide
  have h : book.Reached := RuleBook.Reached.empty.lines 1 _
  have hx : Operand book.vars "(c)" ["c"] := .list (by decide)
  have hall : book.vars.all? = some (["c", "ch", "s", "$"] : List Text) := by decide
  have ha : read book.vars "(c)" = .ok (.only ["c"]) := by decide
  have he : read book.vars "-(c)" = .ok (.allBut ["ch", "s", "$"]) := by decide
  have hl : Token.Longest .ahead [] "ch" (["c", "ch", "s", "$"] ++ ["c"]) "ch" :=
    ⟨by decide, by decide, fun other ho _ => short other ho⟩
  exact ⟨h, hx, hall, ha, he, hl,
    (dispatches_of_operand h hx hall ha he .ahead "s" ["x"] ["y"] (.swap _ _ _) [] "ch").1 "ch" hl⟩

/-- A sign in the name of a variable cuts it, so its own tokens are out of reach. -/
theorem signs_cut_names :
    let lines := ["ALL = a, s", "P = a", "Q = a", "P-Q = s", "P+Q = s"]
    let book := (RuleBook.empty.readLines 1 (lines.map (.ok ·))).book
    book.Reached ∧
      (book.vars.get? "P-Q" = some (["s"] : List Text) ∧ ¬Dispatches book.vars "P-Q" ["s"]) ∧
      (book.vars.get? "P+Q" = some (["s"] : List Text) ∧ ¬Dispatches book.vars "P+Q" ["s"]) := by
  intro lines book
  have h : book.Reached := RuleBook.Reached.empty.lines 1 _
  have hall : book.vars.all? = some (["a", "s", "$"] : List Text) := by decide
  have hl : Token.Longest .ahead [] "s" (["a", "s", "$"] ++ ["s"]) "s" :=
    ⟨by decide, by decide, fun other ho _ =>
      have short : ∀ other ∈ (["a", "s", "$"] ++ ["s"] : List Text), other.length ≤ 1 := by decide
      short other ho⟩
  refine ⟨h, ⟨by decide, fun hd => ?_⟩, ⟨by decide, fun hd => ?_⟩⟩
  · -- Both fields are read as lists with the letter, and the later rule is taken.
    have ha : read book.vars "P-Q" = .ok (.only ["s"]) := by decide
    have he : read book.vars "-P-Q" = .ok (.allBut ["s", "$"]) := by decide
    have hb := (hd hall ha he .ahead "s" ["x"] ["y"] (.refl _) [] "s").1 "s" hl
    exact absurd hb (by decide)
  · -- Neither field is read as a list with the letter.
    have ha : read book.vars "P+Q" = .ok (.only ["a", "a"]) := by decide
    have he : read book.vars "-P+Q" = .ok (.allBut ["a", "$"]) := by decide
    have hb := (hd hall ha he .ahead "s" ["x"] ["y"] (.refl _) [] "s").1 "s" hl
    exact absurd hb (by decide)

end Context

end LetterToSound
