import LetterToSound.Proofs.Numbering
import LetterToSound.Proofs.Session
import Mathlib.Data.Prod.Lex
import Mathlib.Data.Set.Card

namespace LetterToSound

/-- A path ahead and then behind, as every path of a rule goes. -/
def route (ahead behind : List Edge) : List Step :=
  ahead.map (⟨.ahead, ·⟩) ++ behind.map (⟨.behind, ·⟩)

theorem route_ahead (ahead behind : List Edge) :
    (route ahead behind).filter (·.side = .ahead) = ahead.map (⟨.ahead, ·⟩) := by
  simp [route, List.filter_map, Function.comp_def]

theorem route_behind (ahead behind : List Edge) :
    (route ahead behind).filter (·.side = .behind) = behind.map (⟨.behind, ·⟩) := by
  simp [route, List.filter_map, Function.comp_def]

theorem route_inj {ahead behind ahead' behind' : List Edge} :
    route ahead behind = route ahead' behind' ↔ ahead = ahead' ∧ behind = behind' := by
  constructor
  · intro h
    have hinj (side : Side) : Function.Injective (Step.mk side) :=
      fun _ _ he => (Step.mk.inj he).2
    have ha := congrArg (List.filter (·.side = .ahead)) h
    have hb := congrArg (List.filter (·.side = .behind)) h
    rw [route_ahead, route_ahead] at ha
    rw [route_behind, route_behind] at hb
    exact ⟨List.map_injective_iff.mpr (hinj .ahead) ha, List.map_injective_iff.mpr (hinj .behind) hb⟩
  · intro hg
    obtain ⟨rfl, rfl⟩ := hg
    rfl

@[simp] theorem route_eq_nil {ahead behind : List Edge} :
    route ahead behind = [] ↔ ahead = [] ∧ behind = [] := by
  simp [route]

theorem take_route (n : Nat) (ahead behind : List Edge) :
    (route ahead behind).take n = route (ahead.take n) (behind.take (n - ahead.length)) := by
  simp [route, List.take_append, List.map_take]

/-- What leads to the end of a route is a route. -/
theorem exists_route {q : List Step} {ahead behind : List Edge} (h : q <+: route ahead behind) :
    ∃ front back, q = route front back := by
  rw [List.prefix_iff_eq_take.mp h, take_route]
  exact ⟨_, _, rfl⟩

theorem route_prefix_iff {front back ahead behind : List Edge} :
    route front back <+: route ahead behind ↔
      back = [] ∧ front <+: ahead ∨ front = ahead ∧ back <+: behind := by
  constructor
  · intro h
    have ht := List.prefix_iff_eq_take.mp h
    rw [take_route, route_inj] at ht
    obtain ⟨hf, hb⟩ := ht
    rcases Nat.le_total (route front back).length ahead.length with hl | hl
    · rw [Nat.sub_eq_zero_of_le hl, List.take_zero] at hb
      exact .inl ⟨hb, hf ▸ List.take_prefix _ ahead⟩
    · rw [List.take_of_length_le hl] at hf
      exact .inr ⟨hf, hb ▸ List.take_prefix _ behind⟩
  · intro hg
    rcases hg with ⟨rfl, hf⟩ | ⟨rfl, hb⟩
    · simp only [route, List.map_nil, List.append_nil]
      exact (hf.map _).trans (List.prefix_append _ _)
    · exact (List.prefix_append_right_inj _).mpr (hb.map _)

/-- A rule at its place in a list, with one token taken from each of its contexts. -/
structure Choice where
  index : Nat
  rule : Rule
  right : Text
  left : Text

namespace Choice

def From (rules : List Rule) (choice : Choice) : Prop :=
  rules[choice.index]? = some choice.rule ∧ choice.right ∈ choice.rule.right.alternatives ∧
    choice.left ∈ choice.rule.left.alternatives

def ahead (choice : Choice) : List Edge :=
  choice.rule.source.map .letter ++ Token.edges choice.right

def behind (choice : Choice) : List Edge := (Token.edges choice.left).reverse

def path (choice : Choice) : List Step := route choice.ahead choice.behind

theorem from_append {rules : List Rule} {rule : Rule} {choice : Choice} :
    choice.From (rules ++ [rule]) ↔ choice.From rules ∨
      choice.index = rules.length ∧ choice.rule = rule ∧
        choice.right ∈ rule.right.alternatives ∧ choice.left ∈ rule.left.alternatives := by
  unfold From
  rcases Nat.lt_trichotomy choice.index rules.length with hi | hi | hi
  · rw [List.getElem?_append_left hi]
    simp [Nat.ne_of_lt hi]
  · rw [hi, List.getElem?_concat_length, List.getElem?_eq_none (Nat.le_refl _)]
    constructor
    · intro hg
      obtain ⟨hr, hm⟩ := hg
      cases hr
      exact .inr ⟨rfl, rfl, hm⟩
    · intro hg
      rcases hg with ⟨hr, _⟩ | ⟨_, rfl, hm⟩
      · cases hr
      · exact ⟨rfl, hm⟩
  · have ho : rules.length + 1 ≤ choice.index := hi
    rw [List.getElem?_eq_none (by simpa using ho), List.getElem?_eq_none (Nat.le_of_lt hi)]
    simp [Nat.ne_of_gt hi]

theorem From.index_lt {rules : List Rule} {choice : Choice} (h : choice.From rules) :
    choice.index < rules.length :=
  (List.getElem?_eq_some_iff.mp h.1).1

theorem From.mem {rules : List Rule} {choice : Choice} (h : choice.From rules) :
    choice.rule ∈ rules :=
  List.mem_of_getElem? h.1

end Choice

theorem Rule.mem_paths {rule : Rule} {q : List Step} (index : Nat) :
    (∃ entry ∈ rule.entries, entry.path = q) ↔
      ∃ right ∈ rule.right.alternatives, ∃ left ∈ rule.left.alternatives,
        (Choice.mk index rule right left).path = q := by
  simp only [Rule.entries, List.mem_flatMap, List.mem_map]
  constructor
  · intro hg
    obtain ⟨_, ⟨right, hr, left, hl, rfl⟩, he⟩ := hg
    exact ⟨right, hr, left, hl, he⟩
  · intro hg
    obtain ⟨right, hr, left, hl, he⟩ := hg
    exact ⟨_, ⟨right, hr, left, hl, rfl⟩, he⟩

theorem Rule.entry_output {rule : Rule} {entry : Entry} (h : entry ∈ rule.entries) :
    entry.output = rule.output := by
  simp only [Rule.entries, List.mem_flatMap, List.mem_map] at h
  obtain ⟨_, _, _, _, rfl⟩ := h
  rfl

theorem Context.alternatives_ne_nil {context : Context} (h : context.tokens? ≠ some []) :
    context.alternatives ≠ [] := by
  unfold alternatives
  cases ht : context.tokens? with
  | none => simp
  | some tokens =>
    rintro rfl
    exact h ht

theorem Choice.exists_from {rules : List Rule} {rule : Rule} (hm : rule ∈ rules)
    (hf : rule.Filled) : ∃ choice : Choice, choice.From rules := by
  obtain ⟨index, hi⟩ := List.mem_iff_getElem?.mp hm
  obtain ⟨right, hr⟩ := List.exists_mem_of_ne_nil _ (Context.alternatives_ne_nil hf.right)
  obtain ⟨left, hl⟩ := List.exists_mem_of_ne_nil _ (Context.alternatives_ne_nil hf.left)
  exact ⟨⟨index, rule, right, left⟩, hi, hr, hl⟩

theorem Output.replacing_replacing (new : Output) (old : Option Output) :
    new.replacing (some (new.replacing old)) = new.replacing old := by
  cases old with
  | none => simp [replacing]
  | some old =>
    simp only [replacing]
    split <;> simp_all

/-- The choice whose output is kept at a path: of those that end there it covers most, and of
those that cover as much it comes last. -/
structure Choice.Kept (rules : List Rule) (path : List Step) (choice : Choice) : Prop where
  from_rules : choice.From rules
  path_eq : choice.path = path
  greatest : ∀ other : Choice, other.From rules → other.path = path →
    toLex (other.rule.source.length, other.index) ≤ toLex (choice.rule.source.length, choice.index)

/-- A new last rule leaves a longer source alone, and all sources elsewhere. -/
theorem Choice.Kept.append {rules : List Rule} {rule : Rule} {q : List Step} {choice : Choice}
    (h : choice.Kept rules q)
    (hn : (∃ entry ∈ rule.entries, entry.path = q) →
      rule.source.length < choice.rule.source.length) : choice.Kept (rules ++ [rule]) q := by
  refine ⟨from_append.mpr (.inl h.from_rules), h.path_eq, ?_⟩
  intro other ho hp
  rcases from_append.mp ho with ho | ⟨_, rfl, hr, hl⟩
  · exact h.greatest other ho hp
  · exact Prod.Lex.toLex_le_toLex.mpr (.inl (hn ((Rule.mem_paths other.index).mpr ⟨_, hr, _, hl, hp⟩)))

/-- A new last rule is kept where nothing longer is. -/
theorem Choice.kept_last {rules : List Rule} {rule : Rule} {q : List Step}
    (hq : ∃ entry ∈ rule.entries, entry.path = q)
    (hn : ∀ other : Choice, other.From rules → other.path = q →
      other.rule.source.length ≤ rule.source.length) :
    ∃ choice : Choice, choice.Kept (rules ++ [rule]) q ∧ choice.rule = rule := by
  obtain ⟨right, hr, left, hl, hp⟩ := (Rule.mem_paths rules.length).mp hq
  refine ⟨⟨rules.length, rule, right, left⟩, ⟨from_append.mpr (.inr ⟨rfl, rfl, hr, hl⟩), hp, ?_⟩, rfl⟩
  intro other ho hp
  rcases from_append.mp ho with ho | ⟨hi, ho, _⟩
  · have hs := hn other ho hp
    have hi := ho.index_lt
    rw [Prod.Lex.toLex_le_toLex]
    dsimp only
    omega
  · rw [hi, ho]

theorem Choice.Kept.unique {rules : List Rule} {q : List Step} {choice other : Choice}
    (h : choice.Kept rules q) (ho : other.Kept rules q) : choice.rule = other.rule := by
  have hle := Prod.Lex.toLex_le_toLex.mp (h.greatest other ho.from_rules ho.path_eq)
  have hge := Prod.Lex.toLex_le_toLex.mp (ho.greatest choice h.from_rules h.path_eq)
  have hi : choice.index = other.index := by omega
  have hr := h.from_rules.1
  rw [hi, ho.from_rules.1] at hr
  exact (Option.some.inj hr).symm

/-- What some rules leave at a path: nothing where no choice ends, and elsewhere the output of the
kept one. -/
def Choice.Leave (rules : List Rule) (path : List Step) : Option Output → Prop
  | none => ∀ choice : Choice, choice.From rules → choice.path ≠ path
  | some output => ∃ choice : Choice, choice.Kept rules path ∧ choice.rule.output = output

/-- A new last rule changes nothing where it does not end. -/
theorem Choice.Leave.elsewhere {rules : List Rule} {rule : Rule} {q : List Step}
    {output : Option Output} (h : Leave rules q output)
    (hq : ¬∃ entry ∈ rule.entries, entry.path = q) : Leave (rules ++ [rule]) q output := by
  cases output with
  | none =>
    intro choice hc hp
    rcases from_append.mp hc with hc | ⟨_, rfl, hr, hl⟩
    · exact h choice hc hp
    · exact hq ((Rule.mem_paths choice.index).mpr ⟨_, hr, _, hl, hp⟩)
  | some output =>
    obtain ⟨choice, hk, ho⟩ := h
    exact ⟨choice, hk.append fun he => absurd he hq, ho⟩

/-- Where a new last rule ends its output is stored over what the others leave. -/
theorem Choice.Leave.here {rules : List Rule} {rule : Rule} {q : List Step}
    {output : Option Output} (h : Leave rules q output)
    (hq : ∃ entry ∈ rule.entries, entry.path = q) :
    Leave (rules ++ [rule]) q (some (rule.output.replacing output)) := by
  cases output with
  | none =>
    obtain ⟨last, hk, rfl⟩ := kept_last hq fun other ho hp => absurd hp (h other ho)
    exact ⟨last, hk, rfl⟩
  | some output =>
    obtain ⟨choice, hk, rfl⟩ := h
    by_cases hl : rule.source.length < choice.rule.source.length
    · exact ⟨choice, hk.append fun _ => hl, (if_pos hl).symm⟩
    · have hs : choice.rule.source.length ≤ rule.source.length := Nat.not_lt.mp hl
      obtain ⟨last, hk, rfl⟩ := kept_last hq fun other ho hp => by
        have := Prod.Lex.toLex_le_toLex.mp (hk.greatest other ho hp)
        omega
      exact ⟨last, hk, (if_neg hl).symm⟩

namespace RuleTrie

/-- Storing one output at several ends is the same as storing it once at each of them. -/
theorem output_insert_all {trie : RuleTrie} {entries : List Entry} {output : Output}
    (h : ∀ entry ∈ entries, entry.output = output) (q : List Step) :
    (entries.foldl (fun trie entry => trie.insert entry.path entry.output) trie).root.output? q =
      if ∃ entry ∈ entries, entry.path = q then some (output.replacing (trie.root.output? q))
      else trie.root.output? q := by
  induction entries generalizing trie with
  | nil => simp
  | cons entry rest ih =>
    have he := h entry List.mem_cons_self
    rw [List.foldl_cons, ih fun other ho => h other (List.mem_cons_of_mem _ ho), insert_eq,
      Trie.output_insert, he]
    by_cases hq : q = entry.path
    · subst q
      simp [Output.replacing_replacing]
    · simp [hq, Ne.symm hq]

theorem of_rules_append (rules : List Rule) (rule : Rule) :
    ofRules (rules ++ [rule]) =
      rule.entries.foldl (fun trie entry => trie.insert entry.path entry.output) (ofRules rules) := by
  simp [ofRules, ofEntries, List.flatMap_append, List.foldl_append]

theorem output_of_rules (rules : List Rule) (q : List Step) :
    Choice.Leave rules q ((ofRules rules).root.output? q) := by
  induction rules using List.reverseRecOn with
  | nil =>
    have hn : (ofRules []).root.output? q = none := by cases q <;> rfl
    rw [hn]
    exact fun choice hc => absurd hc.1 (by simp)
  | append_singleton rules rule ih =>
    rw [of_rules_append, output_insert_all fun _ he => Rule.entry_output he]
    by_cases hq : ∃ entry ∈ rule.entries, entry.path = q
    · rw [if_pos hq]
      exact ih.here hq
    · rw [if_neg hq]
      exact ih.elsewhere hq

theorem output_eq_none_iff {rules : List Rule} {q : List Step} :
    (ofRules rules).root.output? q = none ↔
      ∀ choice : Choice, choice.From rules → choice.path ≠ q := by
  have hl := output_of_rules rules q
  cases ho : (ofRules rules).root.output? q with
  | none =>
    rw [ho] at hl
    exact ⟨fun _ => hl, fun _ => rfl⟩
  | some output =>
    rw [ho] at hl
    obtain ⟨choice, hk, _⟩ := hl
    exact ⟨fun h => (by cases h), fun h => absurd hk.path_eq (h choice hk.from_rules)⟩

theorem output_eq_some_iff {rules : List Rule} {q : List Step} {output : Output} :
    (ofRules rules).root.output? q = some output ↔
      ∃ choice : Choice, choice.Kept rules q ∧ choice.rule.output = output := by
  have hl := output_of_rules rules q
  constructor
  · intro ho
    rw [ho] at hl
    exact hl
  · intro hg
    obtain ⟨choice, hc, rfl⟩ := hg
    cases ho : (ofRules rules).root.output? q with
    | none => exact absurd hc.path_eq (output_eq_none_iff.mp ho choice hc.from_rules)
    | some output =>
      rw [ho] at hl
      obtain ⟨kept, hk, rfl⟩ := hl
      rw [hk.unique hc]

theorem numbered_of_rules (rules : List Rule) : (ofRules rules).Numbered :=
  numbered_of_entries (rules.flatMap Rule.entries)

theorem entry_path_iff {rules : List Rule} {P : List Step → Prop} :
    (∃ entry ∈ rules.flatMap Rule.entries, P entry.path) ↔
      ∃ choice : Choice, choice.From rules ∧ P choice.path := by
  constructor
  · intro hg
    obtain ⟨entry, he, hp⟩ := hg
    obtain ⟨rule, hm, he⟩ := List.mem_flatMap.mp he
    obtain ⟨index, hi⟩ := List.mem_iff_getElem?.mp hm
    obtain ⟨right, hr, left, hl, hq⟩ := (Rule.mem_paths index).mp ⟨entry, he, rfl⟩
    exact ⟨⟨index, rule, right, left⟩, ⟨hi, hr, hl⟩, hq ▸ hp⟩
  · intro hg
    obtain ⟨choice, hc, hp⟩ := hg
    obtain ⟨entry, he, hq⟩ := (Rule.mem_paths choice.index).mpr
      ⟨choice.right, hc.2.1, choice.left, hc.2.2, rfl⟩
    exact ⟨entry, List.mem_flatMap.mpr ⟨choice.rule, hc.mem, he⟩, hq ▸ hp⟩

theorem number_of_rules (rules : List Rule) (q : List Step) :
    ((ofRules rules).root.number? q).isSome = true ↔
      q = [] ∨ ∃ choice : Choice, choice.From rules ∧ q <+: choice.path := by
  unfold ofRules
  rw [number_of_entries, entry_path_iff]

/-- The node at the end of a way ahead and then behind, with what lies below it. -/
def at? (trie : RuleTrie) (ahead behind : List Edge) : Option Trie :=
  trie.root.walk? (route ahead behind)

theorem at_is_some_iff {rules : List Rule} {ahead behind : List Edge} :
    ((ofRules rules).at? ahead behind).isSome = true ↔ ahead = [] ∧ behind = [] ∨
      ∃ choice : Choice, choice.From rules ∧
        (behind = [] ∧ ahead <+: choice.ahead ∨ ahead = choice.ahead ∧ behind <+: choice.behind) := by
  have hn := number_of_rules rules (route ahead behind)
  simp only [Trie.number?, Option.isSome_map, route_eq_nil, Choice.path, route_prefix_iff] at hn
  exact hn

/-- Every node stands at an address, because what leads to an address does. -/
theorem exists_at {rules : List Rule} {below : Trie} (h : below ∈ (ofRules rules).root.tries) :
    ∃ ahead behind, (ofRules rules).at? ahead behind = some below := by
  obtain ⟨q, hw⟩ := (Trie.mem_tries (numbered_of_rules rules).distinct).mp h
  have hs : ((ofRules rules).root.number? q).isSome = true := by
    rw [Trie.number?, hw]
    rfl
  rcases (number_of_rules rules q).mp hs with rfl | ⟨choice, _, hp⟩
  · exact ⟨[], [], hw⟩
  · obtain ⟨ahead, behind, rfl⟩ := exists_route hp
    exact ⟨ahead, behind, hw⟩

theorem at_number {trie : RuleTrie} {ahead behind : List Edge} {below : Trie}
    (h : trie.at? ahead behind = some below) :
    trie.root.number? (route ahead behind) = some below.node.number := by
  rw [Trie.number?, ← at?, h]
  rfl

theorem Numbered.at_inj {trie : RuleTrie} (h : trie.Numbered) {ahead behind ahead' behind' : List Edge}
    {below below' : Trie} (hb : trie.at? ahead behind = some below)
    (hb' : trie.at? ahead' behind' = some below')
    (hn : below.node.number = below'.node.number) : ahead = ahead' ∧ behind = behind' := by
  have hn' := at_number hb'
  rw [← hn] at hn'
  exact route_inj.mp (h.unique (at_number hb) hn')

/-- A trie has as many nodes as addresses that lead to one. -/
theorem Numbered.card {trie : RuleTrie} (h : trie.Numbered)
    (hr : ∀ below ∈ trie.root.tries, ∃ ahead behind, trie.at? ahead behind = some below) :
    {address : List Edge × List Edge | (trie.at? address.1 address.2).isSome = true}.encard =
      trie.size := by
  let number (address : List Edge × List Edge) : Nat :=
    ((trie.at? address.1 address.2).map (·.node.number)).getD 0
  have hi : Set.InjOn number {address | (trie.at? address.1 address.2).isSome = true} := by
    intro address ha address' ha' he
    obtain ⟨below, hb⟩ := Option.isSome_iff_exists.mp ha
    obtain ⟨below', hb'⟩ := Option.isSome_iff_exists.mp ha'
    simp only [number, hb, hb', Option.map_some, Option.getD_some] at he
    exact Prod.ext_iff.mpr (h.at_inj hb hb' he)
  have hs : number '' {address | (trie.at? address.1 address.2).isSome = true} =
      Finset.range trie.size := by
    ext n
    simp only [Set.mem_image, Set.mem_ofPred_eq, Finset.coe_range, Set.mem_Iio]
    constructor
    · intro hg
      obtain ⟨address, ha, rfl⟩ := hg
      obtain ⟨below, hb⟩ := Option.isSome_iff_exists.mp ha
      simp only [number, hb, Option.map_some, Option.getD_some]
      exact h.bounded (at_number hb)
    · intro hn
      obtain ⟨below, hm, rfl⟩ :=
        List.mem_map.mp (h.numbers.mem_iff.mpr (List.mem_range.mpr hn))
      obtain ⟨ahead, behind, hb⟩ := hr below hm
      exact ⟨(ahead, behind), by simp [hb], by simp [number, hb]⟩
  rw [← hi.encard_image, hs, Set.encard_coe_eq_coe_finsetCard, Finset.card_range]

/-- Something is stored as soon as a rule has a choice. -/
theorem has_output_eq_false_iff {rules : List Rule} (h : ∀ rule ∈ rules, rule.Filled) :
    (ofRules rules).root.hasOutput = false ↔ rules = [] := by
  rw [← Bool.not_eq_true, Trie.has_output_iff (numbered_of_rules rules).distinct]
  constructor
  · intro hn
    cases rules with
    | nil => rfl
    | cons rule rest =>
      obtain ⟨choice, hc⟩ := Choice.exists_from List.mem_cons_self (h rule List.mem_cons_self)
      cases ho : (ofRules (rule :: rest)).root.output? choice.path with
      | none => exact absurd rfl (output_eq_none_iff.mp ho choice hc)
      | some output => exact absurd ⟨choice.path, output, ho⟩ hn
  · rintro rfl ⟨path, output, ho⟩
    obtain ⟨choice, hk, _⟩ := output_eq_some_iff.mp ho
    exact absurd hk.from_rules.1 (by simp)

/-- The trie holds the addresses of the choices among some rules, what leads to these addresses,
and nothing else. -/
structure Mirrors (trie : RuleTrie) (rules : List Rule) : Prop where
  /-- A walk goes ahead along a choice, and behind only from the end of its way ahead. -/
  reached : ∀ ahead behind, (trie.at? ahead behind).isSome = true ↔ ahead = [] ∧ behind = [] ∨
    ∃ choice : Choice, choice.From rules ∧
      (behind = [] ∧ ahead <+: choice.ahead ∨ ahead = choice.ahead ∧ behind <+: choice.behind)
  address : ∀ below ∈ trie.root.tries,
    ∃! address : List Edge × List Edge, trie.at? address.1 address.2 = some below
  apart : ∀ {ahead behind ahead' behind' below below'}, trie.at? ahead behind = some below →
    trie.at? ahead' behind' = some below' → below.node.number = below'.node.number →
    ahead = ahead' ∧ behind = behind'
  numbers : (trie.root.tries.map (·.node.number)).Perm (List.range trie.size)
  edges : ∀ below ∈ trie.root.tries, ∀ step node, (step, node) ∈ below.branches.steps →
    below.node.number < node.number ∧
      ∃ child ∈ trie.root.tries, below.child? step = some child ∧ child.node = node
  size : {address : List Edge × List Edge | (trie.at? address.1 address.2).isSome = true}.encard =
    trie.size
  unstored : ∀ ahead behind, trie.root.output? (route ahead behind) = none ↔
    ∀ choice : Choice, choice.From rules → ¬(choice.ahead = ahead ∧ choice.behind = behind)
  /-- Of the choices at an address the longest source is stored, and of those the last rule. -/
  stored : ∀ ahead behind output, trie.root.output? (route ahead behind) = some output ↔
    ∃ choice : Choice, choice.From rules ∧ (choice.ahead = ahead ∧ choice.behind = behind) ∧
      (∀ other : Choice, other.From rules → other.ahead = ahead ∧ other.behind = behind →
        toLex (other.rule.source.length, other.index) ≤
          toLex (choice.rule.source.length, choice.index)) ∧
      output = ⟨choice.rule.source.length, choice.rule.targets⟩
  empty : trie.root.hasOutput = false ↔ rules = []

theorem mirrors_of_rules {book : RuleBook} (h : book.Reached) :
    (ofRules book.rules).Mirrors book.rules := by
  have hn := numbered_of_rules book.rules
  refine
    { reached := fun ahead behind => at_is_some_iff
      address := ?_
      apart := hn.at_inj
      numbers := hn.numbers
      edges := fun below hm step node hs => hn.edges hm hs
      size := hn.card fun below hm => exists_at hm
      unstored := ?_
      stored := ?_
      empty := has_output_eq_false_iff h.filled }
  · intro below hm
    obtain ⟨ahead, behind, hb⟩ := exists_at hm
    exact ⟨(ahead, behind), hb, fun _ hb' => Prod.ext_iff.mpr (hn.at_inj hb' hb rfl)⟩
  · intro ahead behind
    rw [output_eq_none_iff]
    simp only [Choice.path, ne_eq, route_inj]
  · intro ahead behind output
    rw [output_eq_some_iff]
    constructor
    · intro hg
      obtain ⟨choice, hk, rfl⟩ := hg
      exact ⟨choice, hk.from_rules, route_inj.mp hk.path_eq,
        fun other ho ha => hk.greatest other ho (route_inj.mpr ha), rfl⟩
    · intro hg
      obtain ⟨choice, hc, ha, hg, rfl⟩ := hg
      exact ⟨choice, ⟨hc, route_inj.mpr ha, fun other ho hp => hg other ho (route_inj.mp hp)⟩, rfl⟩

/-- The end of the way of `ab` is shared, and the longer source is stored there. -/
theorem mirrors_of_two_rules :
    let book := (RuleBook.empty.readLines 1
      [.ok "ALL = a, b", .ok "E = *", .ok "E\ta\t(b, $)\tx", .ok "E\tab\tE\ty"]).book
    let trie := ofRules book.rules
    book.Reached ∧ trie.Mirrors book.rules ∧ book.rules.length = 2 ∧ trie.size = 4 ∧
      trie.root.output? (route [.letter 'a', .letter 'b'] []) = some ⟨2, ["y"]⟩ ∧
      trie.root.output? (route [.letter 'a', .boundary] []) = some ⟨1, ["x"]⟩ ∧
      trie.root.output? (route [.letter 'a'] []) = none :=
  ⟨RuleBook.Reached.empty.lines 1 _, mirrors_of_rules (RuleBook.Reached.empty.lines 1 _),
    by decide +kernel, by decide +kernel, by decide +kernel, by decide +kernel, by decide +kernel⟩

end RuleTrie

end LetterToSound
