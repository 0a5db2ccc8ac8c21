import LetterToSound.Proofs.ContextFields
import LetterToSound.Words.Match

namespace LetterToSound

/-- The sign of a wildcard is the only value wherever it is one. -/
def Variables.WildcardsAlone (vars : Variables) : Prop :=
  ∀ entry ∈ vars.entries, Token.wildcard ∈ entry.2 → entry.2 = [Token.wildcard]

theorem Variables.WildcardsAlone.get {vars : Variables} (h : vars.WildcardsAlone) {name : Text}
    {values : List Text} (hg : vars.get? name = some values) (hm : Token.wildcard ∈ values) :
    values = [Token.wildcard] :=
  h (name, values) (mem_entries hg) hm

namespace Context

/-- If the field is a list, the sign of a wildcard is not among its items. -/
def ListsNoWildcard (field : Text) : Prop :=
  ∀ inner items, field = '(' :: inner ++ [')'] → Text.Lists inner items → Token.wildcard ∉ items

theorem lists_no_wildcard_of_head {field : Text} (h : field.head? ≠ some '(') :
    ListsNoWildcard field := by
  rintro inner items rfl
  exact absurd rfl h

/-- One of the names that the field adds up is a wildcard's. -/
def AddsWildcard (vars : Variables) (field : Text) : Prop :=
  field.head? ≠ some '-' ∧ field.head? ≠ some '(' ∧
    ∃ name ∈ field.pieces '+', vars.get? name = some [Token.wildcard]

/-- The sign of a wildcard is among the tokens that the context asks for. -/
def AsksForWildcard (context : Context) : Prop :=
  ∃ tokens, context.tokens? = some tokens ∧ Token.wildcard ∈ tokens

section

variable {vars : Variables} {field : Text} {tokens all : List Text}

/-- The sign comes into a sum with the name of a wildcard only. -/
theorem mem_sum_iff (hv : vars.WildcardsAlone) (hl : ListsNoWildcard field)
    (hn : field.head? ≠ some '-') (hx : ComesTo vars '+' field (.ok tokens)) :
    Token.wildcard ∈ tokens ↔ AddsWildcard vars field := by
  cases hx with
  | list lists =>
    have hw := hl _ _ rfl lists
    constructor
    · exact fun hm => absurd hm hw
    · exact fun ha => absurd rfl ha.2.1
  | @names names lists parted known =>
    have hp : Text.pieces '+' (['+'].intercalate names) = names.map Text.trim := by
      rw [Text.pieces, List.splitOn_intercalate '+' parted.free parted.some_name]
    unfold AddsWildcard
    rw [mem_flatten_iff known, hp]
    constructor
    · rintro ⟨name, hm, values, hg, hw⟩
      exact ⟨hn, parted.no_list, name, hm, hv.get hg hw ▸ hg⟩
    · rintro ⟨_, _, name, hm, hg⟩
      exact ⟨name, hm, _, hg, List.mem_singleton_self _⟩

/-- It is left of all tokens only if it is the only one. -/
theorem mem_rest_iff (hv : vars.WildcardsAlone) (hall : vars.all? = some all)
    (hf : all.filter (· ∉ tokens) ≠ []) :
    Token.wildcard ∈ all.filter (· ∉ tokens) ↔ all = [Token.wildcard] := by
  constructor
  · intro hm
    exact hv.get hall (List.mem_filter.mp hm).1
  · rintro rfl
    obtain ⟨token, hm⟩ := List.exists_mem_of_ne_nil _ hf
    have ht : token = Token.wildcard := List.mem_singleton.mp (List.mem_filter.mp hm).1
    rwa [ht] at hm

/-- Where wildcards have no other values and none is listed, a context asks for the sign of one if
a wildcard's name is a part of a sum. The only other case is that tokens are excluded from the sign
alone, and no session makes it all that there is. -/
theorem asks_for_wildcard_iff (hv : vars.WildcardsAlone) (hl : ListsNoWildcard field)
    {context : Context} (h : read vars field = .ok context) :
    (context.AsksForWildcard ↔ vars.get? field ≠ some [Token.wildcard] ∧
      (AddsWildcard vars field ∨
        field.head? = some '-' ∧ vars.all? = some [Token.wildcard])) ∧
    (vars.Sound → (context.AsksForWildcard ↔
      vars.get? field ≠ some [Token.wildcard] ∧ AddsWildcard vars field)) := by
  have hiff : context.AsksForWildcard ↔ vars.get? field ≠ some [Token.wildcard] ∧
      (AddsWildcard vars field ∨
        field.head? = some '-' ∧ vars.all? = some [Token.wildcard]) := by
    cases read_eq_iff.mp h with
    | wildcard found => simp [AsksForWildcard, tokens?, found]
    | @tokens all _ proper set asks filled =>
      generalize hresult : Except.ok context = result at asks
      cases asks with
      | @only _ operand no_minus comes =>
        cases operand with
        | error error => cases hresult
        | ok tokens =>
          cases hresult
          simp [AsksForWildcard, tokens?, proper, no_minus, mem_sum_iff hv hl no_minus comes]
      | @allBut excluded operand comes =>
        cases operand with
        | error error => cases hresult
        | ok tokens =>
          cases hresult
          have hf : all.filter (· ∉ tokens) ≠ [] := fun hn => filled (congrArg some hn)
          have hadds : ¬AddsWildcard vars ('-' :: excluded) := fun ha => ha.1 rfl
          unfold AsksForWildcard
          simp only [tokens?, Option.some.injEq, exists_eq_left', mem_rest_iff hv set hf]
          simp [proper, hadds, set]
  refine ⟨hiff, fun hs => ?_⟩
  have hall : vars.all? ≠ some [Token.wildcard] := by
    intro hall
    have hb := hs.boundary _ hall
    simp [Token.boundary, Token.wildcard] at hb
  rw [hiff]
  simp [hall]

end

theorem asks_for_wildcard_of_sum :
    let vars := (RuleBook.ofLines ["ALL = a, b", "E = *", "V = a"]).vars
    vars.WildcardsAlone ∧ vars.Sound ∧ ListsNoWildcard "V + E" ∧
      read vars "V + E" = .ok (.only ["a", "*"]) ∧ AsksForWildcard (.only ["a", "*"]) ∧
      read vars "-V-E" = .ok (.allBut ["b", "$"]) ∧ ¬AsksForWildcard (.allBut ["b", "$"]) := by
  intro vars
  have hv : vars.WildcardsAlone := by
    unfold Variables.WildcardsAlone
    decide
  have hsound : vars.Sound := (RuleBook.Reached.empty.lines 1 _).sound.vars
  have hsum : ListsNoWildcard "V + E" := lists_no_wildcard_of_head (by decide)
  have hrest : ListsNoWildcard "-V-E" := lists_no_wildcard_of_head (by decide)
  have hs : read vars "V + E" = .ok (.only ["a", "*"]) := by decide
  have hr : read vars "-V-E" = .ok (.allBut ["b", "$"]) := by decide
  have hadds : AddsWildcard vars "V + E" :=
    ⟨by decide, by decide, "E", by decide, by decide⟩
  refine ⟨hv, hsound, hsum, hs, ?_, hr, ?_⟩
  · exact (asks_for_wildcard_iff hv hsum hs).1.mpr ⟨by decide, .inl hadds⟩
  · intro ha
    exact absurd rfl (((asks_for_wildcard_iff hv hrest hr).2 hsound).mp ha).2.1

/-- A rule between any neighbour and a sum with a wildcard applies before the sign of the wildcard,
and not at the end of a word. -/
theorem wildcard_in_sum_is_a_token :
    let book := RuleBook.ofLines ["ALL = a", "E = *", "V = a", "E\ta\tE+V\tx"]
    book.vars.WildcardsAlone ∧ ListsNoWildcard "E+V" ∧
      (∃ context, read book.vars "E+V" = .ok context ∧ context.AsksForWildcard) ∧
      book.rules = [⟨.any, "a", .only ["*", "a"], ["x"]⟩] ∧
      (RuleTrie.ofRules book.rules).bestAt? "a" 0 = none ∧
      (RuleTrie.ofRules book.rules).bestAt? "a*" 0 = some ⟨1, ["x"]⟩ := by
  intro book
  have hv : book.vars.WildcardsAlone := by
    unfold Variables.WildcardsAlone
    decide
  have hread : read book.vars "E+V" = .ok (.only ["*", "a"]) := by decide
  exact ⟨hv, lists_no_wildcard_of_head (by decide), ⟨_, hread, _, rfl, List.mem_cons_self⟩,
    by decide, by decide, by decide⟩

end Context

end LetterToSound
