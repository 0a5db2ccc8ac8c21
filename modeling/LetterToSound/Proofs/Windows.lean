import LetterToSound.Proofs.LongestMatch

namespace LetterToSound

namespace Rule

/-- How many symbols ahead the choices of the rule ask for. -/
def spansAhead (rule : Rule) : List Nat :=
  rule.right.alternatives.map fun right => rule.source.length + right.length

/-- How many symbols behind the choices of the rule ask for. -/
def spansBehind (rule : Rule) : List Nat := rule.left.alternatives.map List.length

/-- The most symbols ahead that any of the rules asks for. -/
def reachAhead (rules : List Rule) : Nat := (rules.flatMap spansAhead).max?.getD 0

/-- The most symbols behind that any of the rules asks for. -/
def reachBehind (rules : List Rule) : Nat := (rules.flatMap spansBehind).max?.getD 0

/-- The symbols around a position that are within the reach of the rules, nearest first: those
ahead, which the end of the word may end, and those behind, which its start may end. -/
def window (rules : List Rule) (word : Text) (position : Nat) : List Edge × List Edge :=
  ((symbols (word.drop position)).take (reachAhead rules),
    (symbols (word.take position).reverse).take (reachBehind rules))

end Rule

namespace Choice

theorem From.length_ahead_le {rules : List Rule} {choice : Choice} (h : choice.From rules) :
    choice.ahead.length ≤ Rule.reachAhead rules := by
  rw [length_ahead]
  apply List.le_max?_getD_of_mem
  exact List.mem_flatMap.mpr ⟨choice.rule, h.mem, List.mem_map.mpr ⟨choice.right, h.2.1, rfl⟩⟩

theorem From.length_behind_le {rules : List Rule} {choice : Choice} (h : choice.From rules) :
    choice.behind.length ≤ Rule.reachBehind rules := by
  rw [length_behind]
  apply List.le_max?_getD_of_mem
  exact List.mem_flatMap.mpr ⟨choice.rule, h.mem, List.mem_map.mpr ⟨choice.left, h.2.2, rfl⟩⟩

/-- Whether a choice applies can be seen in the window. -/
theorem From.applies_iff_window {rules : List Rule} {choice : Choice} (h : choice.From rules)
    (word : Text) (position : Nat) :
    choice.AppliesAt word position ↔ choice.ahead <+: (Rule.window rules word position).1 ∧
      choice.behind <+: (Rule.window rules word position).2 := by
  rw [applies_at_iff]
  simp only [Rule.window, List.prefix_take_iff, h.length_ahead_le, h.length_behind_le, and_true]

variable {rules : List Rule} {word other : Text} {position place : Nat}

theorem From.applies_congr {choice : Choice} (h : choice.From rules)
    (hw : Rule.window rules word position = Rule.window rules other place) :
    choice.AppliesAt word position ↔ choice.AppliesAt other place := by
  rw [h.applies_iff_window, h.applies_iff_window, hw]

/-- The rank of a choice has nothing to do with the word, so what is best is decided by what
applies. -/
theorem Best.of_window {choice : Choice} (h : choice.Best rules word position)
    (hw : Rule.window rules word position = Rule.window rules other place) :
    choice.Best rules other place where
  from_rules := h.from_rules
  applies := (h.from_rules.applies_congr hw).mp h.applies
  greatest := fun next hn ha => h.greatest next hn ((hn.applies_congr hw).mpr ha)

end Choice

namespace RuleTrie

/-- Words that look alike around two places have the same match there, whatever they are
elsewhere. -/
theorem best_at_of_window {rules : List Rule} {word other : Text} {position place : Nat}
    (h : Rule.window rules word position = Rule.window rules other place) :
    (ofRules rules).bestAt? word position = (ofRules rules).bestAt? other place := by
  apply Option.ext
  intro output
  rw [best_at_eq_some_iff, best_at_eq_some_iff]
  constructor
  · rintro ⟨choice, hb, ho⟩
    exact ⟨choice, hb.of_window h, ho⟩
  · rintro ⟨choice, hb, ho⟩
    exact ⟨choice, hb.of_window h.symm, ho⟩

/-- Two symbols ahead and one behind are seen, so neither the letters further behind nor the
distance from the start count. -/
theorem best_at_of_window_before_end :
    let rules := (RuleBook.ofLines
      ["ALL = a, b", "E = *", "(b, $)\ta\t($)\tx", "E\tab\tE\ty"]).rules
    Rule.reachAhead rules = 2 ∧ Rule.reachBehind rules = 1 ∧
      Rule.window rules "caba" 3 = Rule.window rules "ba" 1 ∧
      (ofRules rules).bestAt? "caba" 3 = (ofRules rules).bestAt? "ba" 1 ∧
      (ofRules rules).bestAt? "ba" 1 = some ⟨1, ["x"]⟩ := by
  intro rules
  have hw : Rule.window rules "caba" 3 = Rule.window rules "ba" 1 := by decide +kernel
  exact ⟨by decide +kernel, by decide +kernel, hw, best_at_of_window hw, by decide +kernel⟩

end RuleTrie

end LetterToSound
