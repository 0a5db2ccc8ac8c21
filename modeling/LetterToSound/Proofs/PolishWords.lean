import LetterToSound.Proofs.Coverage
import LetterToSound.Trie.Polish

namespace LetterToSound

/-- Literals are compared with texts one by one. So they are not decoded when the texts are used. -/
theorem spelled_cons {s : String} {t : Text} {strings : List String} {texts : List Text}
    (h : s = .ofList t) (hs : strings = texts.map .ofList) :
    s :: strings = (t :: texts).map .ofList := by
  rw [h, hs, List.map_cons]

theorem spelled_append {s s' : String} {t t' : Text} (h : s = .ofList t) (h' : s' = .ofList t') :
    s ++ s' = .ofList (t ++ t') := by
  rw [h, h', String.ofList_append]

namespace RuleBook

theorem complete_of_lines {lines : List Text}
    (h : (empty.readLines 1 (lines.map .ok)).error = none) :
    (empty.readLines 1 (lines.map .ok)).complete = .ok (ofLines lines) := by
  unfold Reading.complete
  rw [h]
  rfl

theorem reached_of_lines (lines : List Text) : (ofLines lines).Reached :=
  Reached.empty.lines 1 (lines.map .ok)

end RuleBook

namespace Polish

def nasals : List Char := ['ą', 'ę']

/-- The lines are read to the end, and only nasal vowels are bound in their rules. -/
structure Covering (lines : List Text) : Prop where
  read : (RuleBook.empty.readLines 1 (lines.map .ok)).error = none
  covers : (RuleBook.ofLines lines).Covers nasals

instance (lines : List Text) : Decidable (Covering lines) :=
  decidable_of_iff ((RuleBook.empty.readLines 1 (lines.map .ok)).error = none ∧
      (RuleBook.ofLines lines).Covers nasals)
    ⟨fun h => ⟨h.1, h.2⟩, fun h => ⟨h.read, h.covers⟩⟩

theorem of_spelled {p : List Text → Prop} {strings : List String} {texts : List Text}
    (h : strings = texts.map .ofList) (ht : p texts) : p (strings.map String.toList) := by
  have he : strings.map String.toList = texts := by simp [h, Function.comp_def]
  rwa [he]

set_option maxRecDepth 10000 in
theorem lines_looked_at : Covering lines ∧ ∀ line ∈ lines, '\n' ∉ line := by
  unfold lines
  apply of_spelled (p := fun texts => Covering texts ∧ ∀ line ∈ texts, '\n' ∉ line)
  case h =>
    simp only [variableLines, ruleLines, List.cons_append, List.nil_append]
    repeat (first | exact List.map_nil.symm | apply spelled_cons rfl |
      apply spelled_cons (spelled_append rfl rfl))
  case ht => decide +kernel

theorem covering_lines : Covering lines := lines_looked_at.1

/-- The built-in rules are read without an error. They transcribe, in each mode, the words of their
letters in which each nasal vowel ends the word or comes before a token listed for it. -/
theorem transcribes_iff_spells :
    reading.complete = .ok book ∧ ∀ mode word,
      (∃ result, trie.transcribe mode word = .ok result) ↔ book.Spells nasals word.lower := by
  have hc : book.Covers nasals := covering_lines.covers
  have hr : book.rules ≠ [] := by
    obtain ⟨rule, hm, _⟩ := hc.ends 'ą' List.mem_cons_self
    exact List.ne_nil_of_mem (RuleBook.mem_rules_for.mp hm).1
  have hf : ∀ rule ∈ book.rules, rule.Filled := (RuleBook.reached_of_lines lines).filled
  exact ⟨RuleBook.complete_of_lines covering_lines.read, fun mode word => hc.transcribes_iff hf hr⟩

end Polish

end LetterToSound
