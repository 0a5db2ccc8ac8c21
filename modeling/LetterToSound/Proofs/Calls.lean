import LetterToSound.Proofs.SoundBook
import Mathlib.Data.List.Induction

namespace LetterToSound

/-- A call hands over one line or a whole text. -/
inductive Call
  | line (line : Text)
  | text (content : Content)

def Call.lines : Call → List (Except FileError Text)
  | line t => [.ok t]
  | text content => content.lines

namespace RuleBook

/-- The book after a call. A call that fails has read the lines before the one it fails at. -/
def after (book : RuleBook) : Call → RuleBook
  | .line t =>
    match book.readLine t with
    | .ok next => next
    | .error _ => book
  | .text content => (book.read content).book

def session (calls : List Call) : RuleBook := calls.foldl after .empty

theorem after_eq (book : RuleBook) (call : Call) :
    book.after call = (book.readLines 1 call.lines).book := by
  cases call with
  | line t =>
    simp only [after, Call.lines, readLines]
    cases book.readLine t <;> rfl
  | text content => rfl

theorem session_concat (calls : List Call) (call : Call) :
    session (calls ++ [call]) = ((session calls).readLines 1 call.lines).book := by
  rw [session, List.foldl_append, List.foldl_cons, List.foldl_nil, after_eq]
  rfl

theorem reached_session (calls : List Call) : (session calls).Reached := by
  induction calls using List.reverseRecOn with
  | nil => exact .empty
  | append_singleton calls call ih =>
    rw [session_concat]
    exact ih.lines 1 call.lines

theorem Reached.sound {book : RuleBook} (h : book.Reached) : book.Sound := by
  induction h with
  | empty => exact sound_empty
  | line _ accepted ih => exact ih.line accepted

end RuleBook

namespace Rule

/-- Reading the line adds the rule to the book. -/
def AddedBy (rule : Rule) (book : RuleBook) (line : Text) : Prop :=
  book.readLine line = .ok { book with rules := book.rules ++ [rule] }

/-- The rule was added in a session when its book had come to be `book`: by a line of some call,
after all calls before it and all lines before that one. -/
def ReadAt (rule : Rule) (calls : List Call) (book : RuleBook) : Prop :=
  ∃ earlier call later done line rest, calls = earlier ++ call :: later ∧
    call.lines = done ++ .ok line :: rest ∧
    (RuleBook.session earlier).readLines 1 done = ⟨book, none⟩ ∧ rule.AddedBy book line

theorem ReadAt.append {rule : Rule} {calls : List Call} {book : RuleBook}
    (h : rule.ReadAt calls book) (call : Call) : rule.ReadAt (calls ++ [call]) book := by
  obtain ⟨earlier, last, later, done, line, rest, rfl, hl, hb, ha⟩ := h
  exact ⟨earlier, last, later ++ [call], done, line, rest, by simp, hl, hb, ha⟩

theorem AddedBy.read {rule : Rule} {book : RuleBook} {line : Text} (h : rule.AddedBy book line) :
    Rule.read book.vars line.trim = .ok rule := by
  rcases RuleBook.read_line_cases h with ⟨_, hn⟩ | ⟨_, ⟨_, _, _, hn⟩ | ⟨_, other, hr, hn⟩⟩
  · have hl := congrArg (·.rules.length) hn
    simp at hl
  · have hl := congrArg (·.rules.length) hn
    simp at hl
  · have he := congrArg (·.rules) hn
    obtain rfl : rule = other := by simpa using he
    exact hr

theorem read_excludes_from {vars : Variables} {line : Text} {rule : Rule}
    (h : Rule.read vars line = .ok rule) :
    rule.left.ExcludesFrom vars ∧ rule.right.ExcludesFrom vars := by
  obtain ⟨_, _, _, _, _, hl, hr, _⟩ := Rule.read_cases h
  exact ⟨Context.read_excludes_from hl, Context.read_excludes_from hr⟩

end Rule

namespace RuleBook

/-- A rule of the book that lines make was there before, or one of the lines added it. -/
theorem rule_of_lines {book : RuleBook} {number index : Nat}
    {lines : List (Except FileError Text)} {rule : Rule}
    (h : (book.readLines number lines).book.rules[index]? = some rule) :
    book.rules[index]? = some rule ∨ ∃ done line rest before, lines = done ++ .ok line :: rest ∧
      book.readLines number done = ⟨before, none⟩ ∧ before.rules.length = index ∧
      rule.AddedBy before line := by
  induction lines generalizing book number with
  | nil => exact .inl h
  | cons first lines ih =>
    cases first with
    | error cause => exact .inl h
    | ok first =>
      simp only [readLines] at h
      cases hf : book.readLine first with
      | error error =>
        rw [hf] at h
        exact .inl h
      | ok next =>
        rw [hf] at h
        rcases ih h with hi | ⟨done, line, rest, before, rfl, hd, hl, ha⟩
        · rcases read_line_cases hf with
            ⟨_, rfl⟩ | ⟨_, ⟨_, _, _, rfl⟩ | ⟨_, added, _, rfl⟩⟩
          · exact .inl hi
          · exact .inl hi
          · rcases Nat.lt_trichotomy index book.rules.length with hlt | heq | hgt
            · exact .inl (by rwa [List.getElem?_append_left hlt] at hi)
            · rw [heq, List.getElem?_concat_length] at hi
              cases hi
              exact .inr ⟨[], first, lines, book, rfl, rfl, heq.symm, hf⟩
            · have ho : (book.rules ++ [added]).length ≤ index := by
                simpa using Nat.succ_le_of_lt hgt
              rw [List.getElem?_eq_none ho] at hi
              cases hi
        · refine .inr ⟨.ok first :: done, line, rest, before, rfl, ?_, hl, ha⟩
          simp only [readLines, hf, hd]

theorem read_at_of_session {calls : List Call} {index : Nat} {rule : Rule}
    (h : (session calls).rules[index]? = some rule) :
    ∃ book, rule.ReadAt calls book ∧ book.rules.length = index := by
  induction calls using List.reverseRecOn with
  | nil => cases h
  | append_singleton calls call ih =>
    rw [session_concat] at h
    rcases rule_of_lines h with h | ⟨done, line, rest, book, hc, hb, hl, ha⟩
    · obtain ⟨book, hr, hl⟩ := ih h
      exact ⟨book, hr.append call, hl⟩
    · exact ⟨book, ⟨calls, call, [], done, line, rest, rfl, hc, hb, ha⟩, hl⟩

/-- The book of every session is sound, and a rule that excludes tokens keeps a part of what all
tokens were when its line was read. -/
theorem sound_session (calls : List Call) :
    (session calls).Sound ∧ ∀ (index : Nat) (rule : Rule),
      (session calls).rules[index]? = some rule → ∃ book, rule.ReadAt calls book ∧
        book.rules.length = index ∧ rule.left.ExcludesFrom book.vars ∧
        rule.right.ExcludesFrom book.vars := by
  refine ⟨(reached_session calls).sound, ?_⟩
  intro index rule hr
  obtain ⟨book, ha, hl⟩ := read_at_of_session hr
  obtain ⟨_, _, _, _, line, _, _, _, _, hadded⟩ := id ha
  exact ⟨book, ha, hl, Rule.read_excludes_from hadded.read⟩

end RuleBook

end LetterToSound
