import LetterToSound.Rules.File

namespace LetterToSound

theorem bind_ok {α β ε : Type} {x : Except ε α} {f : α → Except ε β} {b : β} :
    (x >>= f) = .ok b ↔ ∃ a, x = .ok a ∧ f a = .ok b := by
  cases x with
  | error e => simp [bind, Except.bind]
  | ok a => simp [bind, Except.bind]

/-- A list between commas has at least one item. -/
theorem items_ne_nil {blank : LineError} {t : Text} {items : List Text}
    (h : readItems blank t = .ok items) : items ≠ [] := by
  unfold readItems at h
  split at h
  · cases h
  · cases h
    simp [Text.pieces]

theorem Context.read_cases {vars : Variables} {field : Text} {context : Context}
    (h : Context.read vars field = .ok context) :
    vars.get? field = some [Token.wildcard] ∧ context = .any ∨
      ∃ all, vars.all? = some all ∧ readTokens vars all field = .ok context ∧
        context.tokens? ≠ some [] := by
  unfold Context.read at h
  split at h
  · rename_i hw
    cases h
    exact .inl ⟨hw, rfl⟩
  · split at h
    · cases h
    · rename_i all ha
      obtain ⟨tokens, ht, h⟩ := bind_ok.mp h
      split at h
      · cases h
      · rename_i hn
        cases h
        exact .inr ⟨all, ha, ht, hn⟩

theorem Context.read_tokens {vars : Variables} {field : Text} {context : Context}
    (h : Context.read vars field = .ok context) : context.tokens? ≠ some [] := by
  rcases Context.read_cases h with ⟨_, rfl⟩ | ⟨_, _, _, hn⟩
  · simp [tokens?]
  · exact hn

theorem Rule.read_cases {vars : Variables} {line : Text} {rule : Rule}
    (h : Rule.read vars line = .ok rule) :
    ∃ left right targets, line.pieces '\t' = [left, rule.source, right, targets] ∧
      rule.source ≠ [] ∧ Context.read vars left = .ok rule.left ∧
      Context.read vars right = .ok rule.right ∧
      readItems .emptyTarget targets = .ok rule.targets := by
  unfold Rule.read at h
  split at h
  · rename_i left source right targets hp
    split at h
    · cases h
    · rename_i hs
      obtain ⟨leftContext, hl, h⟩ := bind_ok.mp h
      obtain ⟨rightContext, hr, h⟩ := bind_ok.mp h
      obtain ⟨items, ht, h⟩ := bind_ok.mp h
      cases h
      exact ⟨left, right, targets, hp, hs, hl, hr, ht⟩
  · cases h

/-- No part of the rule is empty. -/
structure Rule.Filled (rule : Rule) : Prop where
  left : rule.left.tokens? ≠ some []
  source : rule.source ≠ []
  right : rule.right.tokens? ≠ some []
  targets : rule.targets ≠ []

theorem Rule.read_filled {vars : Variables} {line : Text} {rule : Rule}
    (h : Rule.read vars line = .ok rule) : rule.Filled := by
  obtain ⟨_, _, _, _, hs, hl, hr, ht⟩ := Rule.read_cases h
  exact ⟨Context.read_tokens hl, hs, Context.read_tokens hr, items_ne_nil ht⟩

namespace RuleBook

/-- An accepted line sets one variable, adds one rule at the end or does nothing. -/
theorem read_line_cases {book next : RuleBook} {line : Text} (h : book.readLine line = .ok next) :
    (line.trim = [] ∨ line.trim.head? = some '#') ∧ next = book ∨
      ¬(line.trim = [] ∨ line.trim.head? = some '#') ∧
        ('=' ∈ line.trim ∧ (∃ assignment, Assignment.read line.trim = .ok assignment ∧
          next = { book with vars := book.vars.set assignment.name assignment.values }) ∨
        '=' ∉ line.trim ∧ ∃ rule, Rule.read book.vars line.trim = .ok rule ∧
          next = { book with rules := book.rules ++ [rule] }) := by
  simp only [readLine] at h
  split at h
  · rename_i hb
    cases h
    exact .inl ⟨hb, rfl⟩
  · rename_i hb
    split at h
    · rename_i he
      obtain ⟨assignment, ha, h⟩ := bind_ok.mp h
      cases h
      exact .inr ⟨hb, .inl ⟨he, assignment, ha, rfl⟩⟩
    · rename_i he
      obtain ⟨rule, hr, h⟩ := bind_ok.mp h
      cases h
      exact .inr ⟨hb, .inr ⟨he, rule, hr, rfl⟩⟩

/-- The books of all sessions. A refused line leaves its book as it was, so only the lines that
are accepted count. -/
inductive Reached : RuleBook → Prop
  | empty : Reached .empty
  | line {book next : RuleBook} {line : Text} (before : Reached book)
      (accepted : book.readLine line = .ok next) : Reached next

theorem Reached.lines {book : RuleBook} (h : book.Reached) (number : Nat)
    (lines : List (Except FileError Text)) : (book.readLines number lines).book.Reached := by
  induction lines generalizing book number with
  | nil => exact h
  | cons line rest ih =>
    cases line with
    | error cause => exact h
    | ok line =>
      simp only [readLines]
      cases hl : book.readLine line with
      | error error => exact h
      | ok next => exact ih (h.line hl) (number + 1)

theorem Reached.read {book : RuleBook} (h : book.Reached) (content : Content) :
    (book.read content).book.Reached :=
  h.lines 1 content.lines

theorem reached_of_content {content : Content} {book : RuleBook}
    (h : ofContent content = .ok book) : book.Reached := by
  unfold ofContent Reading.complete at h
  split at h
  · cases h
  · cases h
    exact Reached.empty.read content

theorem Reached.filled {book : RuleBook} (h : book.Reached) : ∀ rule ∈ book.rules, rule.Filled := by
  induction h with
  | empty => simp [RuleBook.empty]
  | line _ accepted ih =>
    rcases read_line_cases accepted with ⟨_, rfl⟩ | ⟨_, ⟨_, _, _, rfl⟩ | ⟨_, rule, hr, rfl⟩⟩
    · exact ih
    · exact ih
    · intro other ho
      rcases List.mem_append.mp ho with ho | ho
      · exact ih other ho
      · rw [List.mem_singleton.mp ho]
        exact Rule.read_filled hr

end RuleBook

end LetterToSound
