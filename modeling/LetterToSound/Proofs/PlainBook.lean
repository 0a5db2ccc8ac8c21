import LetterToSound.Proofs.Calls
import LetterToSound.Proofs.TextLines

namespace LetterToSound

structure Variables.Plain (vars : Variables) : Prop where
  name : ∀ entry ∈ vars.entries, '\n' ∉ entry.1
  value : ∀ entry ∈ vars.entries, ∀ value ∈ entry.2, value.Clean [',', '=', '\n']

structure Context.Plain (vars : Variables) (context : Context) : Prop where
  token : ∀ tokens, context.tokens? = some tokens →
    ∀ token ∈ tokens, token.Clean [',', '=', '\n']
  known : ∀ tokens, context.tokens? = some tokens → ∃ all, vars.all? = some all

structure Rule.Plain (vars : Variables) (rule : Rule) : Prop where
  left : rule.left.Plain vars
  source : '\n' ∉ rule.source
  right : rule.right.Plain vars
  target : ∀ target ∈ rule.targets, '\n' ∉ target

structure RuleBook.Plain (book : RuleBook) : Prop where
  vars : book.vars.Plain
  rules : ∀ rule ∈ book.rules, rule.Plain book.vars

/-- A variable can be changed but not taken away. -/
theorem Context.Plain.set {vars : Variables} {context : Context} (h : context.Plain vars)
    (name : Text) (values : List Text) : context.Plain (vars.set name values) := by
  refine ⟨h.token, fun tokens hk => ?_⟩
  obtain ⟨all, ha⟩ := h.known tokens hk
  rw [Variables.all?, Variables.get_set]
  split
  · exact ⟨values, rfl⟩
  · exact ⟨all, ha⟩

theorem Variables.Plain.set {vars : Variables} (h : vars.Plain) {line : Text}
    {assignment : Assignment} (hl : '\n' ∉ line) (ha : Assignment.read line = .ok assignment) :
    (vars.set assignment.name assignment.values).Plain := by
  obtain ⟨left, right, values, hs, hname, _, _, _, hv, hvalues⟩ := Assignment.read_cases ha
  have hleft : '\n' ∉ left := fun hm => hl (mem_of_mem_split (hs ▸ List.mem_cons_self) hm).1
  have hright : ∀ c ∈ ['=', '\n'], c ∉ right := by
    have hm : right ∈ line.splitOn '=' := hs ▸ List.mem_cons_of_mem _ List.mem_cons_self
    intro c hc hr
    obtain ⟨hline, hne⟩ := mem_of_mem_split hm hr
    simp only [List.mem_cons, List.not_mem_nil, or_false] at hc
    rcases hc with rfl | rfl
    · exact hne rfl
    · exact hl hline
  refine ⟨fun entry he => ?_, fun entry he => ?_⟩
  · rcases mem_setSorted he with rfl | he
    · rw [hname]
      exact fun hm => hleft (Text.mem_of_mem_trim hm)
    · exact h.name entry he
  · rcases mem_setSorted he with rfl | he
    · intro value hm
      rw [hvalues] at hm
      rcases Assignment.with_boundary_cases hm with hm | rfl
      · exact clean_items hv hright value hm
      · exact ⟨by decide, by decide, by simp [Token.boundary]⟩
    · exact h.value entry he

theorem Context.read_plain {vars : Variables} (h : vars.Plain) {field : Text} {context : Context}
    (hf : ∀ c ∈ ['=', '\n'], c ∉ field) (hr : Context.read vars field = .ok context) :
    context.Plain vars := by
  rcases read_cases hr with ⟨_, rfl⟩ | ⟨all, ha, ht, _⟩
  · exact ⟨nofun, nofun⟩
  · refine ⟨fun tokens hk => ?_, fun _ _ => ⟨all, ha⟩⟩
    rcases read_tokens_cases ht with
      ⟨inner, items, hs, hi, rfl⟩ | ⟨_, lists, hl, rfl⟩ | ⟨remaining, hs, rfl⟩
    · cases hk
      exact clean_items hi fun c hc hm => hf c hc (hs hm)
    · cases hk
      have hv : ∀ values ∈ lists, ∀ value ∈ values, value.Clean [',', '=', '\n'] := by
        have hp := hl.flip.imp
          (S := fun values _ => (∀ value ∈ values, value.Clean [',', '=', '\n']) ∧ True)
          fun values name hg => ⟨h.value _ (Variables.mem_entries hg), trivial⟩
        exact ((List.forall₂_and_left lists _).mp hp).1
      intro token hm
      obtain ⟨values, hvalues, hm⟩ := List.mem_flatten.mp hm
      exact hv values hvalues token hm
    · cases hk
      exact fun token hm => h.value _ (Variables.mem_entries ha) token (hs.subset hm)

theorem Rule.read_plain {vars : Variables} (h : vars.Plain) {line : Text} {rule : Rule}
    (hf : ∀ c ∈ ['=', '\n'], c ∉ line) (hr : Rule.read vars line = .ok rule) : rule.Plain vars := by
  obtain ⟨left, right, targets, hp, _, hleft, hright, ht⟩ := Rule.read_cases hr
  have hfield {field : Text} (hm : field ∈ [left, rule.source, right, targets]) :
      ∀ c ∈ ['=', '\n'], c ∉ field :=
    fun c hc hi => hf c hc (Text.mem_of_mem_piece (hp ▸ hm) hi)
  refine ⟨Context.read_plain h (hfield (by simp)) hleft, hfield (by simp) '\n' (by simp),
    Context.read_plain h (hfield (by simp)) hright, fun target hm => ?_⟩
  exact (clean_items ht (hfield (by simp)) target hm).free '\n' (by simp)

namespace RuleBook

theorem plain_empty : Plain .empty :=
  ⟨⟨nofun, nofun⟩, nofun⟩

theorem Plain.line {book next : RuleBook} (h : book.Plain) {line : Text} (hl : '\n' ∉ line)
    (accepted : book.readLine line = .ok next) : next.Plain := by
  have ht : '\n' ∉ line.trim := fun hm => hl (Text.mem_of_mem_trim hm)
  rcases read_line_cases accepted with
    ⟨_, rfl⟩ | ⟨_, ⟨_, assignment, ha, rfl⟩ | ⟨he, rule, hr, rfl⟩⟩
  · exact h
  · refine ⟨h.vars.set ht ha, fun rule hr => ?_⟩
    obtain ⟨left, source, right, target⟩ := h.rules rule hr
    exact ⟨left.set _ _, source, right.set _ _, target⟩
  · refine ⟨h.vars, fun other ho => ?_⟩
    rcases List.mem_append.mp ho with ho | ho
    · exact h.rules other ho
    · rw [List.mem_singleton.mp ho]
      exact Rule.read_plain h.vars (by simp [he, ht]) hr

theorem Plain.lines {book : RuleBook} (h : book.Plain) (number : Nat)
    {lines : List (Except FileError Text)} (hl : ∀ line, .ok line ∈ lines → '\n' ∉ line) :
    (book.readLines number lines).book.Plain := by
  induction lines generalizing book number with
  | nil => exact h
  | cons first rest ih =>
    cases first with
    | error cause => exact h
    | ok line =>
      simp only [readLines]
      cases ha : book.readLine line with
      | error error => exact h
      | ok next =>
        exact ih (h.line (hl line List.mem_cons_self) ha) (number + 1)
          fun other ho => hl other (List.mem_cons_of_mem _ ho)

/-- The books that texts make of an empty one, each of them read to its end or not. -/
inductive FromTexts : RuleBook → Prop
  | empty : FromTexts .empty
  | read {book : RuleBook} (before : FromTexts book) (content : Content) :
      FromTexts (book.read content).book

theorem FromTexts.reached {book : RuleBook} (h : book.FromTexts) : book.Reached := by
  induction h with
  | empty => exact .empty
  | read _ content ih => exact ih.read content

theorem FromTexts.plain {book : RuleBook} (h : book.FromTexts) : book.Plain := by
  induction h with
  | empty => exact plain_empty
  | read _ content ih => exact ih.lines 1 fun _ => Content.line_feed_not_mem

end RuleBook

end LetterToSound
