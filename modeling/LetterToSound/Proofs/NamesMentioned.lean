import LetterToSound.Proofs.ContextFields
import LetterToSound.Proofs.InPlace

namespace LetterToSound

theorem map_m_congr {α β ε : Type} {f g : α → Except ε β} {xs : List α}
    (h : ∀ x ∈ xs, f x = g x) : xs.mapM f = xs.mapM g := by
  induction xs with
  | nil => rfl
  | cons x xs ih =>
    have hx : f x = g x := h x List.mem_cons_self
    have hxs : xs.mapM f = xs.mapM g := ih fun y hy => h y (List.mem_cons_of_mem _ hy)
    rw [List.mapM_cons, List.mapM_cons, hx, hxs]

theorem Variables.set_comm (vars : Variables) {name next : Text} (h : name ≠ next)
    (values others : List Text) :
    (vars.set name values).set next others = (vars.set next others).set name values := by
  apply ext_get
  intro found
  simp only [get_set]
  by_cases hn : found = name
  · subst found
    simp [h]
  · simp [hn]

namespace Context

/-- The names that reading a field can look up: that of all tokens, the field as a whole, and the
parts into which the signs cut it. -/
def mentions (field : Text) : List Text :=
  Variables.allName :: field ::
    match field with
    | '-' :: names => Text.pieces '-' names
    | names => Text.pieces '+' names

theorem mentions_plus {field : Text} (h : field.head? ≠ some '-') :
    mentions field = Variables.allName :: field :: field.pieces '+' := by
  unfold mentions
  split
  · exact absurd rfl h
  · rfl

/-- A field that is no wildcard's name is read as one operand, which mentions no other names. -/
theorem exists_operand (field : Text) :
    ∃ (sign : Char) (operand : Text) (make : List Text → List Text → Context),
      (∀ name ∈ operand.pieces sign, name ∈ mentions field) ∧
      ∀ vars all, readTokens vars all field = (readOperand vars sign operand).map (make all) := by
  by_cases hm : field.head? = some '-'
  · obtain ⟨operand, rfl⟩ := List.head?_eq_some_iff.mp hm
    refine ⟨'-', operand, _, fun name hn => ?_, fun vars all => read_tokens_minus operand⟩
    simp [mentions, hn]
  · refine ⟨'+', field, fun _ => .only, fun name hn => ?_, fun vars all => read_tokens_plus hm⟩
    simp [mentions_plus hm, hn]

section

variable {vars other : Variables}

theorem read_operand_congr {sign : Char} {t : Text}
    (h : ∀ name ∈ t.pieces sign, vars.get? name = other.get? name) :
    readOperand vars sign t = readOperand other sign t := by
  by_cases hl : t.head? = some '('
  · obtain ⟨inner, rfl⟩ := List.head?_eq_some_iff.mp hl
    rfl
  · have hm : (t.splitOn sign).mapM vars.find = (t.splitOn sign).mapM other.find := by
      apply map_m_congr
      intro name hn
      unfold Variables.find
      rw [h _ (List.mem_map_of_mem hn)]
    rw [read_operand_names hl, read_operand_names hl, hm]

/-- A field is read alike wherever the names that it mentions have the same values. -/
theorem read_congr {field : Text}
    (h : ∀ name ∈ mentions field, vars.get? name = other.get? name) :
    read vars field = read other field := by
  have hfield : vars.get? field = other.get? field := by
    apply h
    simp [mentions]
  have hall : vars.all? = other.all? := by
    apply h
    simp [mentions]
  have htokens (all : List Text) : readTokens vars all field = readTokens other all field := by
    obtain ⟨sign, operand, make, hnames, hread⟩ := exists_operand field
    rw [hread, hread, read_operand_congr fun name hn => h name (hnames name hn)]
  rw [read, read, hfield, hall]
  simp only [htokens]

end

end Context

namespace Rule

/-- The names that both context fields of a line mention, if it has four fields. -/
def mentions (line : Text) : List Text :=
  match line.pieces '\t' with
  | [left, _, right, _] => Context.mentions left ++ Context.mentions right
  | _ => []

theorem read_congr {vars other : Variables} {line : Text}
    (h : ∀ name ∈ mentions line, vars.get? name = other.get? name) :
    Rule.read vars line = Rule.read other line := by
  unfold Rule.read
  unfold mentions at h
  split
  · rename_i left source right targets hp
    simp only [hp] at h
    have hl : Context.read vars left = Context.read other left := by
      apply Context.read_congr
      intro name hn
      exact h name (List.mem_append_left _ hn)
    have hr : Context.read vars right = Context.read other right := by
      apply Context.read_congr
      intro name hn
      exact h name (List.mem_append_right _ hn)
    rw [hl, hr]
  · rfl

end Rule

namespace Text

/-- A line that is neither a remark nor an assignment, so it is read as a rule or refused as one. -/
structure RuleLine (line : Text) : Prop where
  no_remark : ¬line.Remark
  no_assignment : '=' ∉ line.trim

/-- A line that gives a variable its values, whatever the book. -/
structure AssignmentLine (line name : Text) (values : List Text) : Prop where
  no_remark : ¬line.Remark
  assigns : line.trim.Assigns name values

end Text

namespace RuleBook

def withRule (book : RuleBook) (rule : Rule) : RuleBook :=
  { book with rules := book.rules ++ [rule] }

def withValues (book : RuleBook) (name : Text) (values : List Text) : RuleBook :=
  { book with vars := book.vars.set name values }

/-- What a rule line comes to depends on the variables, and all that it changes are the rules. -/
theorem read_rule_line {line : Text} (h : line.RuleLine) (book : RuleBook) :
    book.readLine line = (Rule.read book.vars line.trim).map book.withRule := by
  have hr : ¬(line.trim = [] ∨ line.trim.head? = some '#') := h.no_remark
  simp only [readLine, if_neg hr, if_neg h.no_assignment]
  cases Rule.read book.vars line.trim <;> rfl

theorem read_assignment_line {line name : Text} {values : List Text}
    (h : line.AssignmentLine name values) (book : RuleBook) :
    book.readLine line = .ok (book.withValues name values) := by
  have hs : book.Sets (book.withValues name values) name values := sets_iff.mpr rfl
  exact (Takes.assignment h.no_remark h.assigns hs).read_line

theorem rules_kept_by_line {book next : RuleBook} {line : Text}
    (h : book.readLine line = .ok next) : book.rules <+: next.rules := by
  rcases read_line_cases h with ⟨_, rfl⟩ | ⟨_, ⟨_, _, _, rfl⟩ | ⟨_, rule, _, rfl⟩⟩
  · exact List.prefix_refl _
  · exact List.prefix_refl _
  · exact List.prefix_append _ _

theorem rules_kept_by_lines (book : RuleBook) (number : Nat)
    (lines : List (Except FileError Text)) :
    book.rules <+: (book.readLines number lines).book.rules := by
  induction lines generalizing book number with
  | nil => exact List.prefix_refl _
  | cons line rest ih =>
    cases line with
    | error cause => exact List.prefix_refl _
    | ok line =>
      simp only [readLines]
      cases hl : book.readLine line with
      | error error => exact List.prefix_refl _
      | ok next => exact (rules_kept_by_line hl).trans (ih next (number + 1))

theorem rules_kept_by_calls (book : RuleBook) (calls : List Call) :
    book.rules <+: (calls.foldl after book).rules := by
  induction calls generalizing book with
  | nil => exact List.prefix_refl _
  | cons call calls ih =>
    have hc : book.rules <+: (book.after call).rules := by
      rw [after_eq]
      exact rules_kept_by_lines book 1 call.lines
    exact hc.trans (ih (book.after call))

end RuleBook

namespace Change

/-- In either order the two lines end as they do in the other, and they leave the same book. -/
def Swap (t u : Text) (book : RuleBook) : Prop :=
  ∃ ends others middle between last, (line t).on book = (ends, middle) ∧
    (line u).on middle = (others, last) ∧ (line u).on book = (others, between) ∧
    (line t).on between = (ends, last)

variable {t u name : Text} {values : List Text}

theorem on_assignment_line (h : t.AssignmentLine name values) (book : RuleBook) :
    (line t).on book = (.ok (), book.withValues name values) :=
  on_line_eq_ok_iff.mpr (RuleBook.read_assignment_line h book)

theorem on_rule_line (h : u.RuleLine) (book : RuleBook) :
    (line u).on book =
      match Rule.read book.vars u.trim with
      | .ok rule => (.ok (), book.withRule rule)
      | .error error => (.error error, book) := by
  rw [on_line, RuleBook.read_rule_line h]
  cases Rule.read book.vars u.trim <;> rfl

theorem swap_rule_line (h : t.AssignmentLine name values) (hu : u.RuleLine)
    (hn : name ∉ Rule.mentions u.trim) (book : RuleBook) : Swap t u book := by
  have hr : Rule.read (book.withValues name values).vars u.trim = Rule.read book.vars u.trim := by
    apply Rule.read_congr
    intro other ho
    have hne : other ≠ name := fun he => hn (he ▸ ho)
    simp [RuleBook.withValues, Variables.get_set, hne]
  have hbefore := on_rule_line hu book
  have hafter := on_rule_line hu (book.withValues name values)
  rw [hr] at hafter
  cases hread : Rule.read book.vars u.trim with
  | ok rule =>
    rw [hread] at hbefore hafter
    exact ⟨_, _, _, _, _, on_assignment_line h book, hafter, hbefore, on_assignment_line h _⟩
  | error error =>
    rw [hread] at hbefore hafter
    exact ⟨_, _, _, _, _, on_assignment_line h book, hafter, hbefore, on_assignment_line h _⟩

theorem swap_assignment_lines {next : Text} {others : List Text}
    (h : t.AssignmentLine name values) (hu : u.AssignmentLine next others) (hn : name ≠ next)
    (book : RuleBook) : Swap t u book := by
  refine ⟨_, _, _, _, _, on_assignment_line h book, on_assignment_line hu _,
    on_assignment_line hu book, ?_⟩
  rw [on_assignment_line h]
  simp only [RuleBook.withValues, book.vars.set_comm hn]

/-- A rule line comes to the same in all books where the names that it mentions have the same
values. An assignment to another name can change places with it, two assignments to different names
can with each other, and whatever is read later leaves the rules that are there as they are. -/
theorem reads_mentioned_names :
    (∀ (book other : RuleBook) (u : Text), u.RuleLine →
      (∀ name ∈ Rule.mentions u.trim, book.vars.get? name = other.vars.get? name) →
      ∃ result : Except LineError Rule, book.readLine u = result.map book.withRule ∧
        other.readLine u = result.map other.withRule) ∧
    (∀ (book : RuleBook) (t u name : Text) (values : List Text), t.AssignmentLine name values →
      u.RuleLine → name ∉ Rule.mentions u.trim → Swap t u book) ∧
    (∀ (book : RuleBook) (t u name next : Text) (values others : List Text),
      t.AssignmentLine name values → u.AssignmentLine next others → name ≠ next →
      Swap t u book) ∧
    ∀ (book : RuleBook) (calls : List Call),
      book.rules <+: (calls.foldl RuleBook.after book).rules := by
  refine ⟨fun book other u hu h => ?_, fun book _ _ _ _ ht hu hn => swap_rule_line ht hu hn book,
    fun book _ _ _ _ _ _ ht hu hn => swap_assignment_lines ht hu hn book,
    RuleBook.rules_kept_by_calls⟩
  refine ⟨Rule.read book.vars u.trim, RuleBook.read_rule_line hu book, ?_⟩
  rw [Rule.read_congr h]
  exact RuleBook.read_rule_line hu other

/-- The line names one variable of three, and the others can come and go. -/
theorem reads_mentioned_name_of_three :
    let book := RuleBook.ofLines ["ALL = a, b, c", "V = a"]
    let other := RuleBook.ofLines ["ALL = a, b, c", "W = b", "V = a", "X = *"]
    let u : Text := "-V\ta\t(b)\tx"
    let w : Text := "W = b"
    let x : Text := "X = *"
    let rule : Rule := ⟨.allBut ["b", "c", "$"], "a", .only ["b"], ["x"]⟩
    Rule.mentions u = ["ALL", "-V", "V", "ALL", "(b)", "(b)"] ∧
      Rule.read book.vars u = .ok rule ∧ other.readLine u = .ok (other.withRule rule) ∧
      Swap w u book ∧ Swap w x book ∧
      book.rules <+: ([.line u, .line w, .line "V = b"].foldl RuleBook.after book).rules := by
  intro book other u w x rule
  have hu : u.RuleLine := ⟨not_or.mpr ⟨by decide, by decide⟩, by decide⟩
  have hwread : Assignment.read w.trim = .ok ⟨"W", ["b"]⟩ := by decide
  have hw : w.AssignmentLine "W" ["b"] :=
    ⟨not_or.mpr ⟨by decide, by decide⟩, Assignment.read_iff.mp hwread⟩
  have hxread : Assignment.read x.trim = .ok ⟨"X", ["*"]⟩ := by decide
  have hx : x.AssignmentLine "X" ["*"] :=
    ⟨not_or.mpr ⟨by decide, by decide⟩, Assignment.read_iff.mp hxread⟩
  have hread : Rule.read book.vars u.trim = .ok rule := by decide
  obtain ⟨hsame, hrule, hassign, hkept⟩ := reads_mentioned_names
  obtain ⟨result, hb, ho⟩ := hsame book other u hu (by decide)
  rw [RuleBook.read_rule_line hu, hread] at hb
  cases result with
  | error error => cases hb
  | ok found =>
    have hl := congrArg RuleBook.rules (Except.ok.inj hb)
    obtain rfl : rule = found := by simpa [RuleBook.withRule] using hl
    exact ⟨by decide, hread, ho, hrule book w u _ _ hw hu (by decide),
      hassign book w x _ _ _ _ hw hx (by decide), hkept book _⟩

end Change

end LetterToSound
