import LetterToSound.Proofs.Calls
import LetterToSound.Proofs.Readings

namespace LetterToSound

/-- Changes a book in place. What has changed before a failure stays changed. -/
abbrev Change (ε : Type) : Type → Type := ExceptT ε (StateM RuleBook)

namespace Change

variable {ε : Type}

/-- How the change ends, and the book that it leaves. -/
def on (change : Change ε Unit) (book : RuleBook) : Except ε Unit × RuleBook := change.run.run book

def assign (line : Text) : Change LineError Unit := do
  let assignment ← Assignment.read line
  modify fun book => { book with vars := book.vars.set assignment.name assignment.values }

def addRule (line : Text) : Change LineError Unit := do
  match line.pieces '\t' with
  | [left, source, right, targets] =>
    if source = [] then throw .emptySource
    else do
      let left ← Context.read (← get).vars left
      let right ← Context.read (← get).vars right
      let targets ← readItems .emptyTarget targets
      modify fun book => { book with rules := book.rules ++ [{ left, source, right, targets }] }
  | fields => throw (.fieldCount fields.length)

def line (t : Text) : Change LineError Unit :=
  if t.trim = [] ∨ t.trim.head? = some '#' then pure ()
  else if '=' ∈ t.trim then assign t.trim
  else addRule t.trim

def lines (number : Nat) : List (Except FileError Text) → Change RulesError Unit
  | [] => pure ()
  | .error cause :: _ => throw (.unreadable cause)
  | .ok t :: rest => do
    ExceptT.adapt (.badLine number t.trim) (line t)
    lines (number + 1) rest

theorem on_bind (change : Change ε Unit) (next : Unit → Change ε Unit) (book : RuleBook) :
    (change >>= next).on book =
      match change.on book with
      | (.ok (), after) => (next ()).on after
      | (.error error, after) => (.error error, after) := by
  simp only [on, ExceptT.run_bind, StateT.run_bind]
  generalize change.run.run book = result
  obtain ⟨ending, after⟩ := result
  cases ending <;> rfl

/-- What is read but not changed has no effect on the book. -/
theorem on_read {α : Type} (read : Except ε α) (next : α → Change ε Unit) (book : RuleBook) :
    on (do let a ← read; next a : Change ε Unit) book =
      match read with
      | .ok a => (next a).on book
      | .error error => (.error error, book) := by
  cases read <;> rfl

theorem on_get (next : RuleBook → Change ε Unit) (book : RuleBook) :
    on (do let now ← get; next now : Change ε Unit) book = (next book).on book := rfl

theorem on_assign (line : Text) (book : RuleBook) :
    (assign line).on book =
      match Assignment.read line with
      | .ok assignment =>
        (.ok (), { book with vars := book.vars.set assignment.name assignment.values })
      | .error error => (.error error, book) := by
  rw [assign, on_read]
  cases Assignment.read line <;> rfl

/-- The fields are read one by one, and the book is the same at each of them. -/
theorem on_add_rule (line : Text) (book : RuleBook) :
    (addRule line).on book =
      match Rule.read book.vars line with
      | .ok rule => (.ok (), { book with rules := book.rules ++ [rule] })
      | .error error => (.error error, book) := by
  unfold addRule Rule.read
  match line.pieces '\t' with
  | [left, source, right, targets] =>
    dsimp only
    split
    · rfl
    · rw [on_get, on_read]
      cases Context.read book.vars left with
      | error error => rfl
      | ok before =>
        dsimp only
        rw [on_get, on_read]
        cases Context.read book.vars right with
        | error error => rfl
        | ok after =>
          dsimp only
          rw [on_read]
          cases readItems .emptyTarget targets <;> rfl
  | [] | [_] | [_, _] | [_, _, _] | _ :: _ :: _ :: _ :: _ :: _ => rfl

theorem on_line (t : Text) (book : RuleBook) :
    (line t).on book =
      match book.readLine t with
      | .ok next => (.ok (), next)
      | .error error => (.error error, book) := by
  unfold line RuleBook.readLine
  dsimp only
  split
  · rfl
  · split
    · rw [on_assign]
      cases Assignment.read t.trim <;> rfl
    · rw [on_add_rule]
      cases Rule.read book.vars t.trim <;> rfl

theorem on_adapt {δ : Type} (f : δ → ε) (change : Change δ Unit) (next : Change ε Unit)
    (book : RuleBook) :
    on (do ExceptT.adapt f change; next) book =
      match change.on book with
      | (.ok (), after) => next.on after
      | (.error error, after) => (.error (f error), after) := by
  simp only [on, ExceptT.run_bind, StateT.run_bind, ExceptT.run_adapt, StateT.run_map]
  generalize change.run.run book = result
  obtain ⟨ending, after⟩ := result
  cases ending <;> rfl

theorem on_lines (number : Nat) (texts : List (Except FileError Text)) (book : RuleBook) :
    (lines number texts).on book =
      match book.readLines number texts with
      | ⟨next, none⟩ => (.ok (), next)
      | ⟨next, some error⟩ => (.error error, next) := by
  induction texts generalizing number book with
  | nil => rfl
  | cons first rest ih =>
    cases first with
    | error cause => rfl
    | ok t =>
      rw [lines, on_adapt, on_line]
      simp only [RuleBook.readLines]
      cases book.readLine t with
      | error error => rfl
      | ok next => exact ih (number + 1) next

theorem on_line_eq_ok_iff {t : Text} {book next : RuleBook} :
    (line t).on book = (.ok (), next) ↔ book.readLine t = .ok next := by
  rw [on_line]
  cases book.readLine t <;> simp

theorem on_line_eq_error_iff {t : Text} {book next : RuleBook} {error : LineError} :
    (line t).on book = (.error error, next) ↔ book.readLine t = .error error ∧ next = book := by
  rw [on_line]
  cases book.readLine t <;> simp [@eq_comm _ next]

/-- Lines that are accepted one after the other are accepted in place, too. -/
theorem on_for_m {texts : List Text} {book next : RuleBook}
    (h : texts.foldlM RuleBook.readLine book = .ok next) :
    (texts.forM line).on book = (.ok (), next) := by
  induction texts generalizing book with
  | nil =>
    cases h
    rfl
  | cons t texts ih =>
    rw [List.foldlM_cons] at h
    obtain ⟨middle, hm, hr⟩ := bind_ok.mp h
    change on (do line t; texts.forM line) book = (.ok (), next)
    rw [on_bind, on_line_eq_ok_iff.mpr hm]
    exact ih hr

def after (book : RuleBook) : Call → RuleBook
  | .line t => ((line t).on book).2
  | .text content => ((lines 1 content.lines).on book).2

def session (calls : List Call) : RuleBook := calls.foldl after .empty

theorem after_eq (book : RuleBook) (call : Call) : after book call = book.after call := by
  cases call with
  | line t =>
    simp only [after, RuleBook.after, on_line]
    cases book.readLine t <;> rfl
  | text content =>
    simp only [after, RuleBook.after, RuleBook.read, on_lines]
    obtain ⟨next, error⟩ := book.readLines 1 content.lines
    cases error <;> rfl

/-- The lines that are accepted until one of them is not. -/
def accepted (book : RuleBook) : List (Except FileError Text) → List Text
  | .ok t :: rest =>
    match (line t).on book with
    | (.ok (), next) => t :: accepted next rest
    | (.error _, _) => []
  | _ => []

def acceptedIn (book : RuleBook) : List Call → List Text
  | [] => []
  | call :: calls => accepted book call.lines ++ acceptedIn (after book call) calls

theorem accepted_sublist (book : RuleBook) (texts : List (Except FileError Text)) :
    ((accepted book texts).map .ok).Sublist texts := by
  induction texts generalizing book with
  | nil => exact .slnil
  | cons first rest ih =>
    cases first with
    | error cause => exact List.nil_sublist _
    | ok t =>
      rw [accepted, on_line]
      cases book.readLine t with
      | error error => exact List.nil_sublist _
      | ok next => exact (ih next).cons_cons _

theorem accepted_in_sublist (book : RuleBook) (calls : List Call) :
    ((acceptedIn book calls).map .ok).Sublist (calls.flatMap Call.lines) := by
  induction calls generalizing book with
  | nil => exact .slnil
  | cons call calls ih =>
    rw [acceptedIn, List.map_append, List.flatMap_cons]
    exact (accepted_sublist book call.lines).append (ih _)

/-- The accepted lines alone take the book as far as all lines do. -/
theorem foldl_accepted (book : RuleBook) (number : Nat) (texts : List (Except FileError Text)) :
    (accepted book texts).foldlM RuleBook.readLine book =
      .ok (book.readLines number texts).book := by
  induction texts generalizing book number with
  | nil => rfl
  | cons first rest ih =>
    cases first with
    | error cause => rfl
    | ok t =>
      simp only [accepted, on_line, RuleBook.readLines]
      cases hl : book.readLine t with
      | error error => rfl
      | ok next =>
        dsimp only
        rw [List.foldlM_cons, hl]
        exact ih next (number + 1)

theorem foldl_accepted_in (book : RuleBook) (calls : List Call) :
    (acceptedIn book calls).foldlM RuleBook.readLine book = .ok (calls.foldl after book) := by
  induction calls generalizing book with
  | nil => rfl
  | cons call calls ih =>
    have hb : (book.readLines 1 call.lines).book = after book call := by
      rw [after_eq, RuleBook.after_eq]
    rw [acceptedIn, List.foldlM_append, foldl_accepted book 1, hb]
    exact ih (after book call)

/-- A line that is refused leaves the book as it was. The book of a session is the one that its
accepted lines make, and a text that fails leaves what the lines before the failure have made. -/
theorem refused_leaves_no_trace :
    (∀ (book next : RuleBook) (t : Text) (error : LineError),
      (line t).on book = (.error error, next) ↔ book.readLine t = .error error ∧ next = book) ∧
    (∀ (book next : RuleBook) (t : Text),
      (line t).on book = (.ok (), next) ↔ book.readLine t = .ok next) ∧
    (∀ calls : List Call,
      ((acceptedIn .empty calls).forM line).on .empty = (.ok (), session calls) ∧
      ((acceptedIn .empty calls).map .ok).Sublist (calls.flatMap Call.lines) ∧
      session calls = RuleBook.session calls) ∧
    ∀ (book next : RuleBook) (texts : List (Except FileError Text)) (error : RulesError),
      (lines 1 texts).on book = (.error error, next) →
      ∃ (done : List Text) (first : Except FileError Text) (rest : List (Except FileError Text)),
        texts = done.map .ok ++ first :: rest ∧
        (done.forM line).on book = (.ok (), next) ∧
        next.Stops (1 + done.length) first error := by
  refine ⟨fun _ _ _ _ => on_line_eq_error_iff, fun _ _ _ => on_line_eq_ok_iff, fun calls => ?_,
    fun book next texts error h => ?_⟩
  · have hs : session calls = RuleBook.session calls := by
      unfold session RuleBook.session
      congr 1
      funext book call
      exact after_eq book call
    exact ⟨on_for_m (foldl_accepted_in .empty calls), accepted_in_sublist .empty calls, hs⟩
  · have hr := RuleBook.reads book 1 texts
    rw [on_lines] at h
    generalize book.readLines 1 texts = reading at h hr
    cases hr with
    | all done accepted => cases h
    | upTo done rest accepted stops =>
      cases h
      exact ⟨done, _, rest, rfl, on_for_m accepted, stops⟩

theorem refused_third_line :
    let texts : List (Except FileError Text) := [.ok "ALL = a", .ok "E = *", .ok "E\ta\t(a)\t,"]
    let next := ((lines 1 texts).on .empty).2
    (lines 1 texts).on .empty =
      (.error (.badLine 3 "E\ta\t(a)\t," .emptyTarget), next) ∧
      next.vars.size = 2 ∧ next.rules = [] ∧
      ∃ (done : List Text) (first : Except FileError Text) (rest : List (Except FileError Text)),
        texts = done.map .ok ++ first :: rest ∧
        (done.forM line).on .empty = (.ok (), next) ∧
        next.Stops (1 + done.length) first (.badLine 3 "E\ta\t(a)\t," .emptyTarget) := by
  intro texts next
  have hf : ((lines 1 texts).on .empty).1 =
      .error (.badLine 3 "E\ta\t(a)\t," .emptyTarget) := by
    rw [on_lines]
    rfl
  have h : (lines 1 texts).on .empty = (.error (.badLine 3 "E\ta\t(a)\t," .emptyTarget), next) := by
    rw [← hf]
  have hs : next.vars.size = 2 ∧ next.rules = [] := by
    dsimp only [next]
    rw [on_lines]
    decide
  exact ⟨h, hs.1, hs.2, refused_leaves_no_trace.2.2.2 _ _ _ _ h⟩

end Change

end LetterToSound
