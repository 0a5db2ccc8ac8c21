import LetterToSound.Proofs.NamedContexts
import LetterToSound.Proofs.NamesMentioned
import LetterToSound.Proofs.RuleOrder

namespace LetterToSound

/-- What is stored over an output that was stored over another is what both together would be. -/
theorem Output.replacing_trans (new old : Output) (older : Option Output) :
    new.replacing (some (old.replacing older)) =
      (new.replacing (some old)).replacing older := by
  cases older with
  | none => rfl
  | some older => grind [replacing]

theorem Output.replacing_self (output : Output) : output.replacing (some output) = output := by
  simp [replacing]

namespace Rule

/-- To store rules over an output is to store over it what they leave alone. -/
theorem foldl_store_over (rules : List Rule) (q : List Step) (old : Option Output) :
    rules.foldl (storeAt q) old =
      match rules.foldl (storeAt q) none with
      | none => old
      | some new => some (new.replacing old) := by
  induction rules using List.reverseRecOn with
  | nil => rfl
  | append_singleton rules rule ih =>
    simp only [List.foldl_append, List.foldl_cons, List.foldl_nil]
    rw [ih]
    generalize rules.foldl (storeAt q) none = stored
    unfold storeAt
    split
    · cases stored with
      | none => rfl
      | some new => exact congrArg some (Output.replacing_trans rule.output new old)
    · rfl

theorem foldl_store_twice (rules : List Rule) (q : List Step) :
    (rules ++ rules).foldl (storeAt q) none = rules.foldl (storeAt q) none := by
  rw [List.foldl_append, foldl_store_over]
  cases rules.foldl (storeAt q) none with
  | none => rfl
  | some output => exact congrArg some output.replacing_self

theorem Alike.refl (rule : Rule) : rule.Alike rule := by
  have hs (context : Context) : context.SameTokens context := by
    unfold Context.SameTokens
    cases context.tokens? with
    | none => exact .none
    | some tokens => exact .some fun _ => Iff.rfl
  exact ⟨hs rule.left, rfl, hs rule.right, rfl⟩

end Rule

theorem RuleTrie.alike_of_doubled (rules : List Rule) :
    (ofRules (rules ++ rules)).Alike (ofRules rules) := by
  apply alike_of_partners
  · intro rule hm
    exact ⟨rule, by simpa using hm, .refl rule⟩
  · intro rule hm
    exact ⟨rule, List.mem_append_left _ hm, .refl rule⟩
  · exact Rule.foldl_store_twice rules

namespace Context

section

variable {vars other : Variables}
  (hk : ∀ name values, vars.get? name = some values → other.get? name = some values)
include hk

theorem read_operand_kept {sign : Char} {t : Text} {items : List Text}
    (h : readOperand vars sign t = .ok items) : readOperand other sign t = .ok items := by
  rw [read_operand_eq_iff] at h ⊢
  cases h with
  | list lists => exact .list lists
  | names parted known => exact .names parted (known.imp fun _ _ hv => hk _ _ hv)

theorem read_tokens_kept {all : List Text} {field : Text} {context : Context}
    (h : readTokens vars all field = .ok context) : readTokens other all field = .ok context := by
  obtain ⟨sign, operand, make, _, hread⟩ := exists_operand field
  rw [hread] at h ⊢
  cases ho : readOperand vars sign operand with
  | error error =>
    rw [ho] at h
    cases h
  | ok items => rwa [read_operand_kept hk ho, ← ho]

end

/-- No sign cuts the name, so it is read only if a variable has it. -/
theorem known_of_read_name {vars : Variables} {all : List Text} {name : Text} {context : Context}
    (hn : Variables.SoundName name) (hp : '+' ∉ name)
    (h : readTokens vars all name = .ok context) : ∃ values, vars.get? name = some values := by
  rw [read_tokens_plus hn.no_exclusion, read_operand_names hn.no_list,
    List.splitOn_eq_singleton hp] at h
  cases hg : vars.get? name with
  | some values => exact ⟨values, rfl⟩
  | none =>
    have hf : vars.find name = .error (.unknownVariable name) := by
      rw [Variables.find_eq_error_iff, hn.trimmed]
      exact ⟨hg, rfl⟩
    rw [List.mapM_cons, hf] at h
    cases h

/-- A field that could be read can be read when further names are known, because no name that has
come up since is the whole field. -/
theorem read_kept {vars other : Variables} (hv : other.Sound)
    (hp : ∀ entry ∈ other.entries, '+' ∉ entry.1)
    (hk : ∀ name values, vars.get? name = some values → other.get? name = some values)
    {field : Text} {context : Context} (h : read vars field = .ok context) :
    read other field = .ok context := by
  by_cases hw : vars.get? field = some [Token.wildcard]
  · rw [read, if_pos hw] at h
    rw [read, if_pos (hk _ _ hw), ← h]
  · rcases read_cases h with ⟨hn, _⟩ | ⟨all, hall, ht, hf⟩
    · exact absurd hn hw
    · -- A wildcard with this name would have to be new, and an uncut name is not read before it is set.
      have hproper : other.get? field ≠ some [Token.wildcard] := by
        intro ho
        have hm := Variables.mem_entries ho
        obtain ⟨values, hg⟩ := known_of_read_name (hv.name _ hm) (hp _ hm) ht
        rw [hk _ _ hg] at ho
        exact hw (hg.trans ho)
      rw [read_of_ok hproper (hk _ _ hall) (read_tokens_kept hk ht), if_neg hf]

end Context

/-- A line that states a rule states it again when further names are known. -/
theorem Text.States.kept {vars other : Variables} (hv : other.Sound)
    (hp : ∀ entry ∈ other.entries, '+' ∉ entry.1)
    (hk : ∀ name values, vars.get? name = some values → other.get? name = some values)
    {line : Text} {rule : Rule} (h : line.States vars rule) : line.States other rule := by
  cases h with
  | intro cut no_assignment sourced left_read right_read lists =>
    exact .intro cut no_assignment sourced (Context.read_kept hv hp hk left_read)
      (Context.read_kept hv hp hk right_read) lists

namespace RuleBook

/-- A second reading has come as far as the first. It knows the values that the first had found up
to here, and otherwise what the first has found in the end. -/
structure Rereads (final first again : RuleBook) : Prop where
  vars : ∀ name, again.vars.get? name = (first.vars.get? name).or (final.vars.get? name)
  rules : again.rules = final.rules ++ first.rules

theorem rereads_start (final : RuleBook) : Rereads final .empty final := by
  constructor
  · intro name
    rfl
  · exact (List.append_nil _).symm

theorem Rereads.at_end {final again : RuleBook} (h : Rereads final final again) :
    again = ⟨final.vars, final.rules ++ final.rules⟩ := by
  have hv : again.vars = final.vars := by
    apply Variables.ext_get
    intro name
    rw [h.vars, Option.or_self]
  rw [← hv, ← h.rules]

section

variable {final first again next : RuleBook} {line : Text}

theorem Rereads.known (h : Rereads final first again) {name : Text} {values : List Text}
    (hg : first.vars.get? name = some values) : again.vars.get? name = some values := by
  rw [h.vars, hg, Option.some_or]

theorem Rereads.no_plus (h : Rereads final first again)
    (hp : ∀ entry ∈ final.vars.entries, '+' ∉ entry.1)
    (hfirst : ∀ name values, first.vars.get? name = some values →
      ∃ values, final.vars.get? name = some values) :
    ∀ entry ∈ again.vars.entries, '+' ∉ entry.1 := by
  rintro ⟨name, values⟩ hm
  have hg := Variables.get_eq_some_iff.mpr hm
  rw [h.vars, Option.or_eq_some_iff] at hg
  rcases hg with hg | ⟨_, hg⟩
  · obtain ⟨found, hf⟩ := hfirst name values hg
    exact hp (name, found) (Variables.mem_entries hf)
  · exact hp _ (Variables.mem_entries hg)

/-- A line that the first reading takes the second one takes, too, and it does the same. -/
theorem Rereads.takes (h : Rereads final first again) (hv : again.vars.Sound)
    (hp : ∀ entry ∈ again.vars.entries, '+' ∉ entry.1) (ht : first.Takes line next) :
    ∃ after, again.Takes line after ∧ Rereads final next after := by
  cases ht with
  | remark hr => exact ⟨again, .remark hr, h⟩
  | @assignment _ name values hr assigns sets =>
    refine ⟨{ again with vars := again.vars.set name values },
      .assignment hr assigns (sets_iff.mpr rfl), ?_, ?_⟩
    · intro other
      rw [Variables.get_set]
      split
      · rename_i ho
        rw [ho, sets.here, Option.some_or]
      · rename_i ho
        rw [h.vars, sets.elsewhere other ho]
    · rw [sets.rules]
      exact h.rules
  | @rule _ rule hr states adds =>
    -- All names that the rule looks up are set before it, so both readings find the same values.
    have hs := states.kept hv hp fun _ _ => h.known
    refine ⟨{ again with rules := again.rules ++ [rule] }, .rule hr hs (adds_iff.mpr rfl), ?_, ?_⟩
    · rw [adds.vars]
      exact h.vars
    · rw [adds.rules, ← List.append_assoc, ← h.rules]

theorem TakesAll.stays_known {lines : List Text} (h : TakesAll first lines final) {name : Text}
    (hk : ∃ values, first.vars.get? name = some values) :
    ∃ values, final.vars.get? name = some values := by
  induction h with
  | nil => exact hk
  | cons taken _ ih => exact ih (RuleBook.stays_known hk taken.read_line)

theorem Rereads.takes_all {lines : List Text} (h : Rereads final first again)
    (hr : again.Reached) (hp : ∀ entry ∈ final.vars.entries, '+' ∉ entry.1)
    (ht : TakesAll first lines final) :
    ∃ after, TakesAll again lines after ∧ Rereads final final after := by
  induction ht generalizing again with
  | nil => exact ⟨again, .nil, h⟩
  | @cons first next final line lines taken rest ih =>
    have hall : TakesAll first (line :: lines) final := .cons taken rest
    have hplus := h.no_plus hp fun name values hg => hall.stays_known ⟨values, hg⟩
    obtain ⟨after, ha, hf⟩ := h.takes hr.sound.vars hplus taken
    obtain ⟨last, hl, hend⟩ := ih hf (hr.line ha.read_line) hp
    exact ⟨last, .cons ha hl, hend⟩

end

/-- A text that was read to its end, with no plus sign in a name, is read to its end again. The
variables stay as they are and the same rules are added, which no word tells from having them once. -/
theorem reads_again {content : Content} {book : RuleBook} (h : ofContent content = .ok book)
    (hp : ∀ entry ∈ book.vars.entries, '+' ∉ entry.1) :
    book.read content = ⟨⟨book.vars, book.rules ++ book.rules⟩, none⟩ ∧
      (RuleTrie.ofRules (book.rules ++ book.rules)).Alike (RuleTrie.ofRules book.rules) := by
  refine ⟨?_, RuleTrie.alike_of_doubled book.rules⟩
  have hr := reads .empty 1 content.lines
  rw [← read, of_content_eq_ok_iff.mp h] at hr
  generalize hl : content.lines = texts at hr
  cases hr with
  | all done accepted =>
    have hall := foldl_read_line_iff.mp accepted
    obtain ⟨again, ha, hf⟩ := (rereads_start book).takes_all (reached_of_content h) hp hall
    rw [read, hl, read_lines_eq_iff, foldl_read_line_iff, ← hf.at_end]
    exact ha

/-- One variable has other values whenever it is used, and the first rule needs no token at all. -/
theorem reads_again_after_changes :
    let t : Text := "E = *\nE\ta\tE\tx\nALL = a, b\nV = a\nE\ta\tV\ty\nV = *\nV\tb\t-E\tz\nV = b"
    let book := (empty.read (.file t.utf8)).book
    ofContent (.file t.utf8) = .ok book ∧ (∀ entry ∈ book.vars.entries, '+' ∉ entry.1) ∧
      book.rules.length = 3 ∧
      book.read (.file t.utf8) = ⟨⟨book.vars, book.rules ++ book.rules⟩, none⟩ ∧
      (RuleTrie.ofRules (book.rules ++ book.rules)).Alike (RuleTrie.ofRules book.rules) := by
  intro t book
  have hbook : book = (empty.readLines 1 (t.lines.map .ok)).book := by rw [← read_utf8]
  have he : (empty.read (.file t.utf8)).error = none := by
    rw [read_utf8]
    decide
  have hread : empty.read (.file t.utf8) = ⟨book, none⟩ := by rw [← he]
  have h : ofContent (.file t.utf8) = .ok book := of_content_eq_ok_iff.mpr hread
  have hp : ∀ entry ∈ book.vars.entries, '+' ∉ entry.1 := by
    rw [hbook]
    decide
  have hl : book.rules.length = 3 := by
    rw [hbook]
    decide
  obtain ⟨hagain, halike⟩ := reads_again h hp
  exact ⟨h, hp, hl, hagain, halike⟩

end RuleBook

end LetterToSound
