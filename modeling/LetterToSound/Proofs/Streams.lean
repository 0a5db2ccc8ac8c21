import LetterToSound.Proofs.CutWords
import LetterToSound.Proofs.RulesInEffect
import Mathlib.Data.List.Forall2

namespace LetterToSound

/-- What stands between the signs, with a parting in place of each sign. -/
theorem intercalate_split (parting : Text) (sign : Char) (t : Text) :
    parting.intercalate (t.splitOn sign) =
      t.flatMap fun c => if c = sign then parting else [c] := by
  induction t with
  | nil => rfl
  | cons c t ih =>
    obtain ⟨part, parts, hs⟩ := List.exists_cons_of_ne_nil (List.splitOn_ne_nil sign t)
    rw [List.flatMap_cons, ← ih, List.splitOn_cons_eq_if_modifyHead, hs]
    by_cases hc : c = sign
    · subst hc
      simp [List.intercalate_cons_cons]
    · cases parts with
      | nil => simp [hc]
      | cons next parts => simp [hc, List.intercalate_cons_cons]

def Source.called : Source → Text
  | standardInput => "standard input"
  | file path => path

theorem Source.failure_message (source : Source) :
    source.failureMessage = "Failed to transcribe " ++ source.called := by
  cases source with
  | standardInput =>
    have hs : ("Failed to transcribe standard input" : Text) =
        "Failed to transcribe " ++ "standard input" := by simp
    exact hs
  | file path => rfl

/-- Why the lines of the inputs end early. -/
inductive InputFailure
  | unopened (path : Path) (cause : FileError)
  | unread (source : Source) (cause : FileError)

namespace InputFailure

/-- The cause with a margin before its further lines. -/
def hanging (margin : Nat) (cause : FileError) : Text :=
  cause.message.flatMap fun c => if c = '\n' then '\n' :: List.replicate margin ' ' else [c]

def report : InputFailure → Text
  | unopened path cause =>
    "error: Failed to open " ++ path ++ "\n\nCaused by:\n    " ++ hanging 4 cause ++ "\n"
  | unread source cause =>
    "error: Failed to transcribe " ++ source.called ++
      "\n\nCaused by:\n    0: Failed to read input\n    1: " ++ hanging 7 cause ++ "\n"

def failure : InputFailure → Failure
  | unopened path cause => ⟨"Failed to open " ++ path, [cause.message]⟩
  | unread source cause => ⟨source.failureMessage, ["Failed to read input", cause.message]⟩

theorem indented_message {lead : Text} {margin : Nat} (h : lead.length = margin)
    (cause : FileError) : Failure.indented lead cause.message = lead ++ hanging margin cause := by
  rw [Failure.indented, intercalate_split, h]
  rfl

theorem render_opening (path : Path) (cause : FileError) :
    Failure.render ⟨"Failed to open " ++ path, [cause.message]⟩ =
      "error: Failed to open " ++ path ++ "\n\nCaused by:\n    " ++ hanging 4 cause ++ "\n" := by
  have hl : ("    " : Text).length = 4 := by simp
  have he : ("error: Failed to open " : Text) = "error: " ++ "Failed to open " := by simp
  have hc : ("\n\nCaused by:\n    " : Text) = "\n\nCaused by:\n" ++ "    " := by simp
  calc Failure.render ⟨"Failed to open " ++ path, [cause.message]⟩
    _ = "error: " ++ ("Failed to open " ++ path) ++
          ("\n\nCaused by:\n" ++ Failure.indented "    " cause.message) ++ "\n" := rfl
    _ = _ := by
      rw [indented_message hl, he, hc]
      simp only [List.append_assoc]

/-- Of two causes each has its number before it. -/
theorem render_reading (name : Text) (cause : FileError) :
    Failure.render ⟨"Failed to transcribe " ++ name, ["Failed to read input", cause.message]⟩ =
      "error: Failed to transcribe " ++ name ++
        "\n\nCaused by:\n    0: Failed to read input\n    1: " ++ hanging 7 cause ++ "\n" := by
  have hl : ("    1: " : Text).length = 7 := by simp
  have he : ("error: Failed to transcribe " : Text) = "error: " ++ "Failed to transcribe " := by
    simp
  have hc : ("\n\nCaused by:\n    0: Failed to read input\n    1: " : Text) =
      "\n\nCaused by:\n" ++ Failure.numbered 0 "Failed to read input" ++ ['\n'] ++ "    1: " := by
    decide +kernel
  have hone : (Text.ofNat 1).leftpad 5 ' ' ++ ": " = ("    1: " : Text) := by decide +kernel
  calc Failure.render ⟨"Failed to transcribe " ++ name, ["Failed to read input", cause.message]⟩
    _ = "error: " ++ ("Failed to transcribe " ++ name) ++
          ("\n\nCaused by:\n" ++ ['\n'].intercalate [Failure.numbered 0 "Failed to read input",
            Failure.indented ((Text.ofNat 1).leftpad 5 ' ' ++ ": ") cause.message]) ++ "\n" := rfl
    _ = _ := by
      rw [List.intercalate_cons_cons, List.intercalate_singleton, hone, indented_message hl, he, hc]
      simp only [List.append_assoc]

theorem render_failure (stopped : InputFailure) : stopped.failure.render = stopped.report := by
  cases stopped with
  | unopened path cause => exact render_opening path cause
  | unread source cause =>
    have hr := render_reading source.called cause
    rw [← source.failure_message] at hr
    exact hr

end InputFailure

/-- The lines of a source. One that cannot be opened is like one whose first line cannot be read. -/
def Source.lines (machine : Machine) : Source → List (Except InputFailure Text)
  | standardInput =>
    (Content.file machine.input).lines.map (·.mapError (.unread standardInput))
  | file path =>
    match machine.files.opened path with
    | .error cause => [.error (.unopened path cause)]
    | .ok content => content.lines.map (·.mapError (.unread (file path)))

/-- The lines before the first that cannot be read, and why that one cannot. -/
inductive ReadUpTo : List (Except InputFailure Text) → List Text → Option InputFailure → Prop
  | all (lines : List Text) : ReadUpTo (lines.map .ok) lines none
  | failure (lines : List Text) (failure : InputFailure)
      (rest : List (Except InputFailure Text)) :
      ReadUpTo (lines.map .ok ++ .error failure :: rest) lines (some failure)

theorem ReadUpTo.append_read {items : List (Except InputFailure Text)} {lines : List Text}
    {failure : Option InputFailure} (h : ReadUpTo items lines failure) (front : List Text) :
    ReadUpTo (front.map .ok ++ items) (front ++ lines) failure := by
  cases h with
  | all =>
    rw [← List.map_append]
    exact .all _
  | failure _ failure rest =>
    rw [← List.append_assoc, ← List.map_append]
    exact .failure _ failure rest

theorem ReadUpTo.append_unread {items : List (Except InputFailure Text)} {lines : List Text}
    {failure : InputFailure} (h : ReadUpTo items lines (some failure))
    (more : List (Except InputFailure Text)) : ReadUpTo (items ++ more) lines (some failure) := by
  cases h with
  | failure _ _ rest =>
    rw [List.append_assoc, List.cons_append]
    exact .failure _ failure _

theorem ReadUpTo.eq_map {items : List (Except InputFailure Text)} {lines : List Text}
    (h : ReadUpTo items lines none) : items = lines.map .ok := by
  cases h
  rfl

theorem ReadUpTo.of_map {lines read : List Text} {failure : Option InputFailure}
    (h : ReadUpTo (lines.map .ok) read failure) : read = lines ∧ failure = none := by
  generalize hi : lines.map (Except.ok (ε := InputFailure)) = items at h
  cases h with
  | all => exact ⟨List.map_injective_iff.mpr (fun _ _ => Except.ok.inj) hi.symm, rfl⟩
  | failure lines failure rest =>
    have hm : .error failure ∈ lines.map (Except.ok (ε := InputFailure)) := by
      rw [hi]
      exact List.mem_append_right _ List.mem_cons_self
    simp at hm

namespace WordStream

/-- The stream has the words of the lines that can be read, and fails as their reading does. -/
def From (items : List (Except InputFailure Text)) (stream : WordStream) : Prop :=
  ∃ lines failure, ReadUpTo items lines failure ∧
    stream.failure = failure.map InputFailure.failure ∧
    stream.words.map Prod.snd = lines.flatMap Text.words

theorem from_lines (source : Source) (lines : List (Except FileError Text)) :
    From (lines.map (·.mapError (.unread source))) (ofLines source lines) := by
  induction lines with
  | nil => exact ⟨[], none, .all [], rfl, rfl⟩
  | cons line rest ih =>
    cases line with
    | error cause => exact ⟨[], some (.unread source cause), .failure [] _ _, rfl, rfl⟩
    | ok line =>
      obtain ⟨read, failure, hr, hf, hw⟩ := ih
      refine ⟨line :: read, failure, hr.append_read [line], hf, ?_⟩
      simp [ofLines, hw, Function.comp_def]

/-- Nothing is read after a failure. -/
theorem From.stop {items : List (Except InputFailure Text)} {stream : WordStream}
    {failure : Failure} (h : From items stream) (hf : stream.failure = some failure)
    (rest : List (Except InputFailure Text)) : From (items ++ rest) stream := by
  obtain ⟨read, reason, hr, he, hw⟩ := h
  obtain ⟨reason, rfl, _⟩ := Option.map_eq_some_iff.mp (he.symm.trans hf)
  exact ⟨read, some reason, hr.append_unread rest, he, hw⟩

theorem From.next {items rest : List (Except InputFailure Text)} {stream others : WordStream}
    (h : From items stream) (hf : stream.failure = none) (ho : From rest others) :
    From (items ++ rest) { others with words := stream.words ++ others.words } := by
  obtain ⟨read, failure, hr, he, hw⟩ := h
  obtain ⟨more, reason, hmore, heq, hwords⟩ := ho
  obtain rfl := Option.map_eq_none_iff.mp (he.symm.trans hf)
  rw [hr.eq_map]
  refine ⟨read ++ more, reason, hmore.append_read read, heq, ?_⟩
  rw [List.map_append, hw, hwords, List.flatMap_append]

/-- A source is opened and then read line by line. -/
theorem open_in_cases (machine : Machine) (source : Source) :
    (∃ failure : InputFailure, source.openIn machine = .error failure.failure ∧
      source.lines machine = [.error failure]) ∨
    ∃ content, source.openIn machine = .ok content ∧
      source.lines machine = content.lines.map (·.mapError (.unread source)) := by
  cases source with
  | standardInput => exact .inr ⟨_, rfl, rfl⟩
  | file path =>
    rw [Source.openIn, Source.lines]
    cases machine.files.opened path with
    | error cause => exact .inl ⟨.unopened path cause, rfl, rfl⟩
    | ok content => exact .inr ⟨content, rfl, rfl⟩

theorem from_sources (machine : Machine) (sources : List Source) :
    From (sources.flatMap (·.lines machine)) (ofSources machine sources) := by
  induction sources with
  | nil => exact ⟨[], none, .all [], rfl, rfl⟩
  | cons source rest ih =>
    rw [List.flatMap_cons, ofSources]
    rcases open_in_cases machine source with ⟨failure, ho, hl⟩ | ⟨content, ho, hl⟩
    · rw [ho, hl]
      exact ⟨[], some failure, .failure [] failure _, rfl, rfl⟩
    · rw [ho, hl]
      have hs := from_lines source content.lines
      dsimp only
      split
      · rename_i failure hf
        exact hs.stop hf _
      · rename_i hf
        exact hs.next hf ih

end WordStream

namespace RuleTrie

/-- The line of output for a word, if it can be transcribed: the word, the number of its
transcriptions, and the transcriptions between bars. -/
def printed (trie : RuleTrie) (mode : Mode) (word : Text) : Text :=
  match trie.transcribe mode word with
  | .ok transcriptions =>
    word ++ "\t" ++ Nat.toDigits 10 transcriptions.length ++ "\t" ++
      ['|'].intercalate transcriptions ++ "\n"
  | .error _ => []

def refuses (trie : RuleTrie) (mode : Mode) (word : Text) : Bool :=
  !(trie.transcribe mode word).isOk

/-- The warning for a word, if it cannot be transcribed. -/
def warned (trie : RuleTrie) (mode : Mode) (word : Text) : Text :=
  if trie.refuses mode word then "warning: Failed to transcribe " ++ word.quoted ++ "\n" else []

/-- What is written and how the run ends, given all words and the failure behind them. Every word
has its line or its warning by itself. -/
def report (trie : RuleTrie) (mode : Mode) (words : List Text) (failure : Option InputFailure) :
    Outcome :=
  let refused := words.countP (trie.refuses mode)
  let closing : Text := match failure with
    | some failure => failure.report
    | none =>
      if refused = 0 then []
      else Nat.toDigits 10 refused ++ " word(s) could not be transcribed\n"
  { code := if failure.isNone ∧ refused = 0 then 0 else 1
    out := words.flatMap (trie.printed mode)
    err := words.flatMap (trie.warned mode) ++ closing }

variable {trie : RuleTrie} {mode : Mode} {word : Text}

theorem printed_of_ok {transcriptions : List Text}
    (h : trie.transcribe mode word = .ok transcriptions) :
    trie.printed mode word = record word transcriptions ++ "\n" := by
  rw [printed, h]
  simp [record, Text.ofNat]

theorem printed_of_error {error : WordError} (h : trie.transcribe mode word = .error error) :
    trie.printed mode word = [] := by
  rw [printed, h]

theorem warned_of_error {error : WordError} (h : trie.transcribe mode word = .error error) :
    trie.warned mode word = "warning: " ++ (WordError.noMatch word).message ++ "\n" := by
  have hw : ("warning: Failed to transcribe " : Text) = "warning: " ++ "Failed to transcribe " := by
    simp
  have hm : (WordError.noMatch word).message = "Failed to transcribe " ++ word.quoted := rfl
  rw [warned, refuses, h, hm, hw]
  simp only [Except.isOk, Except.toBool, Bool.not_false, if_true, List.append_assoc]

theorem refuses_of_ok {transcriptions : List Text}
    (h : trie.transcribe mode word = .ok transcriptions) : trie.refuses mode word = false := by
  rw [refuses, h]
  rfl

theorem refuses_of_error {error : WordError} (h : trie.transcribe mode word = .error error) :
    trie.refuses mode word = true := by
  rw [refuses, h]
  rfl

end RuleTrie

namespace Transcript

variable {trie : RuleTrie} {mode : Mode}

/-- With rules, no word ends the run. -/
theorem of_words (ho : trie.root.hasOutput = true) (failure : Option Failure)
    (words : List SourceWord) :
    ofWords trie mode failure words =
      { out := (words.map Prod.snd).flatMap (trie.printed mode)
        warnings := (words.map Prod.snd).flatMap (trie.warned mode)
        failedWords := (words.map Prod.snd).countP (trie.refuses mode)
        failure } := by
  induction words with
  | nil => rfl
  | cons first rest ih =>
    obtain ⟨source, word⟩ := first
    rw [ofWords]
    cases ht : trie.transcribe mode word with
    | ok transcriptions =>
      simp [ih, RuleTrie.printed_of_ok ht, RuleTrie.refuses_of_ok ht, RuleTrie.warned]
    | error error =>
      have hw := ht
      rw [RuleTrie.transcribe_eq_error_iff] at hw
      rcases hw with ⟨hn, _⟩ | ⟨_, rfl, _⟩
      · rw [hn] at ho
        cases ho
      · simp [ih, RuleTrie.printed_of_error ht, RuleTrie.refuses_of_error ht,
          RuleTrie.warned_of_error ht]

theorem outcome_of_words (ho : trie.root.hasOutput = true) (stopped : Option InputFailure)
    (words : List SourceWord) :
    (ofWords trie mode (stopped.map InputFailure.failure) words).outcome =
      trie.report mode (words.map Prod.snd) stopped := by
  rw [of_words ho]
  unfold outcome RuleTrie.report
  cases stopped with
  | some stopped =>
    simp only [Option.map_some, stopped.render_failure, Option.isNone_some, Bool.false_eq_true,
      false_and, if_false]
  | none =>
    by_cases hn : (words.map Prod.snd).countP (trie.refuses mode) = 0
    · simp only [Option.map_none, Option.isNone_none, hn, and_self, if_true, List.append_nil]
    · simp only [Option.map_none, Option.isNone_none, hn, and_false, if_false]
      rfl

end Transcript

namespace Source

/-- The lines of files that hold texts. -/
theorem flat_map_lines_of_texts {machine : Machine} {paths : List Path} {texts : List Text}
    (h : paths.map machine.files = texts.map fun t => .ok (.file t.utf8)) :
    (paths.map file).flatMap (·.lines machine) = (texts.flatMap Text.lines).map .ok := by
  induction paths generalizing texts with
  | nil =>
    have ht := (List.map_eq_nil_iff.mp h.symm)
    subst ht
    rfl
  | cons path paths ih =>
    obtain ⟨t, rest, rfl, ht, hrest⟩ := List.map_eq_cons_iff.mp h.symm
    have hl : (file path).lines machine = t.lines.map .ok := by
      simp [lines, Files.opened_file ht.symm, Except.mapError, Content.lines_utf8]
    rw [List.map_cons, List.flatMap_cons, List.flatMap_cons, List.map_append, hl,
      ih hrest.symm]

theorem lines_of_input {machine : Machine} {t : Text} (h : machine.input = t.utf8) :
    standardInput.lines machine = t.lines.map .ok := by
  simp [lines, h, Except.mapError, Content.lines_utf8]

end Source

namespace Machine

variable {machine : Machine} {options : Options} {settings : MergedSettings} {book : RuleBook}

/-- The outcome follows from the lines that can be read. -/
theorem transcribe_eq_report (hs : machine.settings = .ok settings)
    (hb : RuleBook.load machine.files (settings.rulesInEffect options.rules) = .ok book)
    (hr : book.rules ≠ []) :
    ∃ lines failure,
      ReadUpTo ((Source.ofInputs options.inputs).flatMap (·.lines machine)) lines failure ∧
      machine.transcribe options = (RuleTrie.ofRules book.rules).report
        (settings.modeInEffect options) (lines.flatMap Text.words) failure := by
  have ho := RuleTrie.has_output_of_rules (RuleBook.reached_of_load hb).filled hr
  obtain ⟨lines, stopped, hl, hf, hw⟩ :=
    WordStream.from_sources machine (Source.ofInputs options.inputs)
  refine ⟨lines, stopped, hl, ?_⟩
  rw [transcribe_of_load hs hb, Transcript.ofStream, hf, Transcript.outcome_of_words ho, hw]

theorem transcribe_of_readable (hs : machine.settings = .ok settings)
    (hb : RuleBook.load machine.files (settings.rulesInEffect options.rules) = .ok book)
    (hr : book.rules ≠ [])
    {lines : List Text}
    (hl : (Source.ofInputs options.inputs).flatMap (·.lines machine) = lines.map .ok) :
    machine.transcribe options = (RuleTrie.ofRules book.rules).report
      (settings.modeInEffect options) (lines.flatMap Text.words) none := by
  obtain ⟨read, failure, hread, ht⟩ := transcribe_eq_report hs hb hr
  rw [hl] at hread
  obtain ⟨rfl, rfl⟩ := hread.of_map
  exact ht

/-- Files of texts are transcribed like one standard input with their texts on lines of their
own. -/
theorem transcribe_joined (hs : machine.settings = .ok settings)
    (hb : RuleBook.load machine.files (settings.rulesInEffect options.rules) = .ok book)
    (hr : book.rules ≠ [])
    {texts : List Text} (hn : texts ≠ [])
    (ht : options.inputs.map machine.files = texts.map fun t => .ok (.file t.utf8)) :
    machine.transcribe options =
      { machine with input := Text.utf8 (['\n'].intercalate texts) }.transcribe
        { options with inputs := [] } := by
  have hi : options.inputs ≠ [] := by
    intro hi
    rw [hi] at ht
    exact hn (List.map_eq_nil_iff.mp ht.symm)
  have hfiles : (Source.ofInputs options.inputs).flatMap (·.lines machine) =
      (texts.flatMap Text.lines).map .ok := by
    rw [Source.ofInputs, if_neg hi, Source.flat_map_lines_of_texts ht]
  rw [transcribe_of_readable hs hb hr hfiles, Text.flat_map_words_joined]
  symm
  refine @transcribe_of_readable { machine with input := Text.utf8 (['\n'].intercalate texts) }
    { options with inputs := [] } settings book hs hb hr _ ?_
  rw [Source.ofInputs, if_pos rfl, List.flatMap_singleton]
  exact Source.lines_of_input rfl

/-- Every word of the lines that can be read has its line or its warning, in order and by itself.
The run succeeds when all lines can be read and no word is refused. Files are cut into words as if
they were joined by line feeds. -/
theorem transcribes_word_by_word {arguments : List Text}
    (ha : Request.Transcribes arguments options) (hs : machine.settings = .ok settings)
    (hb : RuleBook.load machine.files (settings.rulesInEffect options.rules) = .ok book)
    (hr : book.rules ≠ []) :
    (∃ lines cut stopped,
      ReadUpTo ((Source.ofInputs options.inputs).flatMap (·.lines machine)) lines stopped ∧
      List.Forall₂ Text.CutsInto lines cut ∧
      machine.run arguments = (RuleTrie.ofRules book.rules).report
        (settings.modeInEffect options) cut.flatten stopped) ∧
    ∀ (texts : List Text) (others : List Text), texts ≠ [] →
      options.inputs.map machine.files = texts.map (fun t => .ok (.file t.utf8)) →
      Request.Transcribes others { options with inputs := [] } →
      machine.run arguments =
        { machine with input := Text.utf8 (['\n'].intercalate texts) }.run others := by
  rw [run_of_transcribes ha]
  constructor
  · obtain ⟨lines, stopped, hl, ht⟩ := transcribe_eq_report hs hb hr
    refine ⟨lines, lines.map Text.words, stopped, hl, ?_, ?_⟩
    · apply List.forall₂_map_right_iff.mpr
      exact List.forall₂_same.mpr fun line _ => Text.words_eq_iff.mp rfl
    · rw [ht, List.flatMap_def]
  · intro texts others hn ht ho
    rw [run_of_transcribes ho]
    exact transcribe_joined hs hb hr hn ht

theorem transcribes_two_files :
    let rules : Text := "E = *\nE\ta\tE\tb"
    let texts : List Text := ["a b\n", "aa"]
    let files := FileTree.files (.file "rules" rules.utf8
      (.file "one" (Text.utf8 "a b\n") (.file "two" (Text.utf8 "aa")
        (.closed "three" .denied .empty)))) []
    let machine : Machine := ⟨files, "/", "/home", []⟩
    let options : Options := { rules := some "rules", inputs := ["one", "two"] }
    let settings : MergedSettings := ⟨none, none, []⟩
    let book := (RuleBook.empty.readLines 1 (rules.lines.map .ok)).book
    Request.Transcribes ["-r", "rules", "one", "two"] options ∧
      machine.settings = .ok settings ∧
      RuleBook.load machine.files (settings.rulesInEffect options.rules) = .ok book ∧
      book.rules ≠ [] ∧
      options.inputs.map machine.files = texts.map (fun t => .ok (.file t.utf8)) ∧
      Request.Transcribes ["-r", "rules"] { options with inputs := [] } ∧
      machine.run ["-r", "rules", "one", "two"] =
        { machine with input := Text.utf8 (['\n'].intercalate texts) }.run ["-r", "rules"] ∧
      machine.run ["-r", "rules", "one", "two"] =
        ⟨1, "a\t1\tb\naa\t1\tb b\n",
          "warning: Failed to transcribe \"b\"\n1 word(s) could not be transcribed\n"⟩ ∧
      machine.run ["-r", "rules", "one", "three", "two"] =
        ⟨1, "a\t1\tb\n", "warning: Failed to transcribe \"b\"\nerror: Failed to open three\n\n" ++
          "Caused by:\n    Permission denied (os error 13)\n"⟩ := by
  intro rules texts files machine options settings book
  have ha : Request.Transcribes ["-r", "rules", "one", "two"] options := ⟨by decide +kernel, rfl⟩
  have ho : Request.Transcribes ["-r", "rules"] { options with inputs := [] } :=
    ⟨by decide +kernel, rfl⟩
  have hs : machine.settings = .ok settings := by decide +kernel
  have hb : RuleBook.load machine.files (settings.rulesInEffect options.rules) = .ok book :=
    RuleBook.load_text (by decide +kernel) (by decide +kernel)
  have hr : book.rules ≠ [] := by decide +kernel
  have ht : options.inputs.map machine.files = texts.map fun t => .ok (.file t.utf8) := by
    decide +kernel
  have hw := (transcribes_word_by_word ha hs hb hr).2 texts _ (List.cons_ne_nil _ _) ht ho
  exact ⟨ha, hs, hb, hr, ht, ho, hw, by decide +kernel, by decide +kernel⟩

end Machine

end LetterToSound
