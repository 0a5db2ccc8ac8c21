import LetterToSound.CommandLine.Run
import LetterToSound.Proofs.LineGrammar
import LetterToSound.Proofs.PlainBook
import LetterToSound.Proofs.PolishWords

namespace LetterToSound

namespace RuleBook

/-- Reads the rules at a path, or the built-in ones, into a book. -/
def load (files : Files) : Option Path → Except RulesError RuleBook
  | none => Polish.reading.complete
  | some path => ofFile files path

theorem load_built_in (files : Files) : load files none = .ok Polish.book := by
  have h : Polish.reading.complete = .ok Polish.book :=
    complete_of_lines Polish.covering_lines.read
  exact h

variable {files : Files} {path? : Option Path} {path : Path} {book : RuleBook}

theorem load_file_eq_ok_iff :
    load files (some path) = .ok book ↔
      ∃ content, files.opened path = .ok content ∧ ofContent content = .ok book := by
  rw [load, ofFile]
  cases files.opened path with
  | error cause => simp
  | ok content => simp

theorem load_text {t : Text} (found : files path = .ok (.file t.utf8))
    (read : (empty.readLines 1 (t.lines.map .ok)).error = none) :
    load files (some path) = .ok (empty.readLines 1 (t.lines.map .ok)).book := by
  rw [load_file_eq_ok_iff]
  refine ⟨_, Files.opened_file found, ?_⟩
  rw [of_content_eq_ok_iff, read_utf8, ← read]

theorem reached_of_load (h : load files path? = .ok book) : book.Reached := by
  cases path? with
  | none =>
    rw [load_built_in] at h
    rw [← Except.ok.inj h]
    exact reached_of_lines Polish.lines
  | some path =>
    obtain ⟨content, _, hr⟩ := load_file_eq_ok_iff.mp h
    exact reached_of_content hr

end RuleBook

/-- The arguments ask for words to be transcribed, without a log. -/
structure Request.Transcribes (arguments : List Text) (options : Options) : Prop where
  read : Request.read arguments = .ok (.transcribe options)
  quiet : options.verbose = false

namespace Machine

variable {machine : Machine} {settings : MergedSettings}

theorem run_of_transcribes {arguments : List Text} {options : Options}
    (h : Request.Transcribes arguments options) :
    machine.run arguments = machine.transcribe options := by
  rw [run, h.read]
  rfl

theorem trie_eq_ok_iff {path? : Option Path} {trie : RuleTrie} :
    machine.trie path? = .ok trie ↔
      ∃ book, RuleBook.load machine.files path? = .ok book ∧ trie = .ofRules book.rules := by
  cases path? with
  | none =>
    rw [RuleBook.load_built_in]
    simp [Machine.trie, Polish.trie, eq_comm]
  | some path =>
    rw [RuleBook.load, Machine.trie]
    cases RuleBook.ofFile machine.files path with
    | error error => simp
    | ok book => simp [eq_comm]

/-- Transcribes with rules and a mode that are settled. -/
def transcribeWith (machine : Machine) (rules : Option Path) (mode : Mode) (inputs : List Path) :
    Outcome :=
  match machine.trie rules with
  | .error failure => failure.outcome
  | .ok trie => (Transcript.ofStream trie mode
      (WordStream.ofSources machine (Source.ofInputs inputs))).outcome

theorem transcribe_of_settings (hs : machine.settings = .ok settings) (options : Options) :
    machine.transcribe options = machine.transcribeWith (settings.rulesInEffect options.rules)
      (settings.modeInEffect options) options.inputs := by
  simp only [transcribe, hs, transcribeWith, bind, Except.bind, pure, Except.pure]
  cases machine.trie (settings.rulesInEffect options.rules) with
  | error failure => rfl
  | ok trie => rfl

theorem transcribe_of_load {options : Options} {book : RuleBook}
    (hs : machine.settings = .ok settings)
    (hb : RuleBook.load machine.files (settings.rulesInEffect options.rules) = .ok book) :
    machine.transcribe options = (Transcript.ofStream (.ofRules book.rules)
      (settings.modeInEffect options)
      (WordStream.ofSources machine (Source.ofInputs options.inputs))).outcome := by
  rw [transcribe_of_settings hs, transcribeWith, trie_eq_ok_iff.mpr ⟨book, hb, rfl⟩]

end Machine

end LetterToSound
