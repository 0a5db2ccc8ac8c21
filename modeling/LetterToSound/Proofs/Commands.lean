import LetterToSound.Proofs.RulesFlag
import LetterToSound.Proofs.RulesInEffect

namespace LetterToSound

namespace RuleBook

/-- How far the rules at a path, or the built-in ones, can be read into an empty book. -/
inductive ReadFrom (files : Files) : Option Path → Reading → Prop
  | builtIn : ReadFrom files none (empty.readLines 1 (Polish.lines.map .ok))
  | file {path : Path} {content : Content} (opened : files.opened path = .ok content) :
      ReadFrom files (some path) (empty.read content)

variable {files : Files} {path? : Option Path} {reading : Reading}

theorem ReadFrom.load (h : ReadFrom files path? reading) : load files path? = reading.complete := by
  cases h with
  | builtIn => rfl
  | file opened =>
    rw [RuleBook.load, ofFile, opened]
    rfl

theorem not_opened_or_read (files : Files) (path? : Option Path) :
    (∃ path cause, path? = some path ∧ files.opened path = .error cause) ∨
      ∃ reading, ReadFrom files path? reading := by
  cases path? with
  | none => exact .inr ⟨_, .builtIn⟩
  | some path =>
    cases ho : files.opened path with
    | error cause => exact .inl ⟨path, cause, rfl, ho⟩
    | ok content => exact .inr ⟨_, .file ho⟩

end RuleBook

theorem Reading.complete_eq_ok_iff {reading : Reading} {book : RuleBook} :
    reading.complete = .ok book ↔ reading.error = none ∧ reading.book = book := by
  unfold complete
  cases reading.error with
  | none => simp
  | some error => simp

namespace Machine

open RuleBook

def rulesName (path? : Option Path) : Text := path?.getD "built-in rules".toList

variable {machine : Machine} {options : Options} {settings : MergedSettings}

theorem rules_to_check {path? : Option Path} {reading : Reading}
    (h : ReadFrom machine.files path? reading) :
    machine.rulesToCheck path? = .ok ⟨rulesName path?, reading⟩ := by
  cases h with
  | builtIn => rfl
  | file opened => simp [rulesToCheck, opened, rulesName]

theorem check_of_settings (hs : machine.settings = .ok settings) (rules : Option Path) :
    machine.check rules = match machine.rulesToCheck (settings.rulesInEffect rules) with
      | .error failure => failure.outcome
      | .ok checked => checked.outcome := by
  rw [check, hs]
  rfl

theorem stopped_by_settings {failure : Failure} (hs : machine.settings = .error failure) :
    machine.check options.rules = failure.outcome ∧
      machine.transcribe options = failure.outcome := by
  constructor
  · rw [check, hs]
    rfl
  · rw [transcribe, hs]
    rfl

/-- Rules are found to be good when there is a trie for them. -/
theorem checked_iff (hs : machine.settings = .ok settings) (rules : Option Path) :
    (machine.check rules).code = 0 ↔
      ∃ trie, machine.trie (settings.rulesInEffect rules) = .ok trie := by
  rw [check_of_settings hs]
  generalize settings.rulesInEffect rules = path?
  rcases not_opened_or_read machine.files path? with ⟨path, cause, rfl, ho⟩ | ⟨reading, hr⟩
  · simp [rulesToCheck, ho, Machine.trie, ofFile, Failure.outcome]
  · rw [rules_to_check hr]
    simp only [trie_eq_ok_iff, hr.load, CheckedRules.outcome, Reading.complete]
    cases reading.error with
    | some error => simp
    | none => simp

def quiet (machine : Machine) : Machine := { machine with input := [] }

theorem counted {rules : Option Path} (h : (machine.check rules).code = 0) :
    ∃ settings reading, machine.settings = .ok settings ∧
      ReadFrom machine.files (settings.rulesInEffect rules) reading ∧ reading.error = none ∧
      machine.trie (settings.rulesInEffect rules) = .ok (.ofRules reading.book.rules) := by
  cases hs : machine.settings with
  | error failure =>
    rw [check, hs] at h
    cases h
  | ok settings =>
    obtain ⟨trie, ht⟩ := (checked_iff hs rules).mp h
    obtain ⟨book, hl, rfl⟩ := trie_eq_ok_iff.mp ht
    rcases not_opened_or_read machine.files (settings.rulesInEffect rules) with
      ⟨path, cause, hp, ho⟩ | ⟨reading, hr⟩
    · rw [hp, load, ofFile, ho] at hl
      cases hl
    · rw [hr.load] at hl
      obtain ⟨hn, rfl⟩ := Reading.complete_eq_ok_iff.mp hl
      exact ⟨settings, reading, rfl, hr, hn, ht⟩

theorem settings_eq_ok_iff :
    machine.settings = .ok settings ↔
      ∃ found, machine.settingsFiles = .ok found ∧ SettingsFile.merge found = settings := by
  unfold Machine.settings
  cases machine.settingsFiles with
  | error error => simp
  | ok found => simp

end Machine

end LetterToSound
