import LetterToSound.CommandLine.Machine

namespace LetterToSound

/-- Rules that are being checked: what messages call them, and how far their reading came. -/
structure CheckedRules where
  name : Text
  reading : Reading

namespace CheckedRules

def outcome (checked : CheckedRules) : Outcome :=
  match checked.reading.error with
  | some error =>
    { code := 1
      err := checked.name ++ ": " ++ error.message ++ "\n  caused by: " ++ error.cause ++ "\n" }
  | none =>
    let book := checked.reading.book
    { code := 0
      out := checked.name ++ ": " ++ Text.ofNat book.vars.size ++ " variables, " ++
        Text.ofNat book.rules.length ++ " rules, " ++
        Text.ofNat (RuleTrie.ofRules book.rules).size ++ " trie nodes\n" }

end CheckedRules

namespace Machine

def rulesToCheck (machine : Machine) : Option Path → Except Failure CheckedRules
  | none => .ok ⟨"built-in rules", Polish.reading⟩
  | some path =>
    match machine.files.opened path with
    | .error cause => .error ⟨"Failed to open " ++ path, [cause.message]⟩
    | .ok content => .ok ⟨path, RuleBook.empty.read content⟩

def check (machine : Machine) (rules : Option Path) : Outcome :=
  let checked := do
    let settings ← machine.settings
    machine.rulesToCheck (settings.rulesInEffect rules)
  match checked with
  | .error failure => failure.outcome
  | .ok checked => checked.outcome

end Machine

end LetterToSound
