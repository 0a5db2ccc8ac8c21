import LetterToSound.CommandLine.Failure
import LetterToSound.Rules.File
import LetterToSound.Settings.Cascade
import LetterToSound.Trie.Polish

namespace LetterToSound

structure Machine where
  files : Files
  here : Path
  home : Path
  input : Bytes

/-- What a run leaves. The log that can be asked for tells the time and is not a part of it. -/
structure Outcome where
  code : Nat
  out : Text := []
  err : Text := []
deriving DecidableEq, Repr

def Failure.outcome (failure : Failure) : Outcome := { code := 1, err := failure.render }

/-- The causes of a failure to use settings. Where a document goes wrong is not told. -/
def SettingsError.causes : SettingsError → List Text
  | .unreadable path cause => [(unreadable path cause).message, cause.message]
  | .malformed path => [(malformed path).message, "TOML parse error"]

def RulesError.causes (error : RulesError) : List Text := [error.message, error.cause]

namespace Machine

def settingsFiles (machine : Machine) : Except SettingsError (List SettingsFile) :=
  SettingsFile.discover machine.files machine.home machine.here

def settings (machine : Machine) : Except Failure MergedSettings :=
  match machine.settingsFiles with
  | .error error => .error ⟨"Failed to load configuration", error.causes⟩
  | .ok found => .ok (SettingsFile.merge found)

/-- The trie of the rules at a path, or of the built-in rules where there is no path. -/
def trie (machine : Machine) : Option Path → Except Failure RuleTrie
  | none => .ok Polish.trie
  | some path =>
    match RuleBook.ofFile machine.files path with
    | .error error => .error ⟨"Failed to load rules from " ++ path, error.causes⟩
    | .ok book => .ok (.ofRules book.rules)

end Machine

/-- The path of the rules in effect; the command line comes before the settings. -/
def MergedSettings.rulesInEffect (settings : MergedSettings) (flag : Option Path) : Option Path :=
  flag.or settings.rules

end LetterToSound
