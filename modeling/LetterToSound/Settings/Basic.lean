import LetterToSound.Files.Path
import LetterToSound.Words.Mode

namespace LetterToSound

/-- What one settings file says. A root file hides the files of the directories above. -/
structure Settings where
  root : Bool := false
  rules : Option Path := none
  mode : Option Mode := none
deriving DecidableEq, Repr

namespace Settings

def fileName : Path := ".prg2p.toml"

/-- The path of the rules, which is given relative to the directory of the settings file. -/
def rulesPath? (settings : Settings) (path : Path) : Option Path :=
  settings.rules.map (path.parent?.getD ['.']).join

end Settings

structure SettingsFile where
  path : Path
  settings : Settings
deriving DecidableEq, Repr

/-- What several settings files say together. -/
structure MergedSettings where
  rules : Option Path
  mode : Option Mode
  sources : List Path
deriving DecidableEq, Repr

/-- Of the files, nearest first, the first one that sets a thing decides it. -/
def SettingsFile.merge (found : List SettingsFile) : MergedSettings where
  rules := found.findSome? fun file => file.settings.rulesPath? file.path
  mode := found.findSome? (·.settings.mode)
  sources := found.map (·.path)

end LetterToSound
