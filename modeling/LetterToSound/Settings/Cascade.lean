import LetterToSound.Files.Tree
import LetterToSound.Settings.Reading

namespace LetterToSound

/-- Why a settings file that is there cannot be used. -/
inductive SettingsError
  | unreadable (path : Path) (cause : FileError)
  | malformed (path : Path)
deriving DecidableEq, Repr

def SettingsError.message : SettingsError → Text
  | .unreadable path _ => "Failed to read config file: " ++ path
  | .malformed path => "Failed to parse config file: " ++ path

namespace SettingsFile

/-- Reads the settings file at a path, if there is one. -/
def load (files : Files) (path : Path) : Except SettingsError (Option SettingsFile) :=
  match files path with
  | .error _ => .ok none
  | .ok content =>
    match content.text with
    | .error cause => .error (.unreadable path cause)
    | .ok document =>
      match Settings.read? document with
      | none => .error (.malformed path)
      | some settings => .ok (some ⟨path, settings⟩)

/-- The files of the directories, up to the first root file. -/
def inDirectories (files : Files) : List Path → Except SettingsError (List SettingsFile)
  | [] => .ok []
  | directory :: above => do
    match ← load files (directory.join Settings.fileName) with
    | none => inDirectories files above
    | some file =>
      if file.settings.root then return [file]
      else return file :: (← inDirectories files above)

def userPath (home : Path) : Path := home.join Settings.fileName

/-- The paths at which settings are looked for, in their order. -/
def candidates (home start : Path) : List Path :=
  (start :: start.parents).map (·.join Settings.fileName) ++ [userPath home]

/-- All settings files that count in the directory `start`, nearest first. The file at home comes
last, unless it has been met on the way. -/
def discover (files : Files) (home start : Path) : Except SettingsError (List SettingsFile) := do
  let found ← inDirectories files (start :: start.parents)
  if found.any (·.path.components = (userPath home).components) then return found
  else return found ++ (← load files (userPath home)).toList

end SettingsFile

end LetterToSound
