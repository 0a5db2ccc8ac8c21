import LetterToSound.CommandLine.Machine

namespace LetterToSound

def SettingsFile.render (file : SettingsFile) : Text :=
  let root : Text := if file.settings.root then "true" else "false"
  let rules : Text := match file.settings.rules with
    | some rules => "  rules: " ++ rules ++ "\n"
    | none => []
  let mode : Text := match file.settings.mode with
    | some mode => "  mode: " ++ mode.name ++ "\n"
    | none => []
  "# Source: " ++ file.path ++ "\n# root: " ++ root ++ "\n" ++ rules ++ mode ++ "\n"

def SettingsFile.renderAll (found : List SettingsFile) : Text :=
  if found = [] then "No configuration files found.\n"
  else "Configuration files (in cascade order):\n\n" ++ found.flatMap SettingsFile.render

def MergedSettings.render (settings : MergedSettings) : Text :=
  "Effective settings:\n  rules: " ++ settings.rules.getD "(built-in)".toList ++
    "\n  mode: " ++ (settings.mode.getD default).name ++ "\n"

namespace Machine

def renderUserPath (machine : Machine) : Text :=
  let path := SettingsFile.userPath machine.home
  let found : Text := match machine.files path with
    | .ok _ => "  (exists)\n"
    | .error _ => "  (not found)\n"
  "User config path: " ++ path ++ "\n" ++ found

def showSettings (machine : Machine) : Outcome :=
  match machine.settingsFiles with
  | .error error => Failure.outcome ⟨"Failed to discover config files", error.causes⟩
  | .ok found =>
    { code := 0
      out := SettingsFile.renderAll found ++ (SettingsFile.merge found).render ++
        machine.renderUserPath }

end Machine

end LetterToSound
