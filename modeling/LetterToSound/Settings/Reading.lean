import LetterToSound.Settings.Basic
import LetterToSound.Settings.Document

namespace LetterToSound

namespace SettingsFact

def keys : SettingsFact → List Text
  | .header keys => keys
  | .entry keys _ => keys

def about (key : Text) (fact : SettingsFact) : Bool := fact.keys.head? = some key

end SettingsFact

namespace Settings

def readRoot : List SettingsFact → Option Bool
  | [] => some false
  | [.entry [_] (.flag root)] => some root
  | _ => none

def readRules : List SettingsFact → Option (Option Path)
  | [] => some none
  | [.entry [_] (.text path)] => some (some path)
  | _ => none

/-- A mode is given by its name, or by a table in which that name has an empty table. -/
def readMode : List SettingsFact → Option (Option Mode)
  | [] => some none
  | [.entry [_] (.text name)] => (Mode.ofExactName? name).map some
  | [.entry [_, name] .empty]
  | [.header [_], .entry [_, name] .empty]
  | [.header [_, name]]
  | [.header [_], .header [_, name]]
  | [.header [_, name], .header [_]] => (Mode.ofExactName? name).map some
  | _ => none

def keyNames : List Text := ["root".toList, "rules".toList, "mode".toList]

def ofFacts? (facts : List SettingsFact) : Option Settings := do
  if facts.any fun fact => !keyNames.any fact.about then none
  else
    return {
      root := ← readRoot (facts.filter (·.about "root"))
      rules := ← readRules (facts.filter (·.about "rules"))
      mode := ← readMode (facts.filter (·.about "mode")) }

/-- The settings that a document describes. -/
def read? (document : Text) : Option Settings := do
  ofFacts? (← SettingsFact.ofDocument? document)

end Settings

end LetterToSound
