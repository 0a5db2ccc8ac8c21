import LetterToSound.Text.Lower
import LetterToSound.Text.Quoted

namespace LetterToSound

inductive Mode
  | first
  | all
  | last
deriving DecidableEq, Repr

namespace Mode

instance : Inhabited Mode := ⟨.first⟩

def name : Mode → Text
  | .first => "first"
  | .all => "all"
  | .last => "last"

def ofExactName? (t : Text) : Option Mode :=
  [first, all, last].find? (·.name = t)

/-- Mode names are read in any case. -/
def ofName? (t : Text) : Option Mode := ofExactName? t.lower

def unknownMessage (t : Text) : Text :=
  "unknown mode " ++ t.quoted ++ " (expected first, all or last)"

end Mode

end LetterToSound
