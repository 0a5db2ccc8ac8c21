import LetterToSound.Files.Tree
import LetterToSound.Rules.Reading

namespace LetterToSound

/-- The rule book that a file describes. -/
def RuleBook.ofFile (files : Files) (path : Path) : Except RulesError RuleBook :=
  match files.opened path with
  | .error cause => .error (.notOpened path cause)
  | .ok content => RuleBook.ofContent content

end LetterToSound
