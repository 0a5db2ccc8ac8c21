import LetterToSound.Text.Quoted

namespace LetterToSound

/-- Why a line of a rule text is refused. -/
inductive LineError
  | severalAssignments
  | missingName
  | invalidName (name : Text)
  | noValues
  | emptyValue
  | fieldCount (found : Nat)
  | allNotSet
  | unclosedList (list : Text)
  | unknownVariable (name : Text)
  | emptyContext (expression : Text)
  | emptySource
  | emptyTarget
deriving DecidableEq, Repr

def LineError.message : LineError → Text
  | .severalAssignments => "multiple assignments on one line"
  | .missingName => "missing variable name"
  | .invalidName name => "invalid variable name " ++ name.quoted
  | .noValues => "no values to assign"
  | .emptyValue => "empty value in list"
  | .fieldCount found => "expected 4 tab-separated fields, found " ++ Text.ofNat found
  | .allNotSet => "variable \"ALL\" not set"
  | .unclosedList list => "expected \")\" in " ++ list.quoted
  | .unknownVariable name => "variable " ++ name.quoted ++ " not found"
  | .emptyContext expression => "context " ++ expression.quoted ++ " resolves to an empty set"
  | .emptySource => "empty source token"
  | .emptyTarget => "empty target"

end LetterToSound
