import LetterToSound.Rules.Context

namespace LetterToSound

/-- `source`, between the two contexts, sounds like each of `targets`. -/
structure Rule where
  left : Context
  source : Text
  right : Context
  targets : List Text
deriving DecidableEq, Repr

namespace Rule

/-- Reads the four fields of a rule line. -/
def read (vars : Variables) (line : Text) : Except LineError Rule :=
  match line.pieces '\t' with
  | [left, source, right, targets] =>
    if source = [] then .error .emptySource
    else do
      let left ← Context.read vars left
      let right ← Context.read vars right
      let targets ← readItems .emptyTarget targets
      return { left, source, right, targets }
  | fields => .error (.fieldCount fields.length)

end Rule

structure Assignment where
  name : Text
  values : List Text
deriving DecidableEq, Repr

namespace Assignment

/-- All tokens include the word boundary, named or not. -/
def withBoundary (name : Text) (values : List Text) : List Text :=
  if name = Variables.allName ∧ Token.boundary ∉ values then values ++ [Token.boundary] else values

/-- Reads a line with an equals sign. A name may not begin like an exclusion or a list. -/
def read (line : Text) : Except LineError Assignment :=
  match line.splitOn '=' with
  | [left, right] =>
    let name := Text.trim left
    if name = [] then .error .missingName
    else if name.head? = some '(' ∨ name.head? = some '-' then .error (.invalidName name)
    else if Text.trim right = [] then .error .noValues
    else do
      let values ← readItems .emptyValue right
      return { name, values := withBoundary name values }
  | _ => .error .severalAssignments

end Assignment

structure RuleBook where
  vars : Variables
  rules : List Rule

namespace RuleBook

def empty : RuleBook := ⟨.empty, []⟩

/-- A line is blank, a comment, an assignment if it has an equals sign, or else a rule. -/
def readLine (book : RuleBook) (line : Text) : Except LineError RuleBook :=
  let line := line.trim
  if line = [] ∨ line.head? = some '#' then .ok book
  else if '=' ∈ line then do
    let assignment ← Assignment.read line
    return { book with vars := book.vars.set assignment.name assignment.values }
  else do
    let rule ← Rule.read book.vars line
    return { book with rules := book.rules ++ [rule] }

end RuleBook

end LetterToSound
