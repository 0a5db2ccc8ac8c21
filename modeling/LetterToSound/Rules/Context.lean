import LetterToSound.Rules.LineError
import LetterToSound.Rules.Variables
import LetterToSound.Text.Blank

namespace LetterToSound

namespace Token

/-- The token for the start or the end of a word. -/
def boundary : Text := ['$']

/-- The only value of a variable that stands for any context. -/
def wildcard : Text := ['*']

end Token

namespace Variables

/-- The variable that holds every token; exclusions are taken from it. -/
def allName : Text := "ALL"

def all? (vars : Variables) : Option (List Text) := vars.get? allName

def find (vars : Variables) (name : Text) : Except LineError (List Text) :=
  match vars.get? name.trim with
  | some values => .ok values
  | none => .error (.unknownVariable name.trim)

end Variables

/-- Reads the items between commas. None of them may be blank. -/
def readItems (blank : LineError) (t : Text) : Except LineError (List Text) :=
  if [] ∈ t.pieces ',' then .error blank else .ok (t.pieces ',')

/-- Reads items in parentheses. -/
def readList (t : Text) : Except LineError (List Text) :=
  match t with
  | '(' :: inner =>
    if inner.getLast? = some ')' then readItems .emptyValue inner.dropLast
    else .error (.unclosedList t)
  | _ => .error (.unclosedList t)

/-- An exclusion keeps what it leaves of all tokens, so that it is matched like any other list. -/
inductive Context
  | any
  | only (tokens : List Text)
  | allBut (remaining : List Text)
deriving DecidableEq, Repr

namespace Context

/-- What the context admits; nothing is listed where everything is admitted. -/
def tokens? : Context → Option (List Text)
  | .any => none
  | .only tokens => some tokens
  | .allBut remaining => some remaining

def without (tokens removed : List Text) : List Text :=
  tokens.filter (· ∉ removed)

/-- Reads a field that is not a wildcard's name, given the list of all tokens. -/
def readTokens (vars : Variables) (all : List Text) (field : Text) :
    Except LineError Context :=
  match field with
  | '-' :: '(' :: inner => return .allBut (without all (← readList ('(' :: inner)))
  | '-' :: names =>
    return .allBut ((← (names.splitOn '-').mapM vars.find).foldl without all)
  | '(' :: _ => return .only (← readList field)
  | names => return .only (← (names.splitOn '+').mapM vars.find).flatten

/-- Reads a context field. A wildcard's name is all that may stand there before `ALL` is set, and
no context may be left without a token. -/
def read (vars : Variables) (field : Text) : Except LineError Context :=
  if vars.get? field = some [Token.wildcard] then .ok .any
  else
    match vars.all? with
    | none => .error .allNotSet
    | some all => do
      let context ← readTokens vars all field
      if context.tokens? = some [] then .error (.emptyContext field) else .ok context

end Context

end LetterToSound
