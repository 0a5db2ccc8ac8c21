import LetterToSound.Text.Basic

namespace LetterToSound

/-- What failed, and why, one cause behind the other. -/
structure Failure where
  message : Text
  causes : List Text
deriving DecidableEq, Repr

namespace Failure

/-- Puts `lead` before a text and as many spaces before each of its further lines. -/
def indented (lead : Text) (t : Text) : Text :=
  lead ++ ('\n' :: List.replicate lead.length ' ').intercalate (t.splitOn '\n')

def numbered (number : Nat) (cause : Text) : Text :=
  indented ((Text.ofNat number).leftpad 5 ' ' ++ ": ") cause

/-- A single cause is indented; several are numbered. -/
def renderCauses : List Text → Text
  | [] => []
  | [cause] => "\n\nCaused by:\n" ++ indented "    " cause
  | causes =>
    "\n\nCaused by:\n" ++ ['\n'].intercalate (causes.mapIdx numbered)

def render (failure : Failure) : Text :=
  "error: " ++ failure.message ++ renderCauses failure.causes ++ "\n"

end Failure

end LetterToSound
