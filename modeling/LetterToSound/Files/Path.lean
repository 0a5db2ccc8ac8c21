import LetterToSound.Text.Basic

namespace LetterToSound

abbrev Path := Text

namespace Path

def isAbsolute (path : Path) : Bool := path.head? = some '/'

/-- An absolute path stands for itself, wherever it is joined. -/
def join (base path : Path) : Path :=
  if path.isAbsolute then path
  else if base = [] ∨ base.getLast? = some '/' then base ++ path
  else base ++ '/' :: path

/-- Where a path starts: at the root, at a leading dot, or at neither; and what follows. -/
def anchor : Path → Text × Text
  | '/' :: body => (['/'], body)
  | ['.'] => (['.'], [])
  | '.' :: '/' :: body => (['.'], '/' :: body)
  | body => ([], body)

/-- Empty parts and dots lead nowhere. -/
def isStep (part : Text) : Bool := part ≠ [] && part ≠ ['.']

/-- Two spellings with the same components are the same path. -/
def components (path : Path) : List Text :=
  let (start, body) := path.anchor
  (if start = [] then [] else [start]) ++ (body.splitOn '/').filter isStep

/-- The directories above, nearest first, for parts that are given last first. -/
def parentsFrom (start : Text) : List Text → List Path
  | [] => if start = ['.'] then [[]] else []
  | part :: parts =>
    if isStep part then
      (start ++ ['/'].intercalate (parts.dropWhile (!isStep ·)).reverse) :: parentsFrom start parts
    else parentsFrom start parts

/-- The directories above a path, nearest first. Each is the path without its last steps, in the
same spelling. -/
def parents (path : Path) : List Path :=
  let (start, body) := path.anchor
  parentsFrom start (body.splitOn '/').reverse

def parent? (path : Path) : Option Path := path.parents.head?

end Path

end LetterToSound
