import LetterToSound.Text.Basic

namespace LetterToSound

inductive FileError
  | notFound
  | notDirectory
  | isDirectory
  | nameTooLong
  | invalidPath
  | denied
  | notText
  | other (message : Text)
deriving DecidableEq, Repr

/-- The system's wording for the errors that have a number, and our own for the others. -/
def FileError.message : FileError → Text
  | .notFound => "No such file or directory (os error 2)"
  | .notDirectory => "Not a directory (os error 20)"
  | .isDirectory => "Is a directory (os error 21)"
  | .nameTooLong => "File name too long (os error 36)"
  | .invalidPath => "file name contained an unexpected NUL byte"
  | .denied => "Permission denied (os error 13)"
  | .notText => "stream did not contain valid UTF-8"
  | .other message => message

end LetterToSound
