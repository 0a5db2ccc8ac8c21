import LetterToSound.Files.Content
import LetterToSound.Rules.Book

namespace LetterToSound

/-- Why a rule text was not read to its end. -/
inductive RulesError
  | badLine (number : Nat) (line : Text) (error : LineError)
  | unreadable (cause : FileError)
  | notOpened (path : Text) (cause : FileError)
deriving DecidableEq, Repr

namespace RulesError

def message : RulesError → Text
  | .badLine number line _ =>
    "Failed to parse rules at line " ++ Text.ofNat number ++ ": " ++ line
  | .unreadable _ => "Failed to read rules"
  | .notOpened path _ => "Failed to read rule file: " ++ path

def cause : RulesError → Text
  | .badLine _ _ error => error.message
  | .unreadable cause | .notOpened _ cause => cause.message

end RulesError

/-- How far a reading came, and what ended it before the end. -/
structure Reading where
  book : RuleBook
  error : Option RulesError

namespace RuleBook

/-- Reads lines that are numbered from `number` on. -/
def readLines (book : RuleBook) (number : Nat) : List (Except FileError Text) → Reading
  | [] => ⟨book, none⟩
  | .error cause :: _ => ⟨book, some (.unreadable cause)⟩
  | .ok line :: rest =>
    match book.readLine line with
    | .error error => ⟨book, some (.badLine number line.trim error)⟩
    | .ok book => book.readLines (number + 1) rest

def read (book : RuleBook) (content : Content) : Reading :=
  book.readLines 1 content.lines

/-- The book that a text in lines leaves behind, up to the first line that is refused. -/
def ofLines (lines : List Text) : RuleBook := (empty.readLines 1 (lines.map .ok)).book

end RuleBook

/-- The book of a reading that came to its end. -/
def Reading.complete (reading : Reading) : Except RulesError RuleBook :=
  match reading.error with
  | some error => .error error
  | none => .ok reading.book

/-- The rule book that a rule text describes. -/
def RuleBook.ofContent (content : Content) : Except RulesError RuleBook :=
  (RuleBook.empty.read content).complete

end LetterToSound
