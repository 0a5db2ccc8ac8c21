import LetterToSound.Files.Error

namespace LetterToSound

abbrev Bytes := List UInt8

namespace Bytes

/-- The text that the bytes encode, if they are well-formed UTF-8. -/
def decode? (bytes : Bytes) : Option Text :=
  (String.fromUTF8? ⟨bytes.toArray⟩).map String.toList

def text (bytes : Bytes) : Except FileError Text :=
  match bytes.decode? with
  | some t => .ok t
  | none => .error .notText

def lineFeed : UInt8 := 10

/-- The lines without their line feeds; bytes after the last line feed are a line of their own.
A carriage return before a line feed stays in the line. It is a blank, and whoever reads lines
drops the blanks at their ends. -/
def lines (bytes : Bytes) : List Bytes :=
  let parts := bytes.splitOn lineFeed
  if parts.getLast? = some [] then parts.dropLast else parts

end Bytes

/-- What is there. A directory opens like a file and fails when it is read; what is closed cannot
even be opened. -/
inductive Content
  | file (bytes : Bytes)
  | directory
  | closed (cause : FileError)
deriving DecidableEq, Repr

namespace Content

def opened : Content → Except FileError Content
  | .closed cause => .error cause
  | content => .ok content

def text : Content → Except FileError Text
  | .file bytes => bytes.text
  | .directory => .error .isDirectory
  | .closed cause => .error cause

/-- Each line is judged by itself, so a line that is no text leaves those before it readable. -/
def lines : Content → List (Except FileError Text)
  | .file bytes => bytes.lines.map Bytes.text
  | .directory => [.error .isDirectory]
  | .closed cause => [.error cause]

end Content

end LetterToSound
