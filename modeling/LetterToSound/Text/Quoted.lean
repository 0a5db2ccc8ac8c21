import LetterToSound.Text.Visibility

namespace LetterToSound.Text

/-- A code point by its number, in lower-case hexadecimal digits without leading zeros. -/
def escapeNumber (c : Char) : Text :=
  ['\\', 'u', '\x7b'] ++ Nat.toDigits 16 c.toNat ++ ['\x7d']

def escape (c : Char) : Text :=
  match c with
  | '\x00' => ['\\', '0']
  | '\t' => ['\\', 't']
  | '\x0d' => ['\\', 'r']
  | '\n' => ['\\', 'n']
  | '"' => ['\\', '"']
  | '\\' => ['\\', '\\']
  | c => if extenders.contains c || unprintables.contains c then escapeNumber c else [c]

def quoted (t : Text) : Text :=
  ['"'] ++ t.flatMap escape ++ ['"']

end LetterToSound.Text
