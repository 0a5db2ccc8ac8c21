import LetterToSound.Text.Basic

namespace LetterToSound

/-- The value of a key. An empty list is as good as an empty table. -/
inductive SettingsValue
  | text (t : Text)
  | flag (b : Bool)
  | empty
deriving DecidableEq, Repr

/-- What a line of a document says. Every key is given with the keys of the tables around it. -/
inductive SettingsFact
  | header (keys : List Text)
  | entry (keys : List Text) (value : SettingsValue)
deriving DecidableEq, Repr

namespace SettingsDocument

def isSpace (c : Char) : Bool := c = ' ' || c = '\t'

def skipSpace (t : Text) : Text := t.dropWhile isSpace

/-- A control character may stand nowhere in a document, the tab apart. -/
def isPlain (c : Char) : Bool := c = '\t' || (' ' ≤ c && c ≠ '\x7f')

def newline? : Text → Option Text
  | '\n' :: rest => some rest
  | '\x0d' :: '\n' :: rest => some rest
  | _ => none

/-- Skips spaces, line ends and comments. -/
def gap? (inComment : Bool) : Text → Option Text
  | [] => some []
  | '\n' :: rest => gap? false rest
  | '\x0d' :: '\n' :: rest => gap? false rest
  | c :: rest =>
    if inComment then if isPlain c then gap? true rest else none
    else if isSpace c then gap? false rest
    else if c = '#' then gap? true rest
    else some (c :: rest)

/-- Ends a line, at most a comment being left on it. -/
def endLine? (t : Text) : Option Text :=
  let rest := match skipSpace t with
    | '#' :: comment => comment.dropWhile isPlain
    | rest => rest
  if rest = [] then some [] else newline? rest

def digit? (c : Char) : Option Nat :=
  if c.isDigit then some (c.toNat - '0'.toNat)
  else if 'a' ≤ c ∧ c ≤ 'f' then some (c.toNat - 'a'.toNat + 10)
  else if 'A' ≤ c ∧ c ≤ 'F' then some (c.toNat - 'A'.toNat + 10)
  else none

/-- The code point with the given hexadecimal digits. -/
def codePoint? (digits : Text) : Option Char := do
  let digits ← digits.mapM digit?
  let number := digits.foldl (16 * · + ·) 0
  if number.isValidChar then some (.ofNat number) else none

/-- The code point of `count` digits, and what follows them. -/
def numbered? (count : Nat) (t : Text) : Option (Text × Text) := do
  if t.length < count then none
  else return ([← codePoint? (t.take count)], t.drop count)

/-- Skips spaces and line ends. -/
def skipIndent : Text → Text
  | [] => []
  | '\n' :: rest => skipIndent rest
  | '\x0d' :: '\n' :: rest => skipIndent rest
  | c :: rest => if isSpace c then skipIndent rest else c :: rest

/-- A backslash before a line end joins the lines and drops the indent of the next. -/
def joinLines? (t : Text) : Option (Text × Text) :=
  (newline? (skipSpace t)).map fun rest => ([], skipIndent rest)

/-- What stands for a backslash and the code points after it. -/
def escape? (several : Bool) : Text → Option (Text × Text)
  | 'b' :: rest => some (['\x08'], rest)
  | 't' :: rest => some (['\t'], rest)
  | 'n' :: rest => some (['\n'], rest)
  | 'f' :: rest => some (['\x0c'], rest)
  | 'r' :: rest => some (['\x0d'], rest)
  | 'e' :: rest => some (['\x1b'], rest)
  | '"' :: rest => some (['"'], rest)
  | '\\' :: rest => some (['\\'], rest)
  | 'x' :: rest => numbered? 2 rest
  | 'u' :: rest => numbered? 4 rest
  | 'U' :: rest => numbered? 8 rest
  | rest => if several then joinLines? rest else none

/-- How a text is delimited and what may stand in it. -/
structure Quoting where
  quote : Char
  several : Bool
  escapes : Bool

/-- The end of a text: one quote, or three, before which up to two belong to the text. -/
def Quoting.close? (quoting : Quoting) (t : Text) : Option (Text × Text) :=
  let quotes := (t.takeWhile (· = quoting.quote)).length
  if quoting.several then
    if quotes < 3 then none
    else some (List.replicate (min quotes 5 - 3) quoting.quote, t.drop (min quotes 5))
  else if quotes = 0 then none
  else some ([], t.drop 1)

/-- The next piece of a text. -/
def Quoting.piece? (quoting : Quoting) (t : Text) : Option (Text × Text) :=
  match t with
  | [] => none
  | '\x0d' :: '\n' :: rest => if quoting.several then some (['\x0d', '\n'], rest) else none
  | c :: rest =>
    if quoting.escapes ∧ c = '\\' then escape? quoting.several rest
    else if isPlain c ∨ quoting.several ∧ c = '\n' then some ([c], rest)
    else none

/-- Reads a text to its closing quotes. -/
def Quoting.body? (quoting : Quoting) (t : Text) : Option (Text × Text) :=
  match quoting.close? t with
  | some closed => some closed
  | none => do
    let (piece, rest) ← quoting.piece? t
    if _shorter : rest.length < t.length then
      let (body, rest) ← quoting.body? rest
      return (piece ++ body, rest)
    else none
termination_by t.length

/-- Reads a text on one line. -/
def line? : Text → Option (Text × Text)
  | '"' :: rest => Quoting.body? ⟨'"', false, true⟩ rest
  | '\'' :: rest => Quoting.body? ⟨'\'', false, false⟩ rest
  | _ => none

/-- Reads a text; between triple quotes it may have several lines, and a line end right after the
opening quotes is no part of it. -/
def text? (t : Text) : Option (Text × Text) :=
  let several (quote : Char) (escapes : Bool) (rest : Text) :=
    Quoting.body? ⟨quote, true, escapes⟩ ((newline? rest).getD rest)
  match t with
  | '"' :: '"' :: '"' :: rest => several '"' true rest
  | '\'' :: '\'' :: '\'' :: rest => several '\'' false rest
  | t => line? t

def isBare (c : Char) : Bool := c.isAlphanum || c = '_' || c = '-'

def key? (t : Text) : Option (Text × Text) :=
  match t.takeWhile isBare with
  | [] => line? t
  | bare => some (bare, t.dropWhile isBare)

/-- Reads keys with dots between them, and the space after the last. -/
def keys? (t : Text) : Option (List Text × Text) := do
  let (key, rest) ← key? t
  match skipSpace rest with
  | '.' :: rest =>
    let rest := skipSpace rest
    if _shorter : rest.length < t.length then
      let (keys, rest) ← keys? rest
      return (key :: keys, rest)
    else none
  | rest => return ([key], rest)
termination_by t.length

/-- Reads an empty table or list. -/
def empty? (t : Text) : Option Text := do
  let (close, inside) ← match t with
    | '\x7b' :: inside => some ('\x7d', inside)
    | '[' :: inside => some (']', inside)
    | _ => none
  match ← gap? false inside with
  | c :: rest => if c = close then some rest else none
  | [] => none

/-- Reads a table whose only entry is empty, and gives the keys of the entry. Inside the braces a
line may end wherever a space may stand, except among the keys. -/
def table? (t : Text) : Option (List Text × Text) := do
  let '\x7b' :: inside := t | none
  let (keys, rest) ← keys? (← gap? false inside)
  let '=' :: rest ← gap? false rest | none
  let rest ← gap? false (← empty? (← gap? false rest))
  let rest ← match rest with
    | ',' :: rest => gap? false rest
    | rest => some rest
  let '\x7d' :: rest := rest | none
  return (keys, rest)

/-- Reads a value. A table with an entry is given as the value of its entry, with the keys that
lead there. -/
def value? (t : Text) : Option (List Text × SettingsValue × Text) :=
  match t with
  | 't' :: 'r' :: 'u' :: 'e' :: rest => some ([], .flag true, rest)
  | 'f' :: 'a' :: 'l' :: 's' :: 'e' :: rest => some ([], .flag false, rest)
  | t =>
    match empty? t, table? t, text? t with
    | some rest, _, _ => some ([], .empty, rest)
    | none, some (keys, rest), _ => some (keys, .empty, rest)
    | none, none, some (text, rest) => some ([], .text text, rest)
    | none, none, none => none

/-- Reads the fact at the start of a line, and what follows the line. -/
def fact? (table : List Text) (t : Text) : Option (SettingsFact × Text) :=
  match t with
  | '[' :: rest => do
    let (keys, rest) ← keys? (skipSpace rest)
    let ']' :: rest := rest | none
    return (.header keys, ← endLine? rest)
  | t => do
    let (keys, rest) ← keys? t
    let '=' :: rest := rest | none
    let (more, value, rest) ← value? (skipSpace rest)
    return (.entry (table ++ keys ++ more) value, ← endLine? rest)

/-- Reads the lines of a document, the first of them in the given table. -/
def facts? (table : List Text) (t : Text) : Option (List SettingsFact) := do
  match ← gap? false t with
  | [] => return []
  | start =>
    let (fact, rest) ← fact? table start
    if _shorter : rest.length < t.length then
      let table := match fact with
        | .header keys => keys
        | .entry _ _ => table
      return fact :: (← facts? table rest)
    else none
termination_by t.length

end SettingsDocument

/-- The facts of a document, unless it is malformed. A byte order mark before it is skipped. -/
def SettingsFact.ofDocument? (t : Text) : Option (List SettingsFact) :=
  match t with
  | '\ufeff' :: t => SettingsDocument.facts? [] t
  | t => SettingsDocument.facts? [] t

end LetterToSound
