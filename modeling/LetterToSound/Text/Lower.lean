import LetterToSound.Text.Case

namespace LetterToSound.Text

/-- Every capital gives one small letter but `İ`, which gives `i` and a dot above. -/
def smallForm (c : Char) : Text :=
  if c = 'İ' then ['i', '\u0307']
  else match capitals.find? (·.contains c) with
    | some run => [run.small c]
    | none => [c]

/-- Whether a cased letter comes first, code points that do not end a word apart. -/
def meetsLetter (t : Text) : Bool :=
  (t.dropWhile caseIgnorables.contains).head?.any casedLetters.contains

/-- A sigma is final when its word has a letter before it and none behind it. -/
def smallSigma (behind ahead : Text) : Char :=
  if meetsLetter behind && !meetsLetter ahead then 'ς' else 'σ'

/-- Lower-cases a text that stands after `behind`, which is given last code point first. -/
def lowerAfter (behind : Text) : Text → Text
  | [] => []
  | c :: ahead =>
    (if c = 'Σ' then [smallSigma behind ahead] else smallForm c) ++ lowerAfter (c :: behind) ahead

def lower (t : Text) : Text := lowerAfter [] t

end LetterToSound.Text
