import LetterToSound.Text.Basic

namespace LetterToSound

/-- The output line of a word: the word, the number of its transcriptions, and the transcriptions
between bars. -/
def record (word : Text) (transcriptions : List Text) : Text :=
  word ++ '\t' :: Text.ofNat transcriptions.length ++
    '\t' :: List.intercalate ['|'] transcriptions

end LetterToSound
