import LetterToSound.Words.Match
import LetterToSound.Words.Mode

namespace LetterToSound

namespace RuleTrie

/-- The outputs that tile `ahead`, where the first `skip` letters are covered already. -/
def segmentsFrom (trie : RuleTrie) (behind : Text) (skip : Nat) : Text → Option (List Output)
  | [] => some []
  | c :: ahead =>
    match skip with
    | skip + 1 => trie.segmentsFrom (c :: behind) skip ahead
    | 0 => do
      let output ← trie.best? behind (c :: ahead)
      let others ← trie.segmentsFrom (c :: behind) (output.covered - 1) ahead
      return output :: others

def segments? (trie : RuleTrie) (word : Text) : Option (List Output) :=
  trie.segmentsFrom [] 0 word

end RuleTrie

def spaced (parts : List Text) : Text := List.intercalate [' '] parts

/-- Every way to choose one alternative a segment; the last segment varies fastest. -/
def combinations : List (List Text) → List Text
  | [] => []
  | [alternatives] => alternatives
  | alternatives :: segments =>
    let tails := combinations segments
    alternatives.flatMap fun chosen => tails.map fun tail => chosen ++ ' ' :: tail

def Mode.combine (mode : Mode) (segments : List (List Text)) : List Text :=
  match mode with
  | .first => [spaced (segments.filterMap List.head?)]
  | .all => combinations segments
  | .last => [spaced (segments.filterMap List.getLast?)]

/-- Why a word is not transcribed. -/
inductive WordError
  | noRules
  | noMatch (word : Text)
deriving DecidableEq, Repr

def WordError.message : WordError → Text
  | .noRules => "Transcription trie is empty; no rules were loaded"
  | .noMatch word => "Failed to transcribe " ++ word.quoted

/-- Transcribes a word in lower case. An empty word has no transcription. -/
def RuleTrie.transcribe (trie : RuleTrie) (mode : Mode) (word : Text) :
    Except WordError (List Text) :=
  if trie.root.hasOutput then
    match word.lower with
    | [] => .error (.noMatch word)
    | letters =>
      match trie.segments? letters with
      | none => .error (.noMatch word)
      | some segments => .ok (mode.combine (segments.map Output.targets))
  else .error .noRules

end LetterToSound
