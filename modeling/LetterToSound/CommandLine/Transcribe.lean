import LetterToSound.CommandLine.Machine
import LetterToSound.CommandLine.Request
import LetterToSound.Text.Blank
import LetterToSound.Words.Record
import LetterToSound.Words.Transcription

namespace LetterToSound

/-- Where words come from. -/
inductive Source
  | standardInput
  | file (path : Path)
deriving DecidableEq, Repr

namespace Source

/-- Without a file, standard input is read. -/
def ofInputs (paths : List Path) : List Source :=
  if paths = [] then [standardInput] else paths.map file

def failureMessage : Source → Text
  | standardInput => "Failed to transcribe standard input"
  | file path => "Failed to transcribe " ++ path

def openIn (machine : Machine) : Source → Except Failure Content
  | standardInput => .ok (.file machine.input)
  | file path =>
    (machine.files.opened path).mapError fun cause => ⟨"Failed to open " ++ path, [cause.message]⟩

end Source

/-- A word and the source in which it stands. -/
abbrev SourceWord := Source × Text

/-- The words that can be read, and what ends the reading before the end. -/
structure WordStream where
  words : List SourceWord
  failure : Option Failure

namespace WordStream

/-- The words of the lines before the first one that cannot be read. -/
def ofLines (source : Source) : List (Except FileError Text) → WordStream
  | [] => ⟨[], none⟩
  | .error cause :: _ =>
    ⟨[], some ⟨source.failureMessage, ["Failed to read input", cause.message]⟩⟩
  | .ok line :: rest =>
    let stream := ofLines source rest
    { stream with words := line.words.map (source, ·) ++ stream.words }

/-- The words of the sources, up to the first failure. -/
def ofSources (machine : Machine) : List Source → WordStream
  | [] => ⟨[], none⟩
  | source :: rest =>
    match source.openIn machine with
    | .error failure => ⟨[], some failure⟩
    | .ok content =>
      let stream := ofLines source content.lines
      match stream.failure with
      | some _ => stream
      | none =>
        let others := ofSources machine rest
        { others with words := stream.words ++ others.words }

end WordStream

/-- What transcribing a stream of words writes. -/
structure Transcript where
  out : Text := []
  warnings : Text := []
  failedWords : Nat := 0
  failure : Option Failure := none

namespace Transcript

/-- A word that no rules match is warned of and passed over. Without rules no word can be
transcribed, so the first one ends the run. -/
def ofWords (trie : RuleTrie) (mode : Mode) (failure : Option Failure) :
    List SourceWord → Transcript
  | [] => { failure }
  | (source, word) :: rest =>
    match trie.transcribe mode word with
    | .ok transcriptions =>
      let others := ofWords trie mode failure rest
      { others with out := record word transcriptions ++ "\n" ++ others.out }
    | .error (.noMatch word) =>
      let others := ofWords trie mode failure rest
      { others with
        warnings := "warning: " ++ (WordError.noMatch word).message ++ "\n" ++ others.warnings
        failedWords := others.failedWords + 1 }
    | .error .noRules =>
      { failure := some ⟨source.failureMessage, [WordError.noRules.message]⟩ }

def ofStream (trie : RuleTrie) (mode : Mode) (stream : WordStream) : Transcript :=
  ofWords trie mode stream.failure stream.words

def outcome (transcript : Transcript) : Outcome :=
  match transcript.failure with
  | some failure => ⟨1, transcript.out, transcript.warnings ++ failure.render⟩
  | none =>
    if transcript.failedWords = 0 then ⟨0, transcript.out, transcript.warnings⟩
    else ⟨1, transcript.out, transcript.warnings ++
      (Text.ofNat transcript.failedWords ++ " word(s) could not be transcribed\n")⟩

end Transcript

/-- The mode in effect; the command line comes before the settings. -/
def MergedSettings.modeInEffect (settings : MergedSettings) (options : Options) : Mode :=
  if options.all then .all else (options.mode.or settings.mode).getD default

namespace Machine

def transcribe (machine : Machine) (options : Options) : Outcome :=
  let prepared := do
    let settings ← machine.settings
    return (settings, ← machine.trie (settings.rulesInEffect options.rules))
  match prepared with
  | .error failure => failure.outcome
  | .ok (settings, trie) =>
    let stream := WordStream.ofSources machine (Source.ofInputs options.inputs)
    (Transcript.ofStream trie (settings.modeInEffect options) stream).outcome

end Machine

end LetterToSound
