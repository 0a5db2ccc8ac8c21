import LetterToSound.CommandLine.Check
import LetterToSound.CommandLine.ShowSettings
import LetterToSound.CommandLine.Transcribe

namespace LetterToSound

def versionText : Text := "prg2p 0.1.0\n"

def helpText : Text :=
  "Rule-based grapheme-to-phoneme converter.

Reads whitespace-delimited words from the given files (or standard input) and writes one line per
word: word, number of transcriptions, and the transcriptions separated by '|'.

Usage: prg2p [OPTIONS] [INPUT]...
       prg2p check [--rules FILE]
       prg2p config show

Options:
  -r, --rules FILE  Read the rules from FILE
  -m, --mode MODE   Give the first, all or the last transcriptions
  -a, --all         Give all transcriptions
  -v, --verbose     Log what is done
  -h, --help        Print help
  -V, --version     Print version
"

namespace Machine

def answer (machine : Machine) : Request → Outcome
  | .help => { code := 0, out := helpText }
  | .version => { code := 0, out := versionText }
  | .transcribe options => machine.transcribe options
  | .check rules => machine.check rules
  | .showSettings => machine.showSettings

def run (machine : Machine) (arguments : List Text) : Outcome :=
  match Request.read arguments with
  | .error error => { code := 2, err := "error: " ++ error.message ++ "\n" }
  | .ok request => machine.answer request

end Machine

end LetterToSound
