import LetterToSound.Text.Blank
import LetterToSound.Text.Lower
import LetterToSound.Text.Quoted
import LetterToSound.Files.Content
import LetterToSound.Rules.LineError
import LetterToSound.Rules.Variables
import LetterToSound.Rules.Polish
import LetterToSound.Trie.OfRules
import LetterToSound.Words.Transcription
import LetterToSound.Words.Record
import LetterToSound.Settings.Cascade
import LetterToSound.CommandLine.Run
import LetterToSound.Main
import LetterToSound.Proofs.Cascade
import LetterToSound.Proofs.CutWords
import LetterToSound.Proofs.Records
import LetterToSound.Proofs.Commands
import LetterToSound.Proofs.StoredRules
import LetterToSound.Proofs.Session
import LetterToSound.Proofs.ModesAgree
import LetterToSound.Proofs.RuleOrder
import LetterToSound.Proofs.Complements
import LetterToSound.Proofs.PolishWords
import LetterToSound.Proofs.TextLines
import LetterToSound.Proofs.Readings
import LetterToSound.Proofs.LineGrammar
import LetterToSound.Proofs.InPlace
import LetterToSound.Proofs.PlainBook
import LetterToSound.Proofs.WrittenBook
import LetterToSound.Proofs.ContextFields
import LetterToSound.Proofs.Exclusions
import LetterToSound.Proofs.NamedContexts
import LetterToSound.Proofs.TreesAlike
import LetterToSound.Proofs.FlagsFirst
import LetterToSound.Proofs.CombinationOrder
import LetterToSound.Proofs.NamesMentioned
import LetterToSound.Proofs.SecondReading
import LetterToSound.Proofs.Wildcards
import LetterToSound.Proofs.Windows
import LetterToSound.Proofs.OneFileEach
import LetterToSound.Proofs.TiledWords
