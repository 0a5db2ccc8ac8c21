import LetterToSound.Rules.Polish
import LetterToSound.Trie.OfRules

namespace LetterToSound

def Polish.trie : RuleTrie := .ofRules book.rules

end LetterToSound
