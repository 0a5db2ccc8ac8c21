import LetterToSound.Trie.Basic

namespace LetterToSound

namespace Trie

/-- The output at the end of the longest left context that the letters behind allow. The start of
the word counts as one more symbol. -/
def matchBehind (trie : Trie) : Text → Option Output
  | [] => (trie.child? ⟨.behind, .boundary⟩).bind (·.node.output) <|> trie.node.output
  | c :: behind =>
    (trie.child? ⟨.behind, .letter c⟩).bind (·.matchBehind behind) <|> trie.node.output

/-- The output of the longest way ahead that some left context completes. -/
def matchAhead (trie : Trie) (behind : Text) : Text → Option Output
  | [] => (trie.child? ⟨.ahead, .boundary⟩).bind (·.matchBehind behind) <|> trie.matchBehind behind
  | c :: ahead =>
    (trie.child? ⟨.ahead, .letter c⟩).bind (·.matchAhead behind ahead) <|> trie.matchBehind behind

end Trie

/-- The output that the trie prefers between `behind` and `ahead`. -/
def RuleTrie.best? (trie : RuleTrie) (behind ahead : Text) : Option Output :=
  trie.root.matchAhead behind ahead

/-- The output that the trie prefers at a position of a word. -/
def RuleTrie.bestAt? (trie : RuleTrie) (word : Text) (position : Nat) : Option Output :=
  trie.best? (word.take position).reverse (word.drop position)

end LetterToSound
