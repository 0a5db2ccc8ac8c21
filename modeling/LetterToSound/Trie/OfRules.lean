import LetterToSound.Rules.Book
import LetterToSound.Trie.Basic

namespace LetterToSound

/-- The word boundary is one symbol; any other token is its letters. -/
def Token.edges (token : Text) : List Edge :=
  if token = Token.boundary then [.boundary] else token.map .letter

/-- The tokens that a context asks for, one at a time; no letter is asked for where any
neighbour will do. -/
def Context.alternatives (context : Context) : List Text := context.tokens?.getD [[]]

structure Entry where
  path : List Step
  output : Output
deriving DecidableEq, Repr

def Entry.along (ahead behind : List Edge) (output : Output) : Entry :=
  ⟨ahead.map (⟨.ahead, ·⟩) ++ behind.map (⟨.behind, ·⟩), output⟩

def Rule.output (rule : Rule) : Output := ⟨rule.source.length, rule.targets⟩

def Rule.entries (rule : Rule) : List Entry :=
  rule.right.alternatives.flatMap fun right =>
    rule.left.alternatives.map fun left =>
      .along (rule.source.map .letter ++ Token.edges right) (Token.edges left).reverse rule.output

/-- Inserts entries in their order, so among equals the last one stays. -/
def RuleTrie.ofEntries (entries : List Entry) : RuleTrie :=
  entries.foldl (fun trie entry => trie.insert entry.path entry.output) .empty

def RuleTrie.ofRules (rules : List Rule) : RuleTrie :=
  .ofEntries (rules.flatMap Rule.entries)

end LetterToSound
