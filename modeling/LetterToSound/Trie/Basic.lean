import LetterToSound.Text.Basic

namespace LetterToSound

/-- One symbol of a word: a letter, or the boundary at either end. -/
inductive Edge
  | boundary
  | letter (c : Char)
deriving DecidableEq, Repr

inductive Side
  | ahead
  | behind
deriving DecidableEq, Repr

structure Step where
  side : Side
  edge : Edge
deriving DecidableEq, Repr

/-- What a matched rule gives: how many letters it covers, and how they may sound. -/
structure Output where
  covered : Nat
  targets : List Text
deriving DecidableEq, Repr

/-- Nodes are numbered in the order in which they are made. -/
structure Node where
  number : Nat
  output : Option Output := none
deriving DecidableEq, Repr

/-- Of two outputs for one node the one that covers more letters stays, or else the newer. -/
def Node.store (node : Node) (new : Output) : Node :=
  match node.output with
  | some old => if new.covered < old.covered then node else { node with output := some new }
  | none => { node with output := some new }

/-- The branches of a node, each with the node that its step leads to. -/
inductive Branches
  | none
  | branch (step : Step) (node : Node) (below rest : Branches)
deriving DecidableEq, Repr

/-- A node of the trie with all that lies below it. -/
structure Trie where
  node : Node
  branches : Branches
deriving DecidableEq, Repr

namespace Branches

def find? (step : Step) : Branches → Option Trie
  | none => .none
  | branch other node below rest => if other = step then some ⟨node, below⟩ else rest.find? step

/-- A new path, whose nodes are numbered from `fresh` on. -/
def ofPath (fresh : Nat) (output : Output) (step : Step) : List Step → Branches
  | [] => branch step ⟨fresh, some output⟩ none none
  | next :: path => branch step ⟨fresh, .none⟩ (ofPath (fresh + 1) output next path) none

/-- Follows a path, makes the nodes that are missing, and stores the output at its end. -/
def insert (fresh : Nat) (output : Output) (step : Step) (path : List Step) : Branches → Branches
  | none => ofPath fresh output step path
  | branch other node below rest =>
    if other = step then
      match path with
      | [] => branch other (node.store output) below rest
      | next :: path => branch other node (below.insert fresh output next path) rest
    else branch other node below (rest.insert fresh output step path)

/-- How many nodes of a path are missing. -/
def missing (step : Step) (path : List Step) : Branches → Nat
  | none => path.length + 1
  | branch other _ below rest =>
    if other = step then
      match path with
      | [] => 0
      | next :: path => below.missing next path
    else rest.missing step path

def hasOutput : Branches → Bool
  | none => false
  | branch _ node below rest => node.output.isSome || below.hasOutput || rest.hasOutput

/-- All nodes of the branches, each with what lies below it. -/
def tries : Branches → List Trie
  | none => []
  | branch _ node below rest => ⟨node, below⟩ :: (below.tries ++ rest.tries)

/-- The steps that can be taken, with the nodes they lead to. -/
def steps : Branches → List (Step × Node)
  | none => []
  | branch step node _ rest => (step, node) :: rest.steps

end Branches

namespace Trie

def child? (trie : Trie) (step : Step) : Option Trie := trie.branches.find? step

/-- The node at the end of a path. -/
def walk? (trie : Trie) (path : List Step) : Option Trie := path.foldlM child? trie

/-- Some rule has been stored. -/
def hasOutput (trie : Trie) : Bool := trie.node.output.isSome || trie.branches.hasOutput

def tries (trie : Trie) : List Trie := trie :: trie.branches.tries

end Trie

/-- A whole trie with the number of its nodes. -/
structure RuleTrie where
  root : Trie
  size : Nat
deriving DecidableEq, Repr

namespace RuleTrie

def empty : RuleTrie := ⟨⟨⟨0, none⟩, .none⟩, 1⟩

def insert (trie : RuleTrie) (path : List Step) (output : Output) : RuleTrie :=
  match path with
  | [] => { trie with root.node := trie.root.node.store output }
  | step :: path =>
    { root.node := trie.root.node
      root.branches := trie.root.branches.insert trie.size output step path
      size := trie.size + trie.root.branches.missing step path }

end RuleTrie

end LetterToSound
