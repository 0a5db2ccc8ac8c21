import LetterToSound.Files.Content
import LetterToSound.Files.Path

namespace LetterToSound

/-- What is found at a path. Where nothing is, there is a cause for that. -/
abbrev Files := Path → Except FileError Content

def Files.opened (files : Files) (path : Path) : Except FileError Content := do
  (← files path).opened

theorem Files.opened_file {files : Files} {path : Path} {bytes : Bytes}
    (h : files path = .ok (.file bytes)) : files.opened path = .ok (.file bytes) := by
  rw [opened, h]
  rfl

theorem Files.opened_congr {files other : Files} {path : Path} (h : other path = files path) :
    other.opened path = files.opened path := by
  rw [opened, opened, h]

/-- The entries of a directory. -/
inductive FileTree
  | empty
  | file (name : Text) (bytes : Bytes) (rest : FileTree)
  | directory (name : Text) (inside rest : FileTree)
  | closed (name : Text) (cause : FileError) (rest : FileTree)
deriving DecidableEq, Repr

/-- A place in a file tree: the names that lead to it from the root. -/
abbrev Place := List Text

namespace FileTree

inductive Item
  | file (bytes : Bytes)
  | directory (inside : FileTree)
  | closed (cause : FileError)

def Item.content : Item → Content
  | .file bytes => .file bytes
  | .directory _ => .directory
  | .closed cause => .closed cause

def find? (name : Text) : FileTree → Option Item
  | empty => none
  | file other bytes rest => if other = name then some (.file bytes) else rest.find? name
  | directory other inside rest =>
    if other = name then some (.directory inside) else rest.find? name
  | closed other cause rest => if other = name then some (.closed cause) else rest.find? name

def item? (tree : FileTree) : Place → Option Item
  | [] => some (.directory tree)
  | name :: names =>
    match tree.find? name with
    | some (.directory inside) => inside.item? names
    | some item => if names = [] then some item else none
    | none => none

/-- New directories with an item at the end, before the other entries. -/
def ofItem (item : Item) (name : Text) (names : List Text) (rest : FileTree) : FileTree :=
  match names, item with
  | [], .file bytes => file name bytes rest
  | [], .directory inside => directory name inside rest
  | [], .closed cause => closed name cause rest
  | next :: names, item => directory name (ofItem item next names empty) rest

/-- Puts an item at a place and makes the directories above it. A directory that is there already
keeps its entries. -/
def put (item : Item) (name : Text) (names : List Text) : FileTree → FileTree
  | empty => ofItem item name names empty
  | file other bytes rest =>
    if other = name then ofItem item name names rest
    else file other bytes (rest.put item name names)
  | directory other inside rest =>
    if other = name then
      match names, item with
      | [], .file bytes => file other bytes rest
      | [], .directory _ => directory other inside rest
      | [], .closed cause => closed other cause rest
      | next :: names, item => directory other (inside.put item next names) rest
    else directory other inside (rest.put item name names)
  | closed other cause rest =>
    if other = name then ofItem item name names rest
    else closed other cause (rest.put item name names)

/-- Puts an item at a place. The root stays what it is. -/
def putAt (item : Item) (place : Place) (tree : FileTree) : FileTree :=
  match place with
  | [] => tree
  | name :: names => tree.put item name names

/-- Names and paths are measured in bytes. -/
def longestName : Nat := 255

def longestPath : Nat := 4095

/-- Where a part of a path leads from a directory. -/
def enter (place : Place) (part : Text) : Place :=
  if part = ['.', '.'] then place.dropLast
  else if Path.isStep part then place ++ [part]
  else place

/-- Puts an item where the parts of a path lead from a directory. Every directory on the way is
made, also one that a step up leaves again. -/
def putPath (item : Item) (here : Place) (parts : List Text) (tree : FileTree) : FileTree :=
  match parts with
  | [] => tree.putAt item here
  | part :: parts => (tree.putAt (.directory .empty) here).putPath item (enter here part) parts

/-- Follows the parts of a path. Each is looked up in a directory, so a step up is possible only
from where one can go. -/
def follow (tree : FileTree) (place : Place) : List Text → Except FileError (Place × Content)
  | [] =>
    match tree.item? place with
    | none => .error .notFound
    | some item => .ok (place, item.content)
  | part :: parts =>
    match tree.item? place with
    | none => .error .notFound
    | some (.directory _) =>
      if longestName < part.utf8Size then .error .nameTooLong
      else tree.follow (enter place part) parts
    | some _ => .error .notDirectory

/-- The place that a path denotes, with what stands there; a relative path starts at `here`. A path
that is too long is refused before any part of it is looked up. -/
def locate (tree : FileTree) (here : Place) (path : Path) : Except FileError (Place × Content) :=
  if '\x00' ∈ path then .error .invalidPath
  else if path = [] then .error .notFound
  else if longestPath < path.utf8Size then .error .nameTooLong
  else tree.follow (if path.isAbsolute then [] else here) (List.splitOn '/' path)

/-- The files of a tree, seen from the directory `here`. -/
def files (tree : FileTree) (here : Place) : Files :=
  fun path => (tree.locate here path).map Prod.snd

end FileTree

end LetterToSound
