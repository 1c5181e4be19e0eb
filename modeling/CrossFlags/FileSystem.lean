import CrossFlags.Host

/-!
# File systems as values

A directory tree and a working directory inside it answer what stands at a path. A path is walked
from left to right: an empty name and `.` stay, `..` goes up, any other name goes down, and each
of them needs a directory to start from. So `file/` stands for nothing although `file` does, and
the empty path stands for nothing at all. Names and paths have a greatest length, and a longer
one is refused as such, a path before it is walked and a name where it is looked up. Whatever is
in a tree can be read.

The walk keeps the directories above the one it is in, which is all that going up takes; above the
root is the root.
-/

set_option autoImplicit false

namespace CrossFlags

/-- A directory tree. Names are single path components. -/
inductive Tree where
  | directory (entries : List (Octets × Tree))
  | file (content : Octets) (executable : Bool)

namespace Tree

/-- What stands at the root of the tree. -/
def node : Tree → Node
  | .directory _ => .directory
  | .file content executable => .file content executable

/-- An empty directory. -/
def empty : Tree := .directory []

/-- The tree under a name, in a list of entries. -/
def child? (name : Octets) (entries : List (Octets × Tree)) : Option Tree :=
  (entries.find? fun e => e.1 == name).map Prod.snd

/-- A tree put under a name, over whatever has that name. -/
def setChild (name : Octets) (tree : Tree) (entries : List (Octets × Tree)) :
    List (Octets × Tree) :=
  entries.filter (fun e => e.1 != name) ++ [(name, tree)]

/-- A tree placed below a directory; missing directories on the way are made, and a file on the
way gives way to one. Where a directory is placed on a directory, what is there stays. -/
def place (leaf : Tree) : List Octets → Tree → Tree
  | [], tree =>
    match leaf, tree with
    | .directory [], .directory entries => .directory entries
    | leaf, _ => leaf
  | name :: rest, .directory entries =>
    .directory (setChild name (place leaf rest ((child? name entries).getD empty)) entries)
  | name :: rest, .file _ _ => .directory [(name, place leaf rest empty)]

end Tree

/-- A place in a tree: what stands there, and the directories above, innermost first. -/
structure Place where
  here : Tree
  above : List Tree

namespace Place

/-- One component further. -/
def step (spot : Place) (name : Octets) : Except Refusal Place :=
  match spot.here with
  | .file _ _ => .error .notDirectory
  | .directory entries =>
    if name = [] ∨ name = Utf8.encode "." then .ok spot
    else if name = Utf8.encode ".." then
      match spot.above with
      | [] => .ok spot
      | parent :: rest => .ok ⟨parent, rest⟩
    else if nameLimit < name.length then .error .nameTooLong
    else match Tree.child? name entries with
      | some tree => .ok ⟨tree, spot.here :: spot.above⟩
      | none => .error .notFound

/-- A whole path further. -/
def walk (spot : Place) (names : List Octets) : Except Refusal Place :=
  names.foldlM step spot

end Place

/-- A tree with a working directory. -/
structure FileSystem where
  root : Tree
  workingDirectory : List Octets

namespace FileSystem

/-- What stands at a path. -/
def look (files : FileSystem) (path : Octets) : Except Refusal Node := do
  if path.contains 0 then .error .zeroOctet
  if path.isEmpty then .error .notFound
  if pathLimit < path.length then .error .nameTooLong
  let names := Text.pieces (· == pathSlash) path
  let start ←
    if path.head? = some pathSlash then .ok ⟨files.root, []⟩
    else Place.walk ⟨files.root, []⟩ files.workingDirectory
  let spot ← start.walk names
  return spot.here.node

/-- A file or directory placed at a path below the working directory. -/
def place (files : FileSystem) (path : Octets) (leaf : Tree) : FileSystem :=
  let names := (Text.pieces (· == pathSlash) path).filter fun name =>
    !name.isEmpty && name != Utf8.encode "."
  { files with root := Tree.place leaf (files.workingDirectory ++ names) files.root }

end FileSystem
end CrossFlags
