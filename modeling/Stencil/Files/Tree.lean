import Stencil.Files.Basic
import Stencil.Files.Path

/-!
# File trees

Files that are kept in memory. Every path starts at the root of the tree.

* `FileTree.add` puts a file into a tree.
* `FileTree.find` follows a path, and `FileTree.calls` are the calls of a tree.
-/

namespace Stencil

/-- A file or a directory. -/
inductive FileTree where
  | file (content : String)
  | directory (entries : List (String × FileTree))

namespace FileTree

/-- The directory without entries. -/
def empty : FileTree := .directory []

/-- The entry with a name. -/
def child? (name : String) : List (String × FileTree) → Option FileTree
  | [] => none
  | (n, t) :: entries => if n = name then some t else child? name entries

/-- The entries with one put at its place, or at the end if it is new. -/
def putEntry (name : String) (t : FileTree) :
    List (String × FileTree) → List (String × FileTree)
  | [] => [(name, t)]
  | (n, u) :: entries => if n = name then (n, t) :: entries else (n, u) :: putEntry name t entries

/-- The entries of a directory; a file has none. -/
def entries : FileTree → List (String × FileTree)
  | .file _ => []
  | .directory entries => entries

/-- Puts a tree at a path of names, making the directories on the way. -/
def put (t : FileTree) : List String → FileTree → FileTree
  | [], _ => t
  | name :: names, here =>
    .directory (putEntry name (put t names ((child? name here.entries).getD empty)) here.entries)

/-- Puts a file at a path. -/
def add (root : FileTree) (path content : String) : FileTree :=
  put (.file content) (Path.names path) root

/-- Follows the steps of a path. The directories above are kept for the steps that go up. -/
def follow (above : List FileTree) (here : FileTree) : List String → Except FileError FileTree
  | [] => .ok here
  | step :: steps =>
    match here with
    | .file _ => .error .notDirectory
    | .directory entries =>
      if step = "" ∨ step = "." then follow above here steps
      else if step = ".." then
        match above with
        | [] => follow [] here steps
        | outer :: above => follow above outer steps
      else match child? step entries with
        | some t => follow (here :: above) t steps
        | none => .error .missing

/-- What stands at a path. -/
def find (root : FileTree) (path : String) : Except FileError FileTree :=
  if path = "" then .error .missing else follow [] root (Path.steps path)

/-- Whether a tree is a directory. -/
def isDirectory : FileTree → Bool
  | .file _ => false
  | .directory _ => true

/-- The content of the file at a path. -/
def read (root : FileTree) (path : String) : Except FileError String :=
  match root.find path with
  | .ok (.file content) => .ok content
  | .ok (.directory _) => .error .isDirectory
  | .error e => .error e

/-- The calls of a tree. -/
def calls (root : FileTree) : Files Id where
  read := root.read
  isFile path := match root.find path with
    | .ok t => !t.isDirectory
    | .error _ => false
  entries path := match root.find path with
    | .ok t => t.entries.map fun (name, t) => ⟨name, t.isDirectory⟩
    | .error _ => []

end FileTree

end Stencil
