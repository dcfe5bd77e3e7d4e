/-!
# Files

What is needed of the place where files are kept.

* `Files` is a record of calls; each of them may have effects of its own.
* `FileError` says why a file could not be read.
-/

namespace Stencil

/-- Why a file could not be read. -/
inductive FileError where
  | missing
  /-- A file is used as if it were a directory. -/
  | notDirectory
  | isDirectory
  | forbidden
  /-- The bytes are no text. -/
  | notText
  | other (message : String)
  deriving Repr, DecidableEq

/-- The wording of an error. -/
def FileError.message : FileError → String
  | .missing => "No such file or directory (os error 2)"
  | .forbidden => "Permission denied (os error 13)"
  | .notDirectory => "Not a directory (os error 20)"
  | .isDirectory => "Is a directory (os error 21)"
  | .notText => "stream did not contain valid UTF-8"
  | .other message => message

/-- An entry of a directory. -/
structure FileEntry where
  name : String
  isDirectory : Bool
  deriving Repr, DecidableEq

/-- The calls of a place where files are kept. -/
structure Files (m : Type → Type) where
  /-- The content of the file at a path. -/
  read : String → m (Except FileError String)
  /-- Whether there is a file at a path, and not a directory. -/
  isFile : String → m Bool
  /-- The entries of the directory at a path; none at all if there is no directory. -/
  entries : String → m (List FileEntry)

end Stencil
