import NestedWorkflow.Dict

/-!
# Trees of files

Directories and files by the names that lead to them.  Several names can stand for one file, so a
file carries the number of the writing it comes from.  Names are limited in length, each of them and
all on a path together.  Nothing can be reached through a name that is too long, or through a file.
-/

namespace NestedWorkflow

/-- A file or a directory. -/
inductive FileTree
  /-- The same number means the same file. -/
  | file (number : Nat) (bytes : ByteArray)
  | directory (entries : List (String × FileTree))

/-- The names on the way to a file or a directory. -/
abbrev FilePath := List String

/-- Why nothing is found at the end of a path. -/
inductive Obstacle
  | absent
  /-- A file stands where a directory is needed. -/
  | blocked
  | tooLong
deriving DecidableEq

namespace FilePath

/-- The most bytes of one name. -/
def longestName : Nat := 255

/-- The most bytes of the names on a path with the slashes between them, next to the path of the
root. -/
def longest : Nat := 4079

/-- The bytes of the names with a slash before each. -/
def size (path : FilePath) : Nat := path.foldr (fun name n => name.utf8ByteSize + 1 + n) 0

/-- The path is short enough to be looked at. -/
def fits (path : FilePath) : Bool := path.size ≤ longest + 1

/-- The name is short enough for a directory. -/
def nameFits (name : String) : Bool := name.utf8ByteSize ≤ longestName

end FilePath

namespace FileTree

/-- A directory without entries. -/
def empty : FileTree := .directory []

instance : Inhabited FileTree := ⟨empty⟩

/-- What a path leads to. -/
def descend : FilePath → FileTree → Except Obstacle FileTree
  | [], t => .ok t
  | _ :: _, .file _ _ => .error .blocked
  | name :: rest, .directory entries =>
    if FilePath.nameFits name then
      match Entries.get? name entries with
      | none => .error .absent
      | some t => descend rest t
    else .error .tooLong

/-- What a path that is short enough leads to. -/
def find (t : FileTree) (path : FilePath) : Except Obstacle FileTree :=
  if path.fits then descend path t else .error .tooLong

/-- A change of the entries of the directory that a path leads to. -/
def within (change : Entries FileTree → Entries FileTree) : FilePath → FileTree → FileTree
  | _, .file number bytes => .file number bytes
  | [], .directory entries => .directory (change entries)
  | name :: rest, .directory entries =>
    match Entries.get? name entries with
    | none => .directory entries
    | some t => .directory (Entries.insert name (within change rest t) entries)

/-- Put a file at the end of a path whose directories are there. -/
def place (t : FileTree) (path : FilePath) (number : Nat) (bytes : ByteArray) : FileTree :=
  within (Entries.insert (path.getLastD "") (.file number bytes)) path.dropLast t

/-- Create the directories on a path that are missing, up to the first that cannot be created, and
tell whether all are there. -/
def makeDirectories : FilePath → FileTree → FileTree × Bool
  | _, .file number bytes => (.file number bytes, false)
  | [], .directory entries => (.directory entries, true)
  | name :: rest, .directory entries =>
    if FilePath.nameFits name then
      let (t, done) := makeDirectories rest ((Entries.get? name entries).getD empty)
      (.directory (Entries.insert name t entries), done)
    else (.directory entries, false)

mutual

/-- The paths of all files. -/
def files : FileTree → List FilePath
  | .file _ _ => [[]]
  | .directory entries => filesBelow entries

/-- The paths of all files among and below some entries. -/
def filesBelow : List (String × FileTree) → List FilePath
  | [] => []
  | (name, t) :: rest => (files t).map (name :: ·) ++ filesBelow rest

end

end FileTree

end NestedWorkflow
