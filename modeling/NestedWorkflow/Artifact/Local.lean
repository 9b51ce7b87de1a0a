import NestedWorkflow.Artifact
import NestedWorkflow.Artifact.FileTree
import NestedWorkflow.Decimal
import NestedWorkflow.Hash.Hex

/-!
# Artifacts in a directory

A store that keeps artifacts as files: the segments of a key name directories and, the last one, a
file.  A name cannot stand for a file and a directory at once, so unlike in memory one artifact can
be in the way of another.  Characters that are unsafe in file names are spelled by their bytes.
-/

namespace NestedWorkflow

namespace FileName

/-- Bytes that do not stand for themselves: control characters, bytes outside ASCII, and characters
that some file system or tool treats specially. -/
def isUnsafe (b : UInt8) : Bool :=
  b < 0x20 || 0x7f ≤ b ||
    ['\\', '\x7b', '^', '\x7d', '%', '`', ']', '"', '>', '[', '~', '<', '#', '|', '*', '?'].any
      fun c => c.toNat == b.toNat

/-- An upper-case hexadecimal digit. -/
def upperDigit (n : Nat) : Char := (Hex.digit n).toUpper

/-- A byte as two upper-case digits behind a percent sign. -/
def spellByte (b : UInt8) : List Char :=
  ['%', upperDigit (b.toNat / 16), upperDigit (b.toNat % 16)]

/-- The file name of a segment.  The names of a directory and its parent are spelled out. -/
def ofSegment (segment : String) : String :=
  if segment = "." then "%2E"
  else if segment = ".." then "%2E%2E"
  else
    String.ofList (segment.toUTF8.data.toList.flatMap fun b =>
      if isUnsafe b then spellByte b else [Char.ofNat b.toNat])

/-- A path that ends in a letter and a colon is that of a drive and leads to a directory only. -/
def isDrive (path : FilePath) : Bool :=
  match (path.getLastD "").toList.reverse with
  | ':' :: c :: _ => c.isAlpha
  | _ => false

end FileName

/-- Artifacts in a directory, under the keys of a store with its own prefix.  Files are numbered in
the order of their writing. -/
structure LocalStore where
  base : String
  root : FileTree
  written : Nat

namespace LocalStore

/-- A store whose directory is empty. -/
def new (base : String) : LocalStore := ⟨base, .empty, 0⟩

/-- The path of a reference. -/
def path (s : LocalStore) (r : Reference) : FilePath :=
  (ArtifactKey.of s.base r).map FileName.ofSegment

/-- The paths of all files. -/
def files (s : LocalStore) : List FilePath := s.root.files

/-- What stands under a reference, unless it has no path or something is in the way. -/
def locate (s : LocalStore) (r : Reference) : Except StorageError (Option FileTree) :=
  match s.path r with
  | [] => .error (.backend r [])
  | path =>
    match s.root.find path with
    | .ok t => .ok (some t)
    | .error .absent => .ok none
    | .error _ => .error (.backend r [])

/-- The bytes of an artifact.  A directory is none. -/
def get (s : LocalStore) (r : Reference) : Except StorageError (Option ByteArray) :=
  (s.locate r).map fun
    | some (.file _ bytes) => some bytes
    | _ => none

/-- Probe an artifact. -/
def head (s : LocalStore) (r : Reference) : Except StorageError Metadata :=
  (s.get r).map Metadata.ofStored

/-! ### Staging

A file is built under a staged name, that of its target with a number sign and a number, and then
renamed.  No segment is spelled with a number sign, so staged names are not those of artifacts. -/

/-- The directories of the staged names of a target. -/
def stagingDirectory (target : FilePath) : FilePath :=
  if FileName.isDrive target then target else target.dropLast

/-- The staged name of a target with a number. -/
def stagedName (target : FilePath) (n : Nat) : String :=
  (if FileName.isDrive target then "" else target.getLastD "") ++ "#" ++
    String.ofList (Decimal.digits n)

/-- The first number from `n` on whose staged name is free.  Fuel counts those that are taken. -/
def freeNumber (target : FilePath) (taken : Entries FileTree) : Nat → Nat → Nat
  | 0, n => n
  | fuel + 1, n =>
    if (Entries.get? (stagedName target n) taken).isSome then freeNumber target taken fuel (n + 1)
    else n

/-- The tree after the directories of a target have been created, and the first staged name from a
number on, unless there is no room for it. -/
def stage (root : FileTree) (target : FilePath) (first : Nat) : FileTree × Option FilePath :=
  let directory := stagingDirectory target
  let named (n : Nat) : FilePath := directory ++ [stagedName target n]
  match root.find directory with
  | .ok (.directory entries) =>
    let n := freeNumber target entries entries.length first
    (root,
      if (named n).fits && FilePath.nameFits (stagedName target n) then some (named n) else none)
  | .error .absent =>
    if (named first).fits then
      let (root, done) := root.makeDirectories directory
      (root,
        if done && FilePath.nameFits (stagedName target first) then some (named first) else none)
    else (root, none)
  | _ => (root, none)

/-! ### Writing

A writing that fails leaves the directories that it created. -/

/-- Store an artifact. -/
def put (s : LocalStore) (r : Reference) (bytes : ByteArray) :
    LocalStore × Except StorageError Unit :=
  let target := s.path r
  let (root, staged) := if target = [] then (s.root, none) else stage s.root target 1
  match staged, root.find target with
  | none, _ | _, .ok (.directory _) => (⟨s.base, root, s.written⟩, .error (.backend r []))
  | _, _ => (⟨s.base, root.place target s.written bytes, s.written + 1⟩, .ok ())

/-- Store one artifact as another too.  Both names then stand for one file, until one of them is
written again.  Where they already do, nothing is renamed, and the staged name stays. -/
def copy (s : LocalStore) (source destination : Reference) :
    LocalStore × Except StorageError Unit :=
  let target := s.path destination
  match if target = [] then .error (.backend source []) else s.locate source with
  | .error e => (s, .error e)
  | .ok none => (s, .error (.notFound source))
  | .ok (some found) =>
    let (root, staged) := stage s.root target 0
    match found, staged, root.find target with
    | .directory _, _, _ | _, none, _ | _, _, .ok (.directory _) =>
      ({ s with root }, .error (.backend source []))
    | .file number bytes, some staged, .ok (.file other _) =>
      ({ s with root := root.place (if number = other then staged else target) number bytes },
        .ok ())
    | .file number bytes, _, _ => ({ s with root := root.place target number bytes }, .ok ())

end LocalStore

end NestedWorkflow
