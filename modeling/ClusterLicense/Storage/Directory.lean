/-
  ClusterLicense/Storage/Directory.lean
  =====================================
  **A directory in memory**, and how names lead to its files.

  A name is taken apart at its slashes and followed from left to right.  Empty
  parts and single dots stay where they are, double dots go one directory up, and
  a part before the last one would have to be a directory.  The only directories
  are the one that holds the files, those above it, and the root; so two names
  that differ may still lead to one file, and a name can fail before it gets
  anywhere (`Directory.follow`).
-/
import ClusterLicense.Storage.File
import ClusterLicense.Text.Utf8

namespace ClusterLicense

/-! ### Names -/

/-- The parts of a name between its slashes. -/
def nameParts : List Char → List (List Char)
  | [] => [[]]
  | c :: cs =>
    if c = '/' then [] :: nameParts cs
    else
      match nameParts cs with
      | [] => [[c]]
      | part :: parts => (c :: part) :: parts

def longestPart : Nat := 255

def longestName : Nat := 4095

def octetCount (cs : List Char) : Nat := (Utf8.encode (String.ofList cs)).length

/-! ### Places -/

/-- A directory that a name can lead to. -/
inductive Folder where
  /-- As many levels above the directory that holds the files; none is that directory. -/
  | above (levels : Nat)
  /-- The directory that absolute names begin in. -/
  | root
  deriving DecidableEq

/-- One directory up; nothing is above the root. -/
def Folder.parent : Folder → Folder
  | .above levels => .above (levels + 1)
  | .root => .root

structure Location where
  folder : Folder
  /-- The last part of its name. -/
  name : List Char
  deriving DecidableEq

inductive Destination where
  | folder
  /-- A place for a file, whether or not there is one; `asFolder` tells that slashes after the
  name ask for a directory there. -/
  | file (location : Location) (asFolder : Bool)
  deriving DecidableEq

/-- Files by their places. -/
structure Directory where
  files : List (Location × Bytes)

namespace Directory

def empty : Directory := ⟨[]⟩

/-- Files by their names, which have no slashes in them. -/
def ofList (files : List (String × Bytes)) : Directory :=
  ⟨files.map fun (name, bytes) => (⟨.above 0, name.toList⟩, bytes)⟩

def at? (dir : Directory) (location : Location) : Option Bytes := dir.files.lookup location

def put (dir : Directory) (location : Location) (bytes : Bytes) : Directory :=
  ⟨(location, bytes) :: dir.files.filter (·.1 != location)⟩

/-! ### Following a name -/

/-- Where the parts of a name lead from a directory. -/
def followParts (dir : Directory) : Folder → List (List Char) → Except StorageError Destination
  | _, [] => .ok .folder
  | folder, part :: parts =>
    if part.isEmpty ∨ part = ['.'] then followParts dir folder parts
    else if part = ['.', '.'] then followParts dir folder.parent parts
    else if parts.all (·.isEmpty) then .ok (.file ⟨folder, part⟩ !parts.isEmpty)
    else if longestPart < octetCount part then .error .nameTooLong
    else if (dir.at? ⟨folder, part⟩).isSome then .error .notDirectory
    else .error .missing

def follow (dir : Directory) (name : String) : Except StorageError Destination :=
  let cs := name.toList
  if cs.contains '\x00' then .error .nulInName
  else if longestName < octetCount cs then .error .nameTooLong
  else followParts dir (if cs.head? = some '/' then .root else .above 0) (nameParts cs)

/-! ### Reading and writing -/

def read (dir : Directory) (name : String) : Except StorageError Bytes :=
  match dir.follow name with
  | .error e => .error e
  | .ok .folder => .error .isDirectory
  | .ok (.file location asFolder) =>
    if longestPart < octetCount location.name then .error .nameTooLong
    else
      match dir.at? location with
      | none => .error .missing
      | some bytes => if asFolder then .error .notDirectory else .ok bytes

def write (dir : Directory) (name : String) (bytes : Bytes) : Except StorageError Directory :=
  match dir.follow name with
  | .error e => .error e
  | .ok .folder => .error .isDirectory
  | .ok (.file location asFolder) =>
    if asFolder then .error .isDirectory
    else if longestPart < octetCount location.name then .error .nameTooLong
    else .ok (dir.put location bytes)

end Directory

abbrev DirectoryM := StateM Directory

instance : Files DirectoryM where
  read name := do return (← get).read name
  write name bytes := do
    match (← get).write name bytes with
    | .ok dir => set dir; return .ok ()
    | .error e => return .error e

end ClusterLicense
