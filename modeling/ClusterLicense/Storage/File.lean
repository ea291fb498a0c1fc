/-
  ClusterLicense/Storage/File.lean
  ================================
  **Files and byte sinks, as far as keys and licenses need them.**

  Key files are read and written whole.  `Files` is the interface that any
  place to keep files offers; operations on key files are written against it
  and so hold for a disk and for a directory in memory alike.  A `Sink` is a
  writer that may run out of room.
-/
import ClusterLicense.Bytes.BigEndian

namespace ClusterLicense

inductive StorageError where
  /-- There is no file, or no directory, of that name. -/
  | missing
  /-- The name is that of a directory. -/
  | isDirectory
  /-- The name goes on behind a file. -/
  | notDirectory
  /-- The name, or one of its parts, is longer than names may be. -/
  | nameTooLong
  /-- The name has a NUL in it, with which names end outside. -/
  | nulInName
  /-- The octets end before what was asked for. -/
  | exhausted
  /-- There is no room for what was to be written. -/
  | full
  /-- A text was asked for, and the octets are none. -/
  | notText
  /-- An envelope is longer than its length field can say. -/
  | envelopeTooLarge
  /-- Any other failure, in the words of whoever reports it. -/
  | other (text : String)
  deriving DecidableEq

def StorageError.message : StorageError → String
  | .missing => "No such file or directory (os error 2)"
  | .isDirectory => "Is a directory (os error 21)"
  | .notDirectory => "Not a directory (os error 20)"
  | .nameTooLong => "File name too long (os error 36)"
  | .nulInName => "file name contained an unexpected NUL byte"
  | .exhausted => "failed to fill whole buffer"
  | .full => "failed to write whole buffer"
  | .notText => "stream did not contain valid UTF-8"
  | .envelopeTooLarge => "license envelope too large"
  | .other text => text

class Files (m : Type → Type) where
  /-- The octets of a file. -/
  read : String → m (Except StorageError Bytes)
  /-- Makes the octets the content of a file, whether or not it existed. -/
  write : String → Bytes → m (Except StorageError Unit)

/-! ### Sinks -/

/-- A writer: what it has taken so far, and how much it takes in all, if it is bounded. -/
structure Sink where
  room : Option Nat
  written : Bytes

namespace Sink

def empty (room : Option Nat) : Sink := ⟨room, []⟩

/-- Writes what fits, and reports whether all of it did. -/
def write (sink : Sink) (bytes : Bytes) : Except StorageError Unit × Sink :=
  match sink.room with
  | none => (.ok (), { sink with written := sink.written ++ bytes })
  | some room =>
    let free := room - sink.written.length
    let sink := { sink with written := sink.written ++ bytes.take free }
    (if bytes.length ≤ free then .ok () else .error .full, sink)

end Sink

end ClusterLicense
