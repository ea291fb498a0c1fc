/-
  ClusterLicense/License/Metadata.lean
  ====================================
  **License keys inside cluster metadata**, persisted as JSON and sent as octets.

  Metadata objects are packed one after the other, so each reader takes exactly
  its own object and leaves the rest.  On the wire a key is its envelope after
  a length, and a change of the license is a tag that is followed by a key if
  the license was replaced.
-/
import ClusterLicense.Json.Form
import ClusterLicense.Json.Value
import ClusterLicense.License.Key

namespace ClusterLicense

namespace LicenseKey

/-- The name under which the license stands in cluster metadata. -/
def metadataName : String := "license"

/-- The longest envelope that is read from the wire. -/
def largestEnvelope : Nat := 64 * 1024

/-! ### JSON -/

def licenseMember : String := "license"

def keyMember : String := "licenseKey"

def json (key : LicenseKey) : Json.Value :=
  .object [(licenseMember, .object [(keyMember, .string key.text)])]

/-- How an object with one field and no others is read. -/
def singleForm {α : Type} (name member : String) (read : Json.Reader α) :
    Json.Form (Option α) α where
  name := name
  fields := [
    { name := member
      isFilled := (·.isSome)
      read := do
        let a ← read
        return fun _ => some a
      absent := none }]
  refusesOthers := true
  blank := none
  finish := fun draft =>
    match draft with
    | some a => .ok a
    | none => .error (.missingField member)

def bodyForm : Json.Form (Option String) String :=
  singleForm "PersistedLicenseBody" keyMember (Json.text "a string")

def persistedForm : Json.Form (Option String) String :=
  singleForm "PersistedLicense" licenseMember bodyForm.read

/-- The key in the persisted object at the front, and the octets after the object. -/
def ofJsonStream (input : Bytes) : Except LicenseError (LicenseKey × Bytes) :=
  if input.all Json.isBlank then .error (.metadataParsing "expected a license object")
  else
    match persistedForm.read input with
    | .error fault => .error (.metadataParsing (fault.message input))
    | .ok (text, rest) =>
      match ofText text with
      | .ok key => .ok (key, rest)
      | .error e => .error (.metadataParsing e.message)

/-! ### Octets -/

/-- The envelope after its length. -/
def wire (key : LicenseKey) : Bytes :=
  Bytes.ofInt32 (Int32.ofNat key.envelope.length) ++ key.envelope

def write (key : LicenseKey) (sink : Sink) : Except StorageError Unit × Sink :=
  if key.envelope.length ≤ largestLength then sink.write key.wire
  else (.error .envelopeTooLarge, sink)

/-- The key at the front, and the octets after it. -/
def read : Bytes → Except LicenseError (LicenseKey × Bytes)
  | a :: b :: c :: d :: rest =>
    let length := Bytes.int32 a b c d
    let size := length.toInt.toNat
    if length < 0 ∨ largestEnvelope < size then
      .error (.metadataParsing s!"invalid envelope length {length}")
    else if rest.length < size then .error (.io .exhausted)
    else .ok (⟨rest.take size⟩, rest.drop size)
  | _ => .error (.io .exhausted)

end LicenseKey

/-! ### Changes -/

/-- How the license changes from one state of the metadata to the next. -/
inductive LicenseDiff where
  | same
  | complete (key : LicenseKey)
  deriving DecidableEq

namespace LicenseDiff

def between (previous : Option LicenseKey) (key : LicenseKey) : LicenseDiff :=
  if previous = some key then .same else .complete key

def apply (diff : LicenseDiff) (previous : Option LicenseKey) : Option LicenseKey :=
  match diff with
  | .same => previous
  | .complete key => some key

def wire : LicenseDiff → Bytes
  | .same => [0]
  | .complete key => 1 :: key.wire

/-- Writes a change to a sink: the tag, and then the key if the tag has been taken. -/
def write (diff : LicenseDiff) (sink : Sink) : Except StorageError Unit × Sink :=
  match diff with
  | .same => sink.write [0]
  | .complete key =>
    match sink.write [1] with
    | (.ok (), sink) => key.write sink
    | failed => failed

def read : Bytes → Except LicenseError (LicenseDiff × Bytes)
  | [] => .error (.io .exhausted)
  | tag :: rest =>
    if tag = 0 then .ok (.same, rest)
    else if tag = 1 then do
      let (key, rest) ← LicenseKey.read rest
      pure (.complete key, rest)
    else .error (.metadataParsing s!"unknown diff tag {tag}")

end LicenseDiff

end ClusterLicense
