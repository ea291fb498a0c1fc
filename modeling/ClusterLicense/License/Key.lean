/-
  ClusterLicense/License/Key.lean
  ===============================
  **License keys**: the envelope around an encrypted record, and its text form.

  An envelope is three signed 32-bit fields, namely version, kind and content
  length, followed by the content.  A key keeps the octets of its envelope as
  they are, so that keys are equal when their stored forms are; only decoding
  looks inside.
-/
import ClusterLicense.License.Kind
import ClusterLicense.Text.Blank
import ClusterLicense.Text.Utf8

namespace ClusterLicense

/-- A license as it is stored and handed on. -/
structure LicenseKey where
  envelope : Bytes
  deriving DecidableEq

structure DecodedLicense where
  kind : LicenseKind
  version : Int32
  content : Bytes
  deriving DecidableEq

namespace LicenseKey

/-- The version of the envelopes that are written, and the only one that is read. -/
def currentVersion : Int32 := 1

/-- The greatest number in a signed 32-bit field. -/
def largestLength : Nat := 2147483647

/-! ### Writing -/

def encode (kind : LicenseKind) (version : Int32) (content : Bytes) :
    Except LicenseError LicenseKey :=
  if content.length ≤ largestLength then
    .ok ⟨Bytes.ofInt32 version ++ Bytes.ofInt32 kind.code ++
      Bytes.ofInt32 (Int32.ofNat content.length) ++ content⟩
  else .error (.malformedKey (.oversized content.length))

def text (key : LicenseKey) : String := Base64.text key.envelope

/-! ### Reading -/

/-- The key with a text form; blank characters around it are ignored. -/
def ofText (text : String) : Except LicenseError LicenseKey :=
  match Base64.decode (Utf8.encode (Text.trim text)) with
  | .ok envelope => .ok ⟨envelope⟩
  | .error cause => .error (.malformedKey (.notBase64 cause))

/-- The 32-bit field at the front of what is left of an envelope of `size` octets. -/
def field (size : Nat) : Bytes → Except Malformation (Int32 × Bytes)
  | a :: b :: c :: d :: rest => .ok (Bytes.int32 a b c d, rest)
  | rest => .error (.truncated 4 (size - rest.length) rest.length)

/-- What an envelope holds, if it is exactly one envelope of the current version. -/
def open? (envelope : Bytes) : Except Malformation DecodedLicense := do
  let size := envelope.length
  let (version, rest) ← field size envelope
  unless version = currentVersion do
    throw (.unsupportedVersion version)
  let (code, rest) ← field size rest
  let some kind := LicenseKind.ofCode? code
    | throw (.unknownKind code)
  let (length, rest) ← field size rest
  if length < 0 then
    throw (.negativeLength length)
  let need := length.toInt.toNat
  if rest.length < need then
    throw (.truncated need (size - rest.length) rest.length)
  if need < rest.length then
    throw (.trailing (rest.length - need))
  pure ⟨kind, version, rest⟩

def decode (key : LicenseKey) : Except LicenseError DecodedLicense :=
  match open? key.envelope with
  | .ok decoded => .ok decoded
  | .error cause => .error (.malformedKey cause)

end LicenseKey

end ClusterLicense
