/-
  ClusterLicense/License/Verifier.lean
  ====================================
  **Which licenses are valid**, and how valid ones are made.

  A license is decoded, decrypted and parsed; then its expiration is compared
  with the time and, for a license of the authority, its signature is checked.
  The first failure is the answer.  Everything that a verifier knows is its
  symmetric key and the authority's public key, and the time is an argument, so
  a verdict is a function of what it is given.
-/
import ClusterLicense.Cipher.SymmetricKey
import ClusterLicense.License.Key
import ClusterLicense.License.Record
import ClusterLicense.Rsa.KeyFile
import ClusterLicense.Rsa.Signature

namespace ClusterLicense

/-- What licenses are checked against. -/
structure Verifier where
  /-- The key that payloads are encrypted with. -/
  symmetricKey : SymmetricKey
  /-- The public key of the licensing authority. -/
  authority : Rsa.PublicKey
  deriving DecidableEq

namespace Verifier

/-! ### Trusting a key -/

/-- The public key file that comes with the library.  It has been taken for a text on its way, and
octets above 127 were replaced by the three of U+FFFD, so that it is no key any more
(`withBundledKey_eq_error`). -/
def bundledKey : Bytes :=
  [0x30, 0xEF, 0xBF, 0xBD, 0x01, 0x22, 0x30, 0x0D, 0x06, 0x09, 0x2A, 0xEF, 0xBF, 0xBD, 0x48, 0xEF,
   0xBF, 0xBD, 0xEF, 0xBF, 0xBD, 0x0D, 0x01, 0x01, 0x01, 0x05, 0x00, 0x03, 0xEF, 0xBF, 0xBD, 0x01,
   0x0F, 0x00, 0x30, 0xEF, 0xBF, 0xBD, 0x01, 0x0A, 0x02, 0xEF, 0xBF, 0xBD, 0x01, 0x01, 0x00, 0xEF,
   0xBF, 0xBD, 0x7A, 0x31, 0x42, 0xEF, 0xBF, 0xBD, 0x25, 0xEF, 0xBF, 0xBD, 0xEF, 0xBF, 0xBD, 0xEF,
   0xBF, 0xBD, 0xEF, 0xBF, 0xBD, 0xEF, 0xBF, 0xBD, 0xEF, 0xBF, 0xBD, 0x6B, 0x67, 0x39, 0x73, 0x10,
   0x0E, 0xEF, 0xBF, 0xBD, 0xEF, 0xBF, 0xBD, 0xEF, 0xBF, 0xBD, 0x1F, 0x4D, 0xEF, 0xBF, 0xBD, 0xEF,
   0xBF, 0xBD, 0x5A, 0x2F, 0xEF, 0xBF, 0xBD, 0x15, 0xEF, 0xBF, 0xBD, 0x6D, 0xEF, 0xBF, 0xBD, 0x74,
   0xEF, 0xBF, 0xBD, 0x48, 0x42, 0xEF, 0xBF, 0xBD, 0x21, 0x28, 0x66, 0xCC, 0xA9, 0x19, 0xEF, 0xBF,
   0xBD, 0x37, 0xEF, 0xBF, 0xBD, 0x54, 0xEF, 0xBF, 0xBD, 0xEF, 0xBF, 0xBD, 0xDE, 0xB0, 0x66, 0xEF,
   0xBF, 0xBD, 0xEF, 0xBF, 0xBD, 0x41, 0xEF, 0xBF, 0xBD, 0x7B, 0x49, 0xD7, 0xB2, 0xEF, 0xBF, 0xBD,
   0xEF, 0xBF, 0xBD, 0xEF, 0xBF, 0xBD, 0xEF, 0xBF, 0xBD, 0x0E, 0x4B, 0xEF, 0xBF, 0xBD, 0x62, 0xEF,
   0xBF, 0xBD, 0xEF, 0xBF, 0xBD, 0x5B, 0xEF, 0xBF, 0xBD, 0xEF, 0xBF, 0xBD, 0xEF, 0xBF, 0xBD, 0x06,
   0x0B, 0xEF, 0xBF, 0xBD, 0x7B, 0x4D, 0x62, 0x73, 0xEF, 0xBF, 0xBD, 0xEF, 0xBF, 0xBD, 0xEF, 0xBF,
   0xBD, 0x1B, 0xEF, 0xBF, 0xBD, 0x09, 0x72, 0xEF, 0xBF, 0xBD, 0xEF, 0xBF, 0xBD, 0x22, 0x6D, 0xEF,
   0xBF, 0xBD, 0xEF, 0xBF, 0xBD, 0x35, 0xEF, 0xBF, 0xBD, 0x6C, 0xEF, 0xBF, 0xBD, 0x2E, 0xEF, 0xBF,
   0xBD, 0x11, 0xEF, 0xBF, 0xBD, 0x6F, 0xEF, 0xBF, 0xBD, 0xEF, 0xBF, 0xBD, 0xCA, 0xBB, 0xEF, 0xBF,
   0xBD, 0xEF, 0xBF, 0xBD, 0xEF, 0xBF, 0xBD, 0x11, 0xEF, 0xBF, 0xBD, 0x53, 0xEF, 0xBF, 0xBD, 0xDF,
   0xB7, 0xEF, 0xBF, 0xBD, 0xEF, 0xBF, 0xBD, 0xEF, 0xBF, 0xBD, 0x0E, 0xEF, 0xBF, 0xBD, 0xEF, 0xBF,
   0xBD, 0xEF, 0xBF, 0xBD, 0x31, 0xEF, 0xBF, 0xBD, 0xEF, 0xBF, 0xBD, 0x6D, 0xEF, 0xBF, 0xBD, 0xEF,
   0xBF, 0xBD, 0xEF, 0xBF, 0xBD, 0x47, 0xEF, 0xBF, 0xBD, 0x05, 0x04, 0xEF, 0xBF, 0xBD, 0x71, 0x58,
   0x0D, 0x12, 0x19, 0x6B, 0x34, 0x5D, 0xEF, 0xBF, 0xBD, 0x4E, 0xEF, 0xBF, 0xBD, 0x30, 0x24, 0xEF,
   0xBF, 0xBD, 0xEF, 0xBF, 0xBD, 0xEF, 0xBF, 0xBD, 0x43, 0xEF, 0xBF, 0xBD, 0x4C, 0x0B, 0x77, 0x7B,
   0xEF, 0xBF, 0xBD, 0x76, 0x25, 0xEF, 0xBF, 0xBD, 0x55, 0xEF, 0xBF, 0xBD, 0x01, 0xEF, 0xBF, 0xBD,
   0xEF, 0xBF, 0xBD, 0x5B, 0x70, 0xEF, 0xBF, 0xBD, 0x17, 0x77, 0x00, 0xEF, 0xBF, 0xBD, 0x3A, 0xEF,
   0xBF, 0xBD, 0x02, 0x38, 0xEF, 0xBF, 0xBD, 0x55, 0xEF, 0xBF, 0xBD, 0xEF, 0xBF, 0xBD, 0x33, 0x30,
   0x3E, 0x17, 0xEF, 0xBF, 0xBD, 0x3F, 0x57, 0xD3, 0xA8, 0x3F, 0x10, 0xEF, 0xBF, 0xBD, 0xEF, 0xBF,
   0xBD, 0x0A, 0xEF, 0xBF, 0xBD, 0x72, 0x76, 0x2F, 0x5D, 0x34, 0x46, 0x21, 0x26, 0xEF, 0xBF, 0xBD,
   0x02, 0x04, 0x27, 0x17, 0xEF, 0xBF, 0xBD, 0xCA, 0x90, 0xEF, 0xBF, 0xBD, 0xC4, 0xAC, 0x32, 0xEF,
   0xBF, 0xBD, 0x7D, 0x72, 0xEF, 0xBF, 0xBD, 0xEF, 0xBF, 0xBD, 0x50, 0x72, 0xEF, 0xBF, 0xBD, 0x12,
   0x6C, 0xEF, 0xBF, 0xBD, 0x45, 0xEF, 0xBF, 0xBD, 0xEF, 0xBF, 0xBD, 0xEF, 0xBF, 0xBD, 0x1E, 0xEF,
   0xBF, 0xBD, 0x1B, 0xEF, 0xBF, 0xBD, 0x16, 0x58, 0x72, 0xD1, 0xA7, 0xEF, 0xBF, 0xBD, 0x57, 0xEF,
   0xBF, 0xBD, 0xEF, 0xBF, 0xBD, 0x57, 0xEF, 0xBF, 0xBD, 0xEF, 0xBF, 0xBD, 0x76, 0xEF, 0xBF, 0xBD,
   0xEF, 0xBF, 0xBD, 0x0F, 0x34, 0x1B, 0x02, 0x03, 0x01, 0x00, 0x01]


def ofKeyBytes (symmetricKey : SymmetricKey) (bytes : Bytes) : Except LicenseError Verifier :=
  match Rsa.PublicKey.decode bytes with
  | .ok authority => .ok ⟨symmetricKey, authority⟩
  | .error cause => .error (.keyMaterial cause)

def withBundledKey (symmetricKey : SymmetricKey) : Except LicenseError Verifier :=
  ofKeyBytes symmetricKey bundledKey

theorem withBundledKey_eq_error (symmetricKey : SymmetricKey) :
    withBundledKey symmetricKey =
      .error (.keyMaterial (.keyEncoding "not a public key")) := by
  have hrefused : Rsa.PublicKey.decode? bundledKey = none := by decide +kernel
  rw [withBundledKey, ofKeyBytes, Rsa.PublicKey.decode, hrefused]

def withKeyFile {m : Type → Type} [Monad m] [Files m] (symmetricKey : SymmetricKey)
    (name : String) : m (Except LicenseError Verifier) := do
  match ← Rsa.PublicKey.load name with
  | .ok authority => return .ok ⟨symmetricKey, authority⟩
  | .error cause => return .error (.keyMaterial cause)

/-! ### Checking -/

def decrypt (verifier : Verifier) (decoded : DecodedLicense) :
    Except LicenseError LicenseRecord :=
  match verifier.symmetricKey.decrypt decoded.content with
  | .ok payload => LicenseRecord.parse payload
  | .error cause => .error (.decryption cause)

/-- The record in a key, whether or not the license is valid. -/
def licenseData (verifier : Verifier) (key : LicenseKey) : Except LicenseError LicenseRecord := do
  verifier.decrypt (← key.decode)

/-- The octets that the authority signs for a record: a digest of its unsigned form. -/
def signedDigest (record : LicenseRecord) : Bytes := Sha2.sha256 record.signingBytes

def verifySignature (verifier : Verifier) (record : LicenseRecord) : Bool :=
  match record.signature with
  | none => false
  | some text =>
    match Base64.decode (Utf8.encode text) with
    | .error _ => false
    | .ok signature => verifier.authority.verify (signedDigest record) signature

/-- The record of a key that is valid at an instant, or the reason why it is not. -/
def check (verifier : Verifier) (key : LicenseKey) (now : Int64) :
    Except LicenseError LicenseRecord := do
  let decoded ← key.decode
  let record ← verifier.decrypt decoded
  if record.isExpired now then
    throw (.expired record.expiration)
  match decoded.kind with
  | .selfGenerated => pure record
  | .enterprise =>
    if verifier.verifySignature record then pure record else throw .signatureMismatch

def accepts (verifier : Verifier) (key : LicenseKey) (now : Int64) : Bool :=
  (verifier.check key now).isOk

/-! ### Making keys -/

/-- The key for a record; only the authority's licenses carry a signature, and they have to. -/
def createKey (verifier : Verifier) (kind : LicenseKind) (version : Int32)
    (record : LicenseRecord) : Except LicenseError LicenseKey :=
  match kind, record.isSigned with
  | .enterprise, false =>
    .error (.unsupportedOperation "enterprise licenses must be signed")
  | .selfGenerated, true =>
    .error (.unsupportedOperation "self generated licenses cannot carry a signature")
  | _, _ => LicenseKey.encode kind version (verifier.symmetricKey.encrypt record.stored)

end Verifier

/-- The record with the signature that a private key gives it, in place of any it had. -/
def LicenseRecord.sign (record : LicenseRecord) (key : Rsa.PrivateKey) :
    Except LicenseError LicenseRecord :=
  match key.sign (Verifier.signedDigest record) with
  | .ok signature => .ok { record with signature := some (Base64.text signature) }
  | .error cause => .error (.keyMaterial cause)

end ClusterLicense
