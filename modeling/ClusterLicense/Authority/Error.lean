/-
  ClusterLicense/Authority/Error.lean
  ===================================
  **What can go wrong when licenses are issued or inspected**, with the chain of
  causes that an operator is shown.
-/
import ClusterLicense.License.Error
import ClusterLicense.Text.Quoted

namespace ClusterLicense

inductive AuthorityError where
  | passphrase (cause : CryptoError)
  | expirationOutOfRange
  | keyGeneration (cause : CryptoError)
  | keyFiles (cause : CryptoError)
  | privateKeyFile (name : String) (cause : CryptoError)
  | publicKeyFile (name : String) (cause : LicenseError)
  | bundledKey (cause : LicenseError)
  | signing (cause : LicenseError)
  | encoding (cause : LicenseError)
  /-- A license that has just been issued is not valid. -/
  | rejected (cause : LicenseError)
  | notBase64 (cause : LicenseError)
  | malformed (cause : LicenseError)
  | undecryptable (cause : LicenseError)
  /-- A failure of licensing that needs no further explanation. -/
  | license (cause : LicenseError)
  deriving DecidableEq

namespace AuthorityError

def chain : AuthorityError → List String
  | .passphrase cause => "Invalid passphrase" :: cause.chain
  | .expirationOutOfRange => ["Expiration out of range"]
  | .keyGeneration cause => "Failed to generate key pair" :: cause.chain
  | .keyFiles cause => "Failed to write key files" :: cause.chain
  | .privateKeyFile name cause =>
    ("Failed to read private key " ++ Text.quote name) :: cause.chain
  | .publicKeyFile name cause =>
    ("Failed to load public key " ++ Text.quote name) :: cause.chain
  | .bundledKey cause => "Failed to load bundled public key" :: cause.chain
  | .signing cause => "Failed to sign license" :: cause.chain
  | .encoding cause => "Failed to encode license" :: cause.chain
  | .rejected cause => [s!"Issued license does not verify: {cause.message}"]
  | .notBase64 cause => "License key is not valid base64" :: cause.chain
  | .malformed cause => "Malformed license key" :: cause.chain
  | .undecryptable cause => "Unable to decrypt license" :: cause.chain
  | .license cause => cause.chain

def message (e : AuthorityError) : String := e.chain.headD ""

end AuthorityError

end ClusterLicense
