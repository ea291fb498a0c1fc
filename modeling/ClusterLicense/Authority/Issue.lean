/-
  ClusterLicense/Authority/Issue.lean
  ===================================
  **Issuing licenses** with the authority's private key.

  A license that has been issued is checked at once with the public half of the
  key, so that none leaves the authority that a node would refuse.
-/
import ClusterLicense.Authority.Error
import ClusterLicense.License.Verifier

namespace ClusterLicense.Authority

/-- The symmetric key of a passphrase, or the shipped one. -/
def symmetricKey : Option String → Except AuthorityError SymmetricKey
  | none => .ok .shipped
  | some passphrase =>
    match SymmetricKey.ofPassphrase passphrase with
    | .ok key => .ok key
    | .error cause => .error (.passphrase cause)

def millisPerDay : Int := 86400000

def expirationInDays (now : Int64) (days : UInt32) : Except AuthorityError Int64 :=
  let instant := now.toInt + days.toNat * millisPerDay
  if instant ≤ Int64.maxValue.toInt then .ok (Int64.ofInt instant)
  else .error .expirationOutOfRange

def issueWith (symmetricKey : SymmetricKey) (key : Rsa.PrivateKey) (issuedTo : String)
    (expiration now : Int64) : Except AuthorityError LicenseKey :=
  match (LicenseRecord.mk expiration issuedTo none).sign key with
  | .error cause => .error (.signing cause)
  | .ok record =>
    let verifier : Verifier := ⟨symmetricKey, key.publicKey⟩
    match verifier.createKey .enterprise LicenseKey.currentVersion record with
    | .error cause => .error (.encoding cause)
    | .ok license =>
      match verifier.check license now with
      | .error cause => .error (.rejected cause)
      | .ok _ => .ok license

variable {m : Type → Type} [Monad m] [Files m]

def issue (symmetricKey : SymmetricKey) (privateKeyName issuedTo : String)
    (expiration now : Int64) : m (Except AuthorityError LicenseKey) := do
  match ← Rsa.PrivateKey.load privateKeyName with
  | .error cause => return .error (.privateKeyFile privateKeyName cause)
  | .ok key => return issueWith symmetricKey key issuedTo expiration now

def selfGenerated (symmetricKey : SymmetricKey) (issuedTo : String) :
    Except AuthorityError LicenseKey :=
  let license := do
    let verifier ← Verifier.withBundledKey symmetricKey
    verifier.createKey .selfGenerated LicenseKey.currentVersion (.selfGenerated issuedTo)
  match license with
  | .ok key => .ok key
  | .error cause => .error (.license cause)

def saveKeys (pair : Except CryptoError Rsa.PrivateKey) (publicName privateName : String) :
    m (Except AuthorityError Unit) := do
  match pair with
  | .error cause => return .error (.keyGeneration cause)
  | .ok key =>
    match ← key.save publicName privateName with
    | .error cause => return .error (.keyFiles cause)
    | .ok () => return .ok ()

/-- The verifier that trusts the public key in a file, or the bundled one. -/
def loadVerifier (symmetricKey : SymmetricKey) (publicKeyName : Option String) :
    m (Except AuthorityError Verifier) := do
  match publicKeyName with
  | some name =>
    match ← Verifier.withKeyFile symmetricKey name with
    | .ok verifier => return .ok verifier
    | .error cause => return .error (.publicKeyFile name cause)
  | none =>
    match Verifier.withBundledKey symmetricKey with
    | .ok verifier => return .ok verifier
    | .error cause => return .error (.bundledKey cause)

end ClusterLicense.Authority
