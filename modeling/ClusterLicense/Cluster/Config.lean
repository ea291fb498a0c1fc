/-
  ClusterLicense/Cluster/Config.lean
  ==================================
  **A node's licensing configuration.**

  In JSON every field may be left out and then keeps its default, also inside
  the thresholds.  A configuration that is read is checked; one that is put
  together in memory is checked when a verifier is built from it.
-/
import ClusterLicense.Cluster.Error
import ClusterLicense.License.Verifier

namespace ClusterLicense

/-- How long before its expiration a license is worth a warning, in milliseconds. -/
structure ExpiryThresholds where
  moderate : Int64
  severe : Int64
  deriving DecidableEq

namespace ExpiryThresholds

/-- Fifteen days and one day. -/
def default : ExpiryThresholds := ⟨1296000000, 86400000⟩

/-- The severe threshold is not below zero and not above the moderate one. -/
def IsValid (thresholds : ExpiryThresholds) : Prop :=
  0 ≤ thresholds.severe ∧ thresholds.severe ≤ thresholds.moderate

instance (thresholds : ExpiryThresholds) : Decidable thresholds.IsValid := by
  unfold IsValid; infer_instance

def moderateMember : String := "moderate_ms"

def severeMember : String := "severe_ms"

def json (thresholds : ExpiryThresholds) : Json.Value :=
  .object [(moderateMember, .integer thresholds.moderate.toInt),
    (severeMember, .integer thresholds.severe.toInt)]

structure Draft where
  moderate : Option Int64
  severe : Option Int64

/-- How thresholds are read: what is missing has its default. -/
def form : Json.Form Draft ExpiryThresholds where
  name := "ExpiryThresholds"
  fields := [
    { name := moderateMember
      isFilled := (·.moderate.isSome)
      read := do
        let moderate ← Json.int64
        return fun draft => { draft with moderate := some moderate }
      absent := some id },
    { name := severeMember
      isFilled := (·.severe.isSome)
      read := do
        let severe ← Json.int64
        return fun draft => { draft with severe := some severe }
      absent := some id }]
  refusesOthers := false
  blank := ⟨none, none⟩
  finish := fun draft =>
    .ok ⟨draft.moderate.getD default.moderate, draft.severe.getD default.severe⟩

end ExpiryThresholds

structure LicensingConfig where
  /-- The octets of the symmetric key, as a text. -/
  passphrase : String
  /-- The file with the authority's public key, in place of the bundled one. -/
  publicKeyPath : Option String
  expiry : ExpiryThresholds
  deriving DecidableEq

namespace LicensingConfig

/-- The configuration of a node that is told nothing. -/
def default : LicensingConfig := ⟨SymmetricKey.shippedPassphrase, none, .default⟩

/-! ### JSON -/

def passphraseMember : String := "passphrase"

def publicKeyPathMember : String := "public_key_path"

def expiryMember : String := "expiry"

def json (config : LicensingConfig) : Json.Value :=
  .object [(passphraseMember, .string config.passphrase),
    (publicKeyPathMember, .ofOption config.publicKeyPath),
    (expiryMember, config.expiry.json)]

structure Draft where
  passphrase : Option String
  /-- The file, once its member has been read; the member may be null. -/
  publicKeyPath : Option (Option String)
  expiry : Option ExpiryThresholds

/-- How a configuration is read: what is missing has its default. -/
def form : Json.Form Draft LicensingConfig where
  name := "LicensingConfig"
  fields := [
    { name := passphraseMember
      isFilled := (·.passphrase.isSome)
      read := do
        let passphrase ← Json.text "a string"
        return fun draft => { draft with passphrase := some passphrase }
      absent := some id },
    { name := publicKeyPathMember
      isFilled := (·.publicKeyPath.isSome)
      read := do
        let path ← Json.optional (Json.text "path string")
        return fun draft => { draft with publicKeyPath := some path }
      absent := some id },
    { name := expiryMember
      isFilled := (·.expiry.isSome)
      read := do
        let expiry ← ExpiryThresholds.form.read
        return fun draft => { draft with expiry := some expiry }
      absent := some id }]
  refusesOthers := false
  blank := ⟨none, none, none⟩
  finish := fun draft =>
    .ok ⟨draft.passphrase.getD default.passphrase,
      draft.publicKeyPath.getD default.publicKeyPath,
      draft.expiry.getD default.expiry⟩

/-! ### Checking -/

/-- Passes if the passphrase makes a key and the thresholds are in order. -/
def validate (config : LicensingConfig) : Except ClusterError Unit :=
  let length := (Utf8.encode config.passphrase).length
  let moderate := config.expiry.moderate
  let severe := config.expiry.severe
  if length ≠ SymmetricKey.size then
    .error (.config s!"passphrase must be {SymmetricKey.size} bytes, got {length}")
  else if ¬ config.expiry.IsValid then
    .error (.config
      s!"expiry thresholds must satisfy 0 <= severe ({severe}) <= moderate ({moderate})")
  else .ok ()

def ofJson (text : String) : Except ClusterError LicensingConfig := do
  let input := Utf8.encode text
  match form.read.whole input with
  | .error fault => throw (.serialization (fault.message input))
  | .ok config =>
    config.validate
    pure config

def load {m : Type → Type} [Monad m] [Files m] (name : String) :
    m (Except ClusterError LicensingConfig) := do
  match ← Files.read name with
  | .error cause => return .error (.io cause)
  | .ok bytes =>
    match Utf8.decode bytes with
    | .error _ => return .error (.io .notText)
    | .ok text => return ofJson text

/-! ### Using -/

def symmetricKey (config : LicensingConfig) : Except ClusterError SymmetricKey :=
  match SymmetricKey.ofPassphrase config.passphrase with
  | .ok key => .ok key
  | .error cause => .error (.config cause.message)

def buildVerifier {m : Type → Type} [Monad m] [Files m] (config : LicensingConfig) :
    m (Except ClusterError Verifier) := do
  match config.validate >>= fun _ => config.symmetricKey with
  | .error e => return .error e
  | .ok key =>
    let verifier ← match config.publicKeyPath with
      | some name => Verifier.withKeyFile key name
      | none => pure (Verifier.withBundledKey key)
    return match verifier with
      | .ok verifier => .ok verifier
      | .error cause => .error (.license cause)

end LicensingConfig

end ClusterLicense
