/-
  ClusterLicense/Rsa/KeyFile.lean
  ===============================
  **Keys in files**, one half in each, in the encodings of `Rsa.Encoding`.
-/
import ClusterLicense.Rsa.Encoding

namespace ClusterLicense.Rsa

variable {m : Type → Type} [Monad m] [Files m]

def loadHalf {α : Type} (decode : Bytes → Except CryptoError α) (name : String) :
    m (Except CryptoError α) := do
  match ← Files.read name with
  | .ok bytes => return decode bytes
  | .error cause => return .error (.io cause)

def PublicKey.load (name : String) : m (Except CryptoError PublicKey) :=
  loadHalf PublicKey.decode name

def PrivateKey.load (name : String) : m (Except CryptoError PrivateKey) :=
  loadHalf PrivateKey.decode name

def saveHalf (name : String) (half : Except CryptoError Bytes) : m (Except CryptoError Unit) := do
  match half with
  | .error e => return .error e
  | .ok bytes =>
    match ← Files.write name bytes with
    | .error cause => return .error (.io cause)
    | .ok () => return .ok ()

/-- Writes the public half to one file and then the private half to another; stops at the first
failure. -/
def PrivateKey.save (key : PrivateKey) (publicName privateName : String) :
    m (Except CryptoError Unit) := do
  match ← saveHalf publicName key.publicKey.document with
  | .error e => return .error e
  | .ok () => saveHalf privateName key.encode

end ClusterLicense.Rsa
