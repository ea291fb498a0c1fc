/-
  ClusterLicense/Rsa/Key.lean
  ===========================
  **The two halves of a licensing authority's key.**

  Nodes hold the public half only.  The private half keeps its two factors and
  its exponent as they were given; everything that speeds up signing is
  computed from them.
-/
import ClusterLicense.Arithmetic.Modular

namespace ClusterLicense.Rsa

/-- What a signature is checked with. -/
structure PublicKey where
  modulus : Nat
  exponent : Nat
  deriving DecidableEq

/-- What a signature is made with. -/
structure PrivateKey where
  publicKey : PublicKey
  /-- The exponent that undoes the public one. -/
  exponent : Nat
  /-- The first factor of the modulus. -/
  p : Nat
  /-- The second factor of the modulus. -/
  q : Nat
  deriving DecidableEq

def generatedBits : Nat := 2048

/-- How many bits the modulus of a public key may have. -/
def largestModulusBits : Nat := 4096

/-- How many octets the modulus takes, and so a signature. -/
def PublicKey.size (key : PublicKey) : Nat := (key.modulus.log2 + 8) / 8

/-- The numbers make a public key: both odd, the exponent within its bounds and below the
modulus. -/
def PublicKey.IsValid (key : PublicKey) : Prop :=
  key.modulus % 2 = 1 ∧ key.exponent < key.modulus ∧ key.exponent % 2 = 1 ∧
    2 ≤ key.exponent ∧ key.exponent < 1 <<< 33

instance (key : PublicKey) : Decidable key.IsValid := by
  unfold PublicKey.IsValid; infer_instance

/-- The numbers make a private key: the factors give the modulus and the exponents undo each
other modulo each factor less one.  That the factors are prime is not checked. -/
def PrivateKey.IsValid (key : PrivateKey) : Prop :=
  key.publicKey.IsValid ∧ 1 < key.p ∧ 1 < key.q ∧ key.p * key.q = key.publicKey.modulus ∧
    key.exponent * key.publicKey.exponent % (key.p - 1) = 1 ∧
    key.exponent * key.publicKey.exponent % (key.q - 1) = 1

instance (key : PrivateKey) : Decidable key.IsValid := by
  unfold PrivateKey.IsValid; infer_instance

/-- How a private key shows in diagnostics: never by its numbers. -/
def PrivateKey.redacted (key : PrivateKey) : String :=
  let numbers := s!"({key.publicKey.modulus}, {key.publicKey.exponent})"
  s!"KeyPair \x7b public: {numbers}, private: \"[REDACTED]\" \x7d"

/-! ### Precomputed numbers -/

def PrivateKey.exponentP (key : PrivateKey) : Nat := key.exponent % (key.p - 1)

def PrivateKey.exponentQ (key : PrivateKey) : Nat := key.exponent % (key.q - 1)

/-- The inverse of the second factor modulo the first; factors that are not coprime have none. -/
def PrivateKey.coefficient? (key : PrivateKey) : Option Nat := Arithmetic.inverse? key.q key.p

end ClusterLicense.Rsa
