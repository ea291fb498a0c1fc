/-
  ClusterLicense/Rsa/Generation.lean
  ==================================
  **New key pairs.**

  The two factors are the first primes from two random numbers on, each of half
  the modulus's length and with its two highest bits set, so that their product
  has the full length.
-/
import ClusterLicense.Arithmetic.Primality
import ClusterLicense.CryptoError
import ClusterLicense.Rsa.Key

namespace ClusterLicense.Rsa

def factorBits : Nat := generatedBits / 2

def seedSize : Nat := factorBits / 8

def generatedExponent : Nat := 65537

/-- How many odd numbers are tried for a factor. -/
def searchLength : Nat := 20000

/-- The odd number that the search for a factor begins with. -/
def firstCandidate (seed : Bytes) : Nat :=
  let high := 3 <<< (factorBits - 2)
  let low := Bytes.toNat seed % (1 <<< (factorBits - 2))
  high + (low - low % 2) + 1

/-- The key pair that two random numbers lead to, if there is one. -/
def PrivateKey.ofSeeds? (seedP seedQ : Bytes) : Option PrivateKey := do
  let p ← Arithmetic.nextPrime? searchLength (firstCandidate seedP)
  let q ← Arithmetic.nextPrime? searchLength (firstCandidate seedQ)
  guard (p ≠ q)
  let exponent ← Arithmetic.inverse? generatedExponent ((p - 1) * (q - 1))
  let key : PrivateKey := ⟨⟨p * q, generatedExponent⟩, exponent, p, q⟩
  guard key.IsValid
  pure key

def PrivateKey.generate (seedP seedQ : Bytes) : Except CryptoError PrivateKey :=
  match PrivateKey.ofSeeds? seedP seedQ with
  | some key => .ok key
  | none => .error (.keyGeneration "no factors near the random numbers")

end ClusterLicense.Rsa
