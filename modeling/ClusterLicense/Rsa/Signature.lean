/-
  ClusterLicense/Rsa/Signature.lean
  =================================
  **Signatures**: the SHA-512 digest of a message in a block as long as the
  modulus, raised to the private exponent.

  The block is fixed by the message (`signedBlock?`), so a signature is checked
  by raising it to the public exponent and comparing whole blocks.  Before a
  signature is given away it is checked in the same way, since the factors of
  an imported key are not known to be prime.
-/
import ClusterLicense.Digest.Sha2
import ClusterLicense.Rsa.Encoding

namespace ClusterLicense.Rsa

/-- What precedes the digest in a block: the name of SHA-512 and the lengths around it. -/
def digestHeader : Bytes :=
  [0x30, 0x51, 0x30, 0x0D, 0x06, 0x09, 0x60, 0x86, 0x48, 0x01, 0x65, 0x03, 0x04, 0x02, 0x03,
    0x05, 0x00, 0x04, 0x40]

/-- The fewest octets of filling in a block. -/
def leastFilling : Nat := 8

/-- The block of `size` octets that is signed for a message; short moduli have no room for it. -/
def signedBlock? (size : Nat) (message : Bytes) : Option Bytes :=
  let body := digestHeader ++ Sha2.sha512 message
  if body.length + leastFilling + 3 ≤ size then
    some ([0x00, 0x01] ++ List.replicate (size - body.length - 3) 0xFF ++ [0x00] ++ body)
  else none

/-- A number raised to the private exponent: modulo each factor where these are coprime, and
otherwise directly. -/
def PrivateKey.apply (key : PrivateKey) (c : Nat) : Nat :=
  match key.coefficient? with
  | some coefficient =>
    let m₁ := Arithmetic.powMod c key.exponentP key.p
    let m₂ := Arithmetic.powMod c key.exponentQ key.q
    let difference := (((m₁ : Int) - m₂) % key.p).toNat
    m₂ + key.q * (difference * coefficient % key.p)
  | none => Arithmetic.powMod c key.exponent key.publicKey.modulus

def PublicKey.apply (key : PublicKey) (s : Nat) : Nat :=
  Arithmetic.powMod s key.exponent key.modulus

def PrivateKey.sign (key : PrivateKey) (message : Bytes) : Except CryptoError Bytes :=
  let size := key.publicKey.size
  match signedBlock? size message with
  | none => .error (.signing "signature error: message too long")
  | some block =>
    let c := Bytes.toNat block
    let s := key.apply c
    if key.publicKey.apply s = c then .ok (Bytes.ofNat size s)
    else .error (.signing "signature error: internal error")

/-- Whether the octets are a signature of the message. -/
def PublicKey.verify (key : PublicKey) (message signature : Bytes) : Bool :=
  let s := Bytes.toNat signature
  signature.length = key.size && s < key.modulus &&
    signedBlock? key.size message = some (Bytes.ofNat key.size (key.apply s))

end ClusterLicense.Rsa
