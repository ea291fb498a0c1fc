/-
  ClusterLicense/CryptoError.lean
  ===============================
  **What can go wrong with keys, ciphertexts and signatures.**
-/
import ClusterLicense.Storage.File

namespace ClusterLicense

inductive CryptoError where
  /-- No new key pair could be made. -/
  | keyGeneration (detail : String)
  /-- A ciphertext is of no possible length, or ends in no padding. -/
  | decryption (detail : String)
  /-- A private key could not sign. -/
  | signing (detail : String)
  /-- A symmetric key has the wrong number of octets. -/
  | invalidKeyLength (expected actual : Nat)
  /-- Octets are no key, or a key has no octets. -/
  | keyEncoding (detail : String)
  /-- A key file could not be read or written. -/
  | io (cause : StorageError)
  deriving DecidableEq

def CryptoError.message : CryptoError → String
  | .keyGeneration detail => s!"key generation failed: {detail}"
  | .decryption detail => s!"decryption failed: {detail}"
  | .signing detail => s!"signing failed: {detail}"
  | .invalidKeyLength expected actual =>
    s!"invalid key length: expected {expected}, got {actual}"
  | .keyEncoding detail => s!"invalid key encoding: {detail}"
  | .io cause => s!"key file i/o failed: {cause.message}"

def CryptoError.chain (e : CryptoError) : List String :=
  match e with
  | .io cause => [e.message, cause.message]
  | _ => [e.message]

end ClusterLicense
