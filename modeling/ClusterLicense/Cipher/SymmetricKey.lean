/-
  ClusterLicense/Cipher/SymmetricKey.lean
  =======================================
  **The key that hides license payloads, and the cipher under it.**

  A key is sixteen octets, taken as they are from a passphrase.  A payload is
  padded to whole blocks and each block is enciphered on its own; the cipher
  keeps payloads from casual inspection and does not authenticate them.
-/
import ClusterLicense.Cipher.Aes
import ClusterLicense.Cipher.Padding
import ClusterLicense.CryptoError
import ClusterLicense.Text.Utf8

namespace ClusterLicense

/-- A key of sixteen octets. -/
structure SymmetricKey where
  block : Aes.Block
  deriving DecidableEq

namespace SymmetricKey

def size : Nat := 16

def blockSize : Nat := 16

/-- The passphrase that every node ships with. -/
def shippedPassphrase : String := "crate_passphrase"

def toBytes (key : SymmetricKey) : Bytes := key.block.toBytes

def ofBytes? (bytes : Bytes) : Option SymmetricKey :=
  match Aes.blocks bytes with
  | [block] => if bytes.length = size then some ⟨block⟩ else none
  | _ => none

def ofPassphrase (passphrase : String) : Except CryptoError SymmetricKey :=
  let bytes := Utf8.encode passphrase
  match ofBytes? bytes with
  | some key => .ok key
  | none => .error (.invalidKeyLength size bytes.length)

def shipped : SymmetricKey :=
  ⟨⟨⟨0x63, 0x72, 0x61, 0x74⟩, ⟨0x65, 0x5F, 0x70, 0x61⟩,
    ⟨0x73, 0x73, 0x70, 0x68⟩, ⟨0x72, 0x61, 0x73, 0x65⟩⟩⟩

theorem ofPassphrase_shipped : ofPassphrase shippedPassphrase = .ok shipped := by
  cbv

/-- How a key shows in diagnostics: never by its octets. -/
def redacted (_ : SymmetricKey) : String := "SymmetricKey \x7b bytes: \"[REDACTED]\" \x7d"

def encrypt (key : SymmetricKey) (payload : Bytes) : Bytes :=
  let keys := Aes.schedule key.block
  (Aes.blocks (Padding.add blockSize payload)).flatMap fun x => (keys.encipher x).toBytes

def decrypt (key : SymmetricKey) (ciphertext : Bytes) : Except CryptoError Bytes :=
  if ciphertext.isEmpty ∨ ciphertext.length % blockSize ≠ 0 then
    .error (.decryption
      s!"ciphertext length {ciphertext.length} is not a positive multiple of {blockSize}")
  else
    let keys := Aes.schedule key.block
    let plain := (Aes.blocks ciphertext).flatMap fun x => (keys.decipher x).toBytes
    match Padding.remove? blockSize plain with
    | some payload => .ok payload
    | none => .error (.decryption "bad padding (wrong key or tampered data)")

end SymmetricKey

end ClusterLicense
