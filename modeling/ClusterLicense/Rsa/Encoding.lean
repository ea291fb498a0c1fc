/-
  ClusterLicense/Rsa/Encoding.lean
  ================================
  **Keys as octets**: public keys as SubjectPublicKeyInfo, private keys as
  PKCS #8.

  Both wrap the numbers of a key in a structure that names the algorithm.  The
  name has one encoding, `algorithm`, so reading compares octets instead of
  taking the name apart.  What does not decide the key is read and not kept: the
  numbers that only speed up signing, a copy of the public key, extensions.

  Keys that would take too many octets are neither read nor written.
-/
import ClusterLicense.CryptoError
import ClusterLicense.Der.Element
import ClusterLicense.Rsa.Key

namespace ClusterLicense.Rsa

open Der

/-- The content of the algorithm identifier: the object identifier of RSA, and no parameters. -/
def algorithm : Bytes :=
  [0x06, 0x09, 0x2A, 0x86, 0x48, 0x86, 0xF7, 0x0D, 0x01, 0x01, 0x01, 0x05, 0x00]

def algorithm? (bytes : Bytes) : Option Bytes := do
  let (content, rest) ← content? sequenceTag bytes
  guard (content = algorithm)
  pure rest

/-- The most octets that a key is read from or written as. -/
def largestDocument : Nat := 0xFFFFFFF

/-- Octets, unless they are too many to be handed on. -/
def document? (bytes : Bytes) : Option Bytes :=
  if bytes.length ≤ largestDocument then some bytes else none

/-! ### Public keys -/

def PublicKey.numbers (key : PublicKey) : Bytes :=
  Der.encode sequenceTag (encodeUnsigned key.modulus ++ encodeUnsigned key.exponent)

def PublicKey.encode (key : PublicKey) : Bytes :=
  Der.encode sequenceTag (Der.encode sequenceTag algorithm ++ encodeBitString key.numbers)

/-- The octets that a public key is handed on as. -/
def PublicKey.document (key : PublicKey) : Except CryptoError Bytes :=
  match document? key.encode with
  | some bytes => .ok bytes
  | none => .error (.keyEncoding "the key is too long")

/-- The key with the given numbers and nothing after them. -/
def PublicKey.ofNumbers? (bytes : Bytes) : Option PublicKey := do
  let content ← only? sequenceTag bytes
  let (modulus, rest) ← unsigned? content
  let (exponent, rest) ← unsigned? rest
  guard rest.isEmpty
  let key : PublicKey := ⟨modulus, exponent⟩
  guard (key.IsValid ∧ modulus < 1 <<< largestModulusBits)
  pure key

def PublicKey.decode? (bytes : Bytes) : Option PublicKey := do
  let content ← only? sequenceTag (← document? bytes)
  let rest ← algorithm? content
  let bits ← only? bitStringTag rest
  PublicKey.ofNumbers? (← wholeOctets? bits)

def PublicKey.decode (bytes : Bytes) : Except CryptoError PublicKey :=
  match PublicKey.decode? bytes with
  | some key => .ok key
  | none => .error (.keyEncoding "not a public key")

/-! ### Private keys -/

/-- The version of private keys with two factors, and of the wrapping without a public key. -/
def firstVersion : Nat := 0

/-- The version of the wrapping that brings a copy of the public key. -/
def versionWithPublicKey : Nat := 1

def publicKeyTag : UInt8 := 0x81

/-- The numbers of a private key; those that only speed up signing are computed anew. -/
def PrivateKey.numbers (key : PrivateKey) (coefficient : Nat) : Bytes :=
  Der.encode sequenceTag
    ([firstVersion, key.publicKey.modulus, key.publicKey.exponent, key.exponent, key.p, key.q,
      key.exponentP, key.exponentQ, coefficient].flatMap encodeUnsigned)

def PrivateKey.wrap (key : PrivateKey) (coefficient : Nat) : Bytes :=
  Der.encode sequenceTag
    (encodeUnsigned firstVersion ++ Der.encode sequenceTag algorithm ++
      Der.encode octetStringTag (key.numbers coefficient))

/-- The octets of a private key; a key whose factors have a common divisor has none. -/
def PrivateKey.encode? (key : PrivateKey) : Option Bytes := do
  let coefficient ← key.coefficient?
  document? (key.wrap coefficient)

def PrivateKey.encode (key : PrivateKey) : Except CryptoError Bytes :=
  match key.encode? with
  | some bytes => .ok bytes
  | none => .error (.keyEncoding "the factors are not coprime, or the key is too long")

def PrivateKey.ofNumbers? (bytes : Bytes) : Option PrivateKey := do
  let content ← only? sequenceTag bytes
  let (version, rest) ← unsigned? content
  let (modulus, rest) ← unsigned? rest
  let (publicExponent, rest) ← unsigned? rest
  let (exponent, rest) ← unsigned? rest
  let (p, rest) ← unsigned? rest
  let (q, rest) ← unsigned? rest
  let (_, rest) ← unsigned? rest
  let (_, rest) ← unsigned? rest
  let (_, rest) ← unsigned? rest
  guard (version = firstVersion ∧ rest.isEmpty)
  let key : PrivateKey := ⟨⟨modulus, publicExponent⟩, exponent, p, q⟩
  guard key.IsValid
  pure key

/-- Elements before the copy of the public key, whose tags have smaller numbers, are passed
over; `fuel` bounds their number by the octets they take. -/
def skipAttributes : (fuel : Nat) → Bytes → Option Bytes
  | 0, bytes => some bytes
  | _, [] => some []
  | fuel + 1, tag :: rest =>
    if isTag tag then
      if isContextSpecific tag && tagNumber tag < tagNumber publicKeyTag then do
        let (_, rest) ← element? (tag :: rest)
        skipAttributes fuel rest
      else some (tag :: rest)
    else none

/-- Whether a copy of the public key stands at the front, and what follows it. -/
def publicKeyCopy? (bytes : Bytes) : Option (Bool × Bytes) := do
  match bytes with
  | [] => pure (false, [])
  | tag :: _ =>
    if isContextSpecific tag && tagNumber tag = tagNumber publicKeyTag then
      let (content, rest) ← content? publicKeyTag bytes
      let _ ← wholeOctets? content
      pure (true, rest)
    else pure (false, bytes)

/-- Whether the octets are extensions: each one element inside a tag of the context; `fuel`
bounds their number by the octets they take. -/
def areExtensions : (fuel : Nat) → Bytes → Bool
  | _, [] => true
  | 0, _ => false
  | fuel + 1, bytes =>
    match element? bytes with
    | none => false
    | some (e, rest) =>
      isContextSpecific e.tag && e.tag &&& 0x20 != 0 &&
        (match element? e.content with
          | some (_, []) => true
          | _ => false) &&
        areExtensions fuel rest

def PrivateKey.decode? (bytes : Bytes) : Option PrivateKey := do
  let content ← only? sequenceTag (← document? bytes)
  let (version, rest) ← unsigned? content
  let rest ← algorithm? rest
  let (numbers, rest) ← content? octetStringTag rest
  let rest ← skipAttributes rest.length rest
  let (hasPublicKey, rest) ← publicKeyCopy? rest
  guard (version = if hasPublicKey then versionWithPublicKey else firstVersion)
  guard (areExtensions rest.length rest)
  PrivateKey.ofNumbers? numbers

def PrivateKey.decode (bytes : Bytes) : Except CryptoError PrivateKey :=
  match PrivateKey.decode? bytes with
  | some key => .ok key
  | none => .error (.keyEncoding "not a private key")

end ClusterLicense.Rsa
