/-
  ClusterLicense/Proofs/Rsa/Encoding.lean
  =======================================
  **Keys survive being written and read.**

  A public key has one encoding, and reading accepts nothing else
  (`PublicKey.decode_eq_ok_iff`).  A private key is read from many: its numbers for fast
  signing may be any, and a copy of the public key and extensions may follow.  Writing
  computes those numbers anew and leaves the rest out, and what is written reads as the
  key it was written from (`PrivateKey.decode_encode`), so writing settles after one turn.
-/
import ClusterLicense.Proofs.Arithmetic.Inverse
import ClusterLicense.Proofs.Der.Element
import ClusterLicense.Proofs.Outcome
import ClusterLicense.Proofs.Rsa.Signing

namespace ClusterLicense.Rsa

open Der

variable {bytes rest out : Bytes}

/-! ### Documents -/

theorem document?_eq_some_iff :
    document? bytes = some out ↔ bytes.length ≤ largestDocument ∧ out = bytes := by
  by_cases h : bytes.length ≤ largestDocument
  · simp [document?, h, eq_comm]
  · simp [document?, h]

theorem hasLength_of_le (h : bytes.length ≤ largestDocument) : HasLength bytes := by
  rw [largestDocument] at h
  rw [HasLength]
  omega

/-! ### The name of the algorithm -/

/-- Reading the name of the algorithm takes exactly its one encoding off the front.  The parameters
have to be the null that is always written, so there is no second way to name it. -/
theorem algorithm?_sound (h : algorithm? bytes = some rest) :
    bytes = Der.encode sequenceTag algorithm ++ rest := by
  simp only [algorithm?, Option.bind_eq_bind, Option.bind_eq_some_iff, Option.guard_eq_some',
    Option.pure_def, Option.some.injEq, Prod.exists] at h
  obtain ⟨content, after, hcontent, _, rfl, rfl⟩ := h
  exact content?_sound hcontent

theorem algorithm?_append (rest : Bytes) :
    algorithm? (Der.encode sequenceTag algorithm ++ rest) = some rest := by
  have hlength : HasLength algorithm := by
    rw [HasLength]
    decide
  rw [algorithm?, content?_append rfl hlength]
  rfl

/-! ### Public keys -/

section PublicKeys

variable {key : PublicKey}

/-- What reads as the two numbers of a public key is what these numbers are written as.  The checks
on size, exponent and modulus are made here, so whatever is read is valid and not too long. -/
theorem PublicKey.ofNumbers?_sound (h : ofNumbers? bytes = some key) :
    (key.IsValid ∧ key.modulus < 1 <<< largestModulusBits) ∧ bytes = key.numbers := by
  simp only [ofNumbers?, Option.bind_eq_bind, Option.bind_eq_some_iff, Option.guard_eq_some',
    Option.pure_def, Option.some.injEq, Prod.exists, List.isEmpty_iff] at h
  obtain ⟨content, hcontent, modulus, after, hmodulus, exponent, _, hexponent, _, rfl, _,
    hvalid, rfl⟩ := h
  refine ⟨hvalid, ?_⟩
  rw [only?_sound hcontent, unsigned?_sound hmodulus, unsigned?_sound hexponent, List.append_nil]
  rfl

/-- Conversely the numbers of a key read back, unless the key fails one of the checks of reading;
writing makes none of them, which is why this is an `if` and no equation with `some`. -/
theorem PublicKey.ofNumbers?_numbers (hlength : HasLength key.numbers) :
    ofNumbers? key.numbers =
      if key.IsValid ∧ key.modulus < 1 <<< largestModulusBits then some key else none := by
  obtain ⟨modulus, exponent⟩ := key
  have hcontent := hlength.inside
  have hexponent := unsigned?_append hcontent.right.inside []
  rw [List.append_nil] at hexponent
  rw [numbers, ofNumbers?, only?_encode rfl hcontent]
  simp only [Option.bind_eq_bind, Option.bind_some, unsigned?_append hcontent.left.inside,
    hexponent, guard, List.isEmpty_nil, if_true, Option.pure_def]
  split <;> rfl

theorem PublicKey.document_eq_ok_iff :
    key.document = .ok bytes ↔ key.encode.length ≤ largestDocument ∧ bytes = key.encode := by
  rw [document, ← document?_eq_some_iff]
  cases document? key.encode with
  | none => simp
  | some found => simp

/-- A public key file is the encoding of the key that is read from it, octet by octet.  Each layer
is taken off by a reader that accepts nothing but what its writer gives. -/
theorem PublicKey.decode?_sound (h : decode? bytes = some key) :
    (key.IsValid ∧ key.modulus < 1 <<< largestModulusBits) ∧
      key.encode.length ≤ largestDocument ∧ bytes = key.encode := by
  simp only [decode?, Option.bind_eq_bind, Option.bind_eq_some_iff] at h
  obtain ⟨_, hdocument, content, hcontent, _, halgorithm, bits, hbits, octets, hoctets, h⟩ := h
  obtain ⟨hshort, rfl⟩ := document?_eq_some_iff.mp hdocument
  obtain rfl := only?_sound hcontent
  obtain rfl := algorithm?_sound halgorithm
  obtain rfl := only?_sound hbits
  obtain rfl := wholeOctets?_eq_some_iff.mp hoctets
  obtain ⟨hvalid, rfl⟩ := ofNumbers?_sound h
  exact ⟨hvalid, hshort, rfl⟩

/-- What a public key is written as, as long as its outermost length can be written, reads as the
key if reading lets the key through. -/
theorem PublicKey.decode?_encode (hshort : key.encode.length ≤ largestDocument) :
    decode? key.encode =
      if key.IsValid ∧ key.modulus < 1 <<< largestModulusBits then some key else none := by
  have hcontent := (hasLength_of_le hshort).inside
  have hwhole : only? sequenceTag key.encode = some _ := only?_encode rfl hcontent
  have hbits : only? bitStringTag (encodeBitString key.numbers) = some (0 :: key.numbers) :=
    only?_encode rfl hcontent.right.inside
  have hdocument := document?_eq_some_iff.mpr ⟨hshort, rfl⟩
  rw [← ofNumbers?_numbers hcontent.right.inside.tail, decode?]
  simp only [hdocument, hwhole, algorithm?_append, hbits, wholeOctets?, Option.bind_eq_bind,
    Option.bind_some]

/-- What a public key is written as reads as the key, if it may be read at all: the numbers have to
make a public key, and the modulus must not have more than 4096 bits. -/
theorem PublicKey.decode_document (h : key.document = .ok bytes) :
    decode bytes = if key.IsValid ∧ key.modulus < 1 <<< largestModulusBits then .ok key
      else .error (.keyEncoding "not a public key") := by
  obtain ⟨hshort, rfl⟩ := document_eq_ok_iff.mp h
  rw [decode, decode?_encode hshort]
  by_cases hvalid : key.IsValid ∧ key.modulus < 1 <<< largestModulusBits
  · rw [if_pos hvalid, if_pos hvalid]
  · rw [if_neg hvalid, if_neg hvalid]

/-- Exactly the encodings of valid keys that are not too long can be read, and each as the key that
it encodes.  So a public key has one file, and two files that are read as one key are the same. -/
theorem PublicKey.decode_eq_ok_iff :
    decode bytes = .ok key ↔
      (key.IsValid ∧ key.modulus < 1 <<< largestModulusBits) ∧ key.document = .ok bytes := by
  constructor
  · intro h
    rw [decode] at h
    split at h
    · rename_i found hfound
      obtain rfl := Except.ok.inj h
      obtain ⟨hvalid, hencode⟩ := decode?_sound hfound
      exact ⟨hvalid, document_eq_ok_iff.mpr hencode⟩
    · cases h
  · rintro ⟨hvalid, hdocument⟩
    rw [decode_document hdocument, if_pos hvalid]

end PublicKeys

/-! ### Private keys -/

section PrivateKeys

variable {key : PrivateKey} {coefficient : Nat}

/-- The numbers of a private key read back whatever stands where the coefficient goes: reading does
not look at the numbers that are there to speed up signing. -/
theorem PrivateKey.ofNumbers?_numbers (hvalid : key.IsValid)
    (hlength : HasLength (key.numbers coefficient)) :
    ofNumbers? (key.numbers coefficient) = some key := by
  have hcontent := hlength.inside
  have hwhole : only? sequenceTag (key.numbers coefficient) = some _ := only?_encode rfl hcontent
  rw [ofNumbers?, hwhole]
  simp only [List.flatMap_cons, List.flatMap_nil] at hcontent ⊢
  simp only [Option.bind_eq_bind, Option.bind_some]
  -- Each number is read off the front, and those that follow it are left.
  iterate 9
    rw [unsigned?_append hcontent.left.inside, Option.bind_some]
    replace hcontent := hcontent.right
  rw [guard, if_pos ⟨rfl, rfl⟩, guard, if_pos hvalid]
  rfl

theorem PrivateKey.decode?_wrap (hvalid : key.IsValid)
    (hshort : (key.wrap coefficient).length ≤ largestDocument) :
    decode? (key.wrap coefficient) = some key := by
  have hcontent := (hasLength_of_le hshort).inside
  have hwhole : only? sequenceTag (key.wrap coefficient) = some _ := only?_encode rfl hcontent
  rw [List.append_assoc] at hwhole hcontent
  have hversion := unsigned?_append hcontent.left.inside
    (Der.encode sequenceTag algorithm ++ Der.encode octetStringTag (key.numbers coefficient))
  have hnumbers : content? octetStringTag (_ ++ []) = some _ :=
    content?_append rfl hcontent.right.right.inside []
  rw [List.append_nil] at hnumbers
  rw [decode?, document?_eq_some_iff.mpr ⟨hshort, rfl⟩]
  simp [hwhole, hversion, algorithm?_append, hnumbers, skipAttributes, publicKeyCopy?,
    areExtensions, ofNumbers?_numbers hvalid hcontent.right.right.inside]

/-- Writing fails for two reasons only: the factors have a common divisor, so that there is no
coefficient, or the document is too long for the length of its outermost element. -/
theorem PrivateKey.encode_eq_ok_iff :
    key.encode = .ok out ↔ ∃ coefficient, key.coefficient? = some coefficient ∧
      (key.wrap coefficient).length ≤ largestDocument ∧ out = key.wrap coefficient := by
  rw [encode, encode?]
  cases key.coefficient? with
  | none => simp
  | some coefficient =>
    simp only [Option.bind_eq_bind, Option.bind_some, Option.some.injEq, exists_eq_left',
      ← document?_eq_some_iff]
    cases document? (key.wrap coefficient) with
    | none => simp
    | some found => simp

theorem PrivateKey.decode_wrap (hvalid : key.IsValid)
    (hshort : (key.wrap coefficient).length ≤ largestDocument) :
    decode (key.wrap coefficient) = .ok key := by
  rw [decode, decode?_wrap hvalid hshort]

/-- A valid key that can be written reads back as itself.  Nothing is asked of the size of the
modulus, since only the import of public keys has a limit on it. -/
theorem PrivateKey.decode_encode (hvalid : key.IsValid) (h : key.encode = .ok out) :
    decode out = .ok key := by
  obtain ⟨coefficient, -, hshort, rfl⟩ := encode_eq_ok_iff.mp h
  exact decode_wrap hvalid hshort

/-- The number that is written with a valid key, and the only one that could be: the inverse of the
second factor modulo the first. -/
theorem PrivateKey.coefficient?_eq_some_iff (hvalid : key.IsValid) :
    key.coefficient? = some coefficient ↔
      coefficient < key.p ∧ coefficient * key.q ≡ 1 [MOD key.p] := by
  obtain ⟨-, hp, -⟩ := hvalid
  exact Arithmetic.inverse?_eq_some_iff (by omega)

/-- Only a key whose factors have no common divisor can be written. -/
theorem PrivateKey.coprime_of_encode (h : key.encode = .ok out) : key.q.Coprime key.p := by
  obtain ⟨coefficient, hcoefficient, -⟩ := encode_eq_ok_iff.mp h
  exact Arithmetic.exists_inverse?_iff.mp ⟨coefficient, hcoefficient⟩

end PrivateKeys

/-! ### Reading and writing in turn -/

/-- **Reading and writing settle at once.**  Exactly what a valid public key is written as is read
as that key.  A valid private key is read whatever number stands for its coefficient, and is written
with the only one that is an inverse.  What it is written as reads as a key with the same numbers and
the same public half, and is written as the same octets again. -/
theorem import_export_stable (bytes : Bytes) :
    (∀ key, PublicKey.decode bytes = .ok key ↔
      (key.IsValid ∧ key.modulus < 1 <<< largestModulusBits) ∧ key.document = .ok bytes) ∧
    (∀ key coefficient, PrivateKey.IsValid key → bytes = key.wrap coefficient →
      bytes.length ≤ largestDocument → PrivateKey.decode bytes = .ok key) ∧
    ∀ key, PrivateKey.decode bytes = .ok key → ∀ out,
      (key.encode = .ok out ↔ ∃ coefficient,
        (coefficient < key.p ∧ coefficient * key.q ≡ 1 [MOD key.p]) ∧
          (key.wrap coefficient).length ≤ largestDocument ∧ out = key.wrap coefficient) ∧
      (key.encode = .ok out → ∃ again, PrivateKey.decode out = .ok again ∧
        again.publicKey = key.publicKey ∧ again.exponent = key.exponent ∧
        again.p = key.p ∧ again.q = key.q ∧ again.encode = .ok out) := by
  refine ⟨fun key => PublicKey.decode_eq_ok_iff, ?_, ?_⟩
  · rintro key coefficient hvalid rfl hshort
    exact PrivateKey.decode_wrap hvalid hshort
  · intro key hdecode out
    have hvalid := PrivateKey.isValid_of_decode hdecode
    constructor
    · simp only [PrivateKey.encode_eq_ok_iff, PrivateKey.coefficient?_eq_some_iff hvalid]
    · intro hencode
      exact ⟨key, PrivateKey.decode_encode hvalid hencode, rfl, rfl, rfl, rfl, hencode⟩

def smallKey : PrivateKey := ⟨⟨33, 3⟩, 7, 3, 11⟩

def smallPublicFile : Bytes :=
  [0x30, 0x1A, 0x30, 0x0D, 0x06, 0x09, 0x2A, 0x86, 0x48, 0x86, 0xF7, 0x0D, 0x01, 0x01, 0x01, 0x05,
    0x00, 0x03, 0x09, 0x00, 0x30, 0x06, 0x02, 0x01, 0x21, 0x02, 0x01, 0x03]

/-- The small key, with zeros for the numbers that speed up signing, another key's public half,
and an extension after it. -/
def foreignPrivateFile : Bytes :=
  [0x30, 0x39, 0x02, 0x01, 0x01, 0x30, 0x0D, 0x06, 0x09, 0x2A, 0x86, 0x48, 0x86, 0xF7, 0x0D, 0x01,
    0x01, 0x01, 0x05, 0x00, 0x04, 0x1D, 0x30, 0x1B, 0x02, 0x01, 0x00, 0x02, 0x01, 0x21, 0x02, 0x01,
    0x03, 0x02, 0x01, 0x07, 0x02, 0x01, 0x03, 0x02, 0x01, 0x0B, 0x02, 0x01, 0x00, 0x02, 0x01, 0x00,
    0x02, 0x01, 0x00, 0x81, 0x02, 0x00, 0x05, 0xA2, 0x02, 0x05, 0x00]

theorem smallKey_isValid : smallKey.IsValid := by
  decide

theorem smallKey_coefficient : smallKey.coefficient? = some 2 :=
  (PrivateKey.coefficient?_eq_some_iff smallKey_isValid).mpr ⟨by decide, by decide⟩

theorem smallKey_encode : smallKey.encode = .ok (smallKey.wrap 2) :=
  PrivateKey.encode_eq_ok_iff.mpr ⟨2, smallKey_coefficient, by decide, rfl⟩

theorem decode_smallPublicFile : PublicKey.decode smallPublicFile = .ok smallKey.publicKey := by
  decide +kernel

theorem decode_foreignPrivateFile : PrivateKey.decode foreignPrivateFile = .ok smallKey := by
  decide +kernel

theorem import_export_stable_smallKey :
    (∃ key, PublicKey.decode smallPublicFile = .ok key ∧ key.document = .ok smallPublicFile) ∧
      PrivateKey.decode (smallKey.wrap 0) = .ok smallKey ∧
      PrivateKey.decode foreignPrivateFile = .ok smallKey ∧
      ∃ again, PrivateKey.decode (smallKey.wrap 2) = .ok again ∧
        again.publicKey = smallKey.publicKey ∧ again.exponent = smallKey.exponent ∧
        again.p = smallKey.p ∧ again.q = smallKey.q ∧ again.encode = .ok (smallKey.wrap 2) := by
  obtain ⟨hpublic, -, -⟩ := import_export_stable smallPublicFile
  obtain ⟨-, hread, -⟩ := import_export_stable (smallKey.wrap 0)
  obtain ⟨-, -, hprivate⟩ := import_export_stable foreignPrivateFile
  refine ⟨⟨_, decode_smallPublicFile, ((hpublic _).mp decode_smallPublicFile).2⟩,
    hread smallKey 0 smallKey_isValid rfl (by decide), decode_foreignPrivateFile, ?_⟩
  exact (hprivate smallKey decode_foreignPrivateFile _).2 smallKey_encode

end ClusterLicense.Rsa
