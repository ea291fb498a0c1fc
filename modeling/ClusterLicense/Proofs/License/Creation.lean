/-
  ClusterLicense/Proofs/License/Creation.lean
  ===========================================
  **A key carries the record that it was made for.**

  Each layer of a key undoes to what was put into it, and nothing but the size of
  a payload can keep it out of an envelope (`fits_iff`).  So a key is made of every
  record that is signed if and only if its kind asks for it, and the record comes
  back as it was, with a missing signature and an empty one told apart.
-/
import ClusterLicense.Proofs.License.Acceptance
import ClusterLicense.Proofs.License.Storage

namespace ClusterLicense

/-- Licenses of the authority are signed, and no others are. -/
def LicenseRecord.Suits (record : LicenseRecord) (kind : LicenseKind) : Prop :=
  record.isSigned = true ↔ kind = .enterprise

instance (record : LicenseRecord) (kind : LicenseKind) : Decidable (record.Suits kind) := by
  unfold LicenseRecord.Suits; infer_instance

namespace LicenseKey

variable {payload : Bytes} {kind : LicenseKind}

/-- The payload can be encrypted into one envelope. -/
def Fits (payload : Bytes) : Prop :=
  payload.length + SymmetricKey.blockSize ≤ largestLength

instance (payload : Bytes) : Decidable (Fits payload) := by
  unfold Fits; infer_instance

/-- Whether a payload fits does not depend on the key that it is encrypted with, since a ciphertext
is as long under every key. -/
theorem fits_iff (symmetricKey : SymmetricKey) :
    Fits payload ↔ (symmetricKey.encrypt payload).length ≤ largestLength := by
  -- The greatest length is one less than a multiple of the block size, so rounding up to whole
  -- blocks does not carry a payload over it.
  rw [SymmetricKey.length_encrypt, Fits, SymmetricKey.blockSize, largestLength]
  omega

/-- A record that is short fits.  Base64 is not escaped, which gives a bound that is easy to
compute, and the bound need not be tight. -/
theorem fits_stored_of_base64 {expiration : Int64} {issuedTo : String} {signature : Bytes}
    (hshort : (Decimal.ofInt expiration.toInt).length + (Json.quoted issuedTo).length +
      6 * (Base64.encode signature).length ≤ 2 ^ 30) :
    Fits (LicenseRecord.mk expiration issuedTo (some (Base64.text signature))).stored := by
  have hquoted := (Json.length_quoted (Base64.text signature)).2
  rw [Base64.utf8_text] at hquoted
  simp only [Fits, LicenseRecord.length_stored, SymmetricKey.blockSize, largestLength, Option.elim]
  omega

def enclose (symmetricKey : SymmetricKey) (kind : LicenseKind) (payload : Bytes) : LicenseKey :=
  wrap kind (symmetricKey.encrypt payload)

variable (symmetricKey : SymmetricKey)

theorem encode_encrypt (hfits : Fits payload) :
    encode kind currentVersion (symmetricKey.encrypt payload) =
      .ok (enclose symmetricKey kind payload) :=
  encode_eq_wrap kind ((fits_iff symmetricKey).mp hfits)

theorem encode_oversized {version : Int32} (hlarge : ¬ Fits payload) :
    encode kind version (symmetricKey.encrypt payload) =
      .error (.malformedKey (.oversized (symmetricKey.encrypt payload).length)) := by
  rw [fits_iff symmetricKey] at hlarge
  rw [encode, if_neg hlarge]

theorem decode_enclose (hfits : Fits payload) :
    (enclose symmetricKey kind payload).decode =
      .ok ⟨kind, currentVersion, symmetricKey.encrypt payload⟩ :=
  decode_eq_ok_iff.mpr ⟨rfl, encode_encrypt symmetricKey hfits⟩

end LicenseKey

namespace Verifier

variable {verifier : Verifier} {kind : LicenseKind} {record : LicenseRecord} {payload : Bytes}
  {now : Int64}

/-! ### Reading -/

theorem decrypt_encrypt (hparse : LicenseRecord.parse payload = .ok record) {version : Int32} :
    verifier.decrypt ⟨kind, version, verifier.symmetricKey.encrypt payload⟩ = .ok record :=
  decrypt_eq_ok_iff.mpr ⟨payload, rfl, hparse⟩

theorem licenseData_enclose (verifier : Verifier) (hfits : LicenseKey.Fits payload)
    (hparse : LicenseRecord.parse payload = .ok record) :
    verifier.licenseData (.enclose verifier.symmetricKey kind payload) = .ok record :=
  licenseData_eq_ok_iff.mpr
    ⟨_, LicenseKey.decode_enclose verifier.symmetricKey hfits, decrypt_encrypt hparse⟩

/-- An enclosed record is accepted if it has not expired and, where the kind asks for one, its
signature is good.  The expiration and the signature are all that is left to check. -/
theorem check_enclose (verifier : Verifier) (hfits : LicenseKey.Fits payload)
    (hparse : LicenseRecord.parse payload = .ok record) (hnow : now ≤ record.expiration)
    (hsigned : kind = .enterprise → verifier.verifySignature record = true) :
    verifier.check (.enclose verifier.symmetricKey kind payload) now = .ok record :=
  check_eq_ok_iff.mpr
    ⟨_, LicenseKey.decode_enclose verifier.symmetricKey hfits, decrypt_encrypt hparse, hnow, hsigned⟩

theorem check_enclose_expired (verifier : Verifier) (hfits : LicenseKey.Fits payload)
    (hparse : LicenseRecord.parse payload = .ok record) (hnow : ¬ now ≤ record.expiration) :
    verifier.check (.enclose verifier.symmetricKey kind payload) now =
      .error (.expired record.expiration) := by
  rw [check_of_decrypt (LicenseKey.decode_enclose verifier.symmetricKey hfits)
    (decrypt_encrypt hparse), if_pos (Int64.not_le.mp hnow)]

/-! ### Making -/

theorem createKey_of_suits (hsuits : record.Suits kind) (version : Int32) :
    verifier.createKey kind version record =
      LicenseKey.encode kind version (verifier.symmetricKey.encrypt record.stored) := by
  rw [LicenseRecord.Suits] at hsuits
  unfold createKey
  cases kind with
  | enterprise => rw [hsuits.mpr rfl]
  | selfGenerated =>
    have hunsigned : record.isSigned = false := by
      rw [← Bool.not_eq_true, hsuits]
      exact LicenseKind.noConfusion
    rw [hunsigned]

/-- A record that does not suit the kind is refused before anything is encrypted, by the one error
that says so. -/
theorem createKey_of_not_suits (hsuits : ¬ record.Suits kind) (version : Int32) :
    ∃ detail, verifier.createKey kind version record = .error (.unsupportedOperation detail) := by
  rw [LicenseRecord.Suits] at hsuits
  cases kind with
  | enterprise =>
    have hunsigned : record.isSigned = false := by
      rw [← Bool.not_eq_true]
      exact fun hsigned => hsuits (iff_of_true hsigned rfl)
    simp only [createKey, hunsigned]
    exact ⟨_, rfl⟩
  | selfGenerated =>
    have hsigned : record.isSigned = true := by
      by_contra hunsigned
      exact hsuits (iff_of_false hunsigned LicenseKind.noConfusion)
    simp only [createKey, hsigned]
    exact ⟨_, rfl⟩

theorem createKey_enclose (hsuits : record.Suits kind) (hfits : LicenseKey.Fits record.stored) :
    verifier.createKey kind LicenseKey.currentVersion record =
      .ok (.enclose verifier.symmetricKey kind record.stored) := by
  rw [createKey_of_suits hsuits, LicenseKey.encode_encrypt verifier.symmetricKey hfits]

/-- A key is created exactly for a record that suits the kind and fits, and it is the one key that
encloses the stored form of the record. -/
theorem createKey_eq_ok_iff {key : LicenseKey} :
    verifier.createKey kind LicenseKey.currentVersion record = .ok key ↔
      record.Suits kind ∧ LicenseKey.Fits record.stored ∧
        key = .enclose verifier.symmetricKey kind record.stored := by
  constructor
  · intro h
    by_cases hsuits : record.Suits kind
    · by_cases hfits : LicenseKey.Fits record.stored
      · rw [createKey_enclose hsuits hfits] at h
        exact ⟨hsuits, hfits, (Except.ok.inj h).symm⟩
      · rw [createKey_of_suits hsuits, LicenseKey.encode_oversized verifier.symmetricKey hfits] at h
        cases h
    · obtain ⟨detail, herror⟩ := @createKey_of_not_suits verifier _ _ hsuits
        LicenseKey.currentVersion
      rw [herror] at h
      cases h
  · rintro ⟨hsuits, hfits, rfl⟩
    exact createKey_enclose hsuits hfits

/-- **A created key carries its record unchanged**: if the record suits the kind, nothing but its
size stands in the way of a key, from whose text every verifier with the symmetric key reads the
record. -/
theorem createKey_carries_record (symmetricKey : SymmetricKey) (creator reader : Rsa.PublicKey)
    (kind : LicenseKind) (record : LicenseRecord) :
    (record.Suits kind → LicenseKey.Fits record.stored →
      ∃ key, (Verifier.mk symmetricKey creator).createKey kind LicenseKey.currentVersion record =
          .ok key ∧
        (∃ content, key.decode = .ok ⟨kind, LicenseKey.currentVersion, content⟩) ∧
        (LicenseKey.ofText key.text >>= (Verifier.mk symmetricKey reader).licenseData) =
          .ok record) ∧
    (record.Suits kind → ¬ LicenseKey.Fits record.stored →
      (Verifier.mk symmetricKey creator).createKey kind LicenseKey.currentVersion record =
        .error (.malformedKey (.oversized (symmetricKey.encrypt record.stored).length))) ∧
    (¬ record.Suits kind → ∃ detail,
      (Verifier.mk symmetricKey creator).createKey kind LicenseKey.currentVersion record =
        .error (.unsupportedOperation detail)) := by
  refine ⟨?_, ?_, fun hsuits => createKey_of_not_suits hsuits _⟩
  · intro hsuits hfits
    refine ⟨_, createKey_enclose hsuits hfits, ⟨_, LicenseKey.decode_enclose symmetricKey hfits⟩, ?_⟩
    rw [LicenseKey.ofText_text]
    exact licenseData_enclose ⟨symmetricKey, reader⟩ hfits (LicenseRecord.parse_stored record)
  · intro hsuits hlarge
    rw [createKey_of_suits hsuits]
    exact LicenseKey.encode_oversized symmetricKey hlarge

/-- A holder that has to be escaped, an expiration in the past and an empty signature. -/
def escapedRecord : LicenseRecord := ⟨-1, "Zoë \"\\\x07\" 漢\x7f𝒳", some ""⟩

theorem createKey_carries_escapedRecord :
    (escapedRecord.Suits .enterprise ∧ LicenseKey.Fits escapedRecord.stored ∧
      ∃ key, (Verifier.mk .shipped ⟨15, 3⟩).createKey .enterprise LicenseKey.currentVersion
          escapedRecord = .ok key ∧
        (∃ content, key.decode = .ok ⟨.enterprise, LicenseKey.currentVersion, content⟩) ∧
        (LicenseKey.ofText key.text >>= (Verifier.mk .shipped ⟨35, 5⟩).licenseData) =
          .ok escapedRecord) ∧
    (¬ escapedRecord.Suits .selfGenerated ∧ ∃ detail,
      (Verifier.mk .shipped ⟨15, 3⟩).createKey .selfGenerated LicenseKey.currentVersion
        escapedRecord = .error (.unsupportedOperation detail)) := by
  have hsuits : escapedRecord.Suits .enterprise := by decide
  have hfits : LicenseKey.Fits escapedRecord.stored := by decide +kernel
  have hother : ¬ escapedRecord.Suits .selfGenerated := by decide
  obtain ⟨hcarried, -, -⟩ :=
    createKey_carries_record .shipped ⟨15, 3⟩ ⟨35, 5⟩ .enterprise escapedRecord
  obtain ⟨-, -, hrefused⟩ :=
    createKey_carries_record .shipped ⟨15, 3⟩ ⟨35, 5⟩ .selfGenerated escapedRecord
  exact ⟨⟨hsuits, hfits, hcarried hsuits hfits⟩, hother, hrefused hother⟩

end Verifier

end ClusterLicense
