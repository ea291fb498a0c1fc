/-
  ClusterLicense/Proofs/License/Recreation.lean
  =============================================
  **What is valid could have been made**, signatures on self-issued licenses apart.

  Whoever makes a key has to leave the signature out of a license that a cluster issues
  to itself; whoever checks one does not look at it.  So the record of a valid key can
  be put into a key of its own that is valid as well, but if the license is self-issued
  and carries a signature, then only without it.

  The payload of a key need not be the stored form of its record, which can be longer;
  so the size is asked about again (`Remakes`).
-/
import ClusterLicense.Proofs.License.Binding
import ClusterLicense.Proofs.License.SelfIssued

namespace ClusterLicense.Verifier

/-- A key is made of the record unless it is too large, and that key is valid. -/
structure Remakes (verifier : Verifier) (decoded : DecodedLicense) (record : LicenseRecord)
    (now : Int64) : Prop where
  made : LicenseKey.Fits record.stored →
    ∃ again, verifier.createKey decoded.kind decoded.version record = .ok again ∧
      verifier.check again now = .ok record
  refused : ¬ LicenseKey.Fits record.stored →
    verifier.createKey decoded.kind decoded.version record =
      .error (.malformedKey (.oversized (verifier.symmetricKey.encrypt record.stored).length))

variable {verifier : Verifier} {decoded : DecodedLicense} {record : LicenseRecord} {now : Int64}

/-- Where the record suits the kind, the key that is made of it encloses the same record.  So its
check comes to the same conclusion as that of the original. -/
theorem remakes_of_suits (hversion : decoded.version = LicenseKey.currentVersion)
    (hsuits : record.Suits decoded.kind) (hnow : now ≤ record.expiration)
    (hsigned : decoded.kind = .enterprise → verifier.verifySignature record = true) :
    verifier.Remakes decoded record now where
  made hfits := by
    rw [hversion]
    exact ⟨_, createKey_enclose hsuits hfits,
      check_enclose verifier hfits (LicenseRecord.parse_stored record) hnow hsigned⟩
  refused hlarge := by
    rw [createKey_of_suits hsuits]
    exact LicenseKey.encode_oversized verifier.symmetricKey hlarge

theorem isSigned_of_verifySignature (h : verifier.verifySignature record = true) :
    record.isSigned = true := by
  obtain ⟨signature, hsignature, -⟩ := verifySignature_eq_true_iff.mp h
  rw [LicenseRecord.isSigned, hsignature]
  rfl

/-- **What is valid could have been made.**  A key is made of the record of a valid key, unless the
record is too large, and it is valid at the same instant with the same record.  Only a self-issued
license that carries a signature is valid and is not made; without the signature, it is. -/
theorem valid_license_remade (verifier : Verifier) (key : LicenseKey) (now : Int64)
    (record : LicenseRecord) (hcheck : verifier.check key now = .ok record) :
    ∃ decoded, key.decode = .ok decoded ∧
      ((decoded.kind = .selfGenerated → record.signature = none) →
        verifier.Remakes decoded record now) ∧
      (decoded.kind = .selfGenerated → record.signature ≠ none →
        verifier.createKey decoded.kind decoded.version record = .error (.unsupportedOperation
          "self generated licenses cannot carry a signature") ∧
        verifier.Remakes decoded { record with signature := none } now) := by
  obtain ⟨⟨kind, version, content⟩, hdecode, -, hnow, hsigned⟩ := check_eq_ok_iff.mp hcheck
  obtain ⟨hversion, -⟩ := LicenseKey.decode_eq_ok_iff.mp hdecode
  refine ⟨_, hdecode, ?_, ?_⟩
  · intro hunsigned
    apply remakes_of_suits hversion ?_ hnow hsigned
    cases kind with
    | enterprise => exact iff_of_true (isSigned_of_verifySignature (hsigned rfl)) rfl
    | selfGenerated =>
      refine iff_of_false ?_ LicenseKind.noConfusion
      rw [LicenseRecord.isSigned, hunsigned rfl]
      exact Bool.false_ne_true
  · rintro rfl hsignature
    constructor
    · have hmarked : record.isSigned = true := Option.isSome_iff_ne_none.mpr hsignature
      simp only [createKey, hmarked]
    · exact remakes_of_suits hversion (by simp [LicenseRecord.Suits, LicenseRecord.isSigned])
        hnow LicenseKind.noConfusion

/-! ### A self-issued license with a signature

The signature is none of the authority's, and nobody asks. -/

def signedCrate : LicenseRecord := ⟨Int64.maxValue, "crate", some "c2ln"⟩

def signedCrateKey : LicenseKey := .selfIssued .shipped signedCrate.stored

theorem fits_stored_signedCrate : LicenseKey.Fits signedCrate.stored := by
  decide +kernel

theorem decode_signedCrateKey : signedCrateKey.decode = .ok ⟨.selfGenerated,
    LicenseKey.currentVersion, shipped.symmetricKey.encrypt signedCrate.stored⟩ :=
  LicenseKey.decode_enclose .shipped fits_stored_signedCrate

theorem check_signedCrateKey {now : Int64} (hnow : now ≤ Int64.maxValue) :
    shipped.check signedCrateKey now = .ok signedCrate :=
  check_enclose shipped fits_stored_signedCrate (LicenseRecord.parse_stored _) hnow
    LicenseKind.noConfusion

/-- A license that a cluster might have issued to itself, with a signature added.  It is valid, as
such licenses are not checked for signatures, and no key is made of its record again. -/
theorem signedCrateKey_valid_unmade :
    shipped.check signedCrateKey 0 = .ok signedCrate ∧
      ∃ decoded, signedCrateKey.decode = .ok decoded ∧ decoded.kind = .selfGenerated ∧
        ∀ again, shipped.createKey decoded.kind decoded.version signedCrate ≠ .ok again := by
  refine ⟨check_signedCrateKey (by decide), _, decode_signedCrateKey, rfl, ?_⟩
  intro again h
  cases h

/-- A license of the authority, which is made again, and a self-issued one with a signature, of
which a valid key is made without the signature. -/
theorem valid_license_remade_sampleRecord :
    (∃ key, sampleVerifier.check key 0 = .ok sampleRecord ∧
      ∃ decoded, key.decode = .ok decoded ∧ decoded.kind = .enterprise ∧
        LicenseKey.Fits sampleRecord.stored ∧
        ∃ again, sampleVerifier.createKey decoded.kind decoded.version sampleRecord = .ok again ∧
          sampleVerifier.check again 0 = .ok sampleRecord) ∧
    (shipped.check signedCrateKey Int64.maxValue = .ok signedCrate ∧
      ∃ decoded, signedCrateKey.decode = .ok decoded ∧
        shipped.Remakes decoded { signedCrate with signature := none } Int64.maxValue) := by
  constructor
  · have hfits : LicenseKey.Fits sampleRecord.stored :=
      LicenseKey.fits_stored_of_base64 (by decide +kernel)
    have hcheck : sampleVerifier.check (.enclose .shipped .enterprise sampleRecord.stored) 0 =
        .ok sampleRecord :=
      check_enclose sampleVerifier hfits (LicenseRecord.parse_stored _) (by decide)
        fun _ => verifySignature_sampleRecord
    obtain ⟨decoded, hdecode, hremakes, -⟩ := valid_license_remade _ _ _ _ hcheck
    have hkind : decoded.kind = .enterprise := by
      rw [LicenseKey.decode_enclose .shipped hfits] at hdecode
      cases hdecode
      rfl
    refine ⟨_, hcheck, decoded, hdecode, hkind, hfits, (hremakes ?_).made hfits⟩
    intro hself
    cases hkind.symm.trans hself
  · have hcheck := check_signedCrateKey Int64.le_rfl
    obtain ⟨decoded, hdecode, -, hremakes⟩ := valid_license_remade _ _ _ _ hcheck
    have hkind : decoded.kind = .selfGenerated := by
      rw [decode_signedCrateKey] at hdecode
      cases hdecode
      rfl
    exact ⟨hcheck, decoded, hdecode, (hremakes hkind (by decide)).2⟩

end ClusterLicense.Verifier
