/-
  ClusterLicense/Proofs/Authority/Issue.lean
  ==========================================
  **A license that has been issued lives exactly until its expiration.**

  A record does not change what is signed for it by carrying the signature, so a
  signed record passes the check of its signature (`verifySignature_of_sign`), and
  all that the check of a new license can find is an expiration in the past.  The
  same check decides later, with the same outcome, at every instant.
-/
import ClusterLicense.Authority.Issue
import ClusterLicense.Proofs.License.Creation
import ClusterLicense.Proofs.Rsa.Signing
import ClusterLicense.Storage.Directory

namespace ClusterLicense

/-! ### Signed records -/

namespace LicenseRecord

variable {record signed : LicenseRecord} {key : Rsa.PrivateKey}

/-- Signing puts the signature into the record and changes nothing else; it fails exactly if the key
does not sign. -/
theorem sign_eq_ok_iff :
    record.sign key = .ok signed ↔
      ∃ signature, key.sign (Verifier.signedDigest record) = .ok signature ∧
        signed = { record with signature := some (Base64.text signature) } := by
  cases hsign : key.sign (Verifier.signedDigest record) with
  | ok signature => simp [sign, hsign, eq_comm]
  | error cause => simp [sign, hsign]

theorem suits_of_sign (hsign : record.sign key = .ok signed) : signed.Suits .enterprise := by
  obtain ⟨signature, -, rfl⟩ := sign_eq_ok_iff.mp hsign
  exact iff_of_true rfl rfl

/-- What is signed is a digest of the record without its signature, and putting one in does not
change it.  So the signature of a signed record is checked against the octets that it was made for.
-/
theorem verifySignature_of_sign (hvalid : key.IsValid) (hsign : record.sign key = .ok signed)
    (symmetricKey : SymmetricKey) :
    (Verifier.mk symmetricKey key.publicKey).verifySignature signed = true := by
  obtain ⟨signature, hsignature, rfl⟩ := sign_eq_ok_iff.mp hsign
  exact Verifier.verifySignature_eq_true_iff.mpr
    ⟨signature, rfl, Rsa.PrivateKey.verify_of_sign hvalid hsignature⟩

end LicenseRecord

namespace Authority

open Rsa (PrivateKey)

variable {symmetricKey : SymmetricKey} {key : PrivateKey} {issuedTo : String}
  {expiration now : Int64} {record : LicenseRecord}

/-! ### The expiration -/

/-- The arithmetic of days is exact: an instant beyond the range of 64 bits is refused, and no sum
is ever cut off or wrapped around. -/
theorem expirationInDays_eq_ok_iff {days : UInt32} :
    expirationInDays now days = .ok expiration ↔
      expiration.toInt = now.toInt + days.toNat * 86400000 := by
  have hnow := now.le_toInt
  have hbelow := expiration.toInt_lt
  have hlargest : Int64.maxValue.toInt = 2 ^ 63 - 1 := by decide
  rw [expirationInDays, refuse_unless_eq_ok_iff, Except.ok.injEq, millisPerDay, hlargest]
  constructor
  · rintro ⟨hle, rfl⟩
    rw [Int64.toInt_ofInt_of_le (by omega) (by omega)]
  · intro hsum
    refine ⟨by omega, ?_⟩
    rw [← hsum, Int64.ofInt_toInt]

/-! ### One license -/

/-- The license of a signed record is checked as the record says, at every instant: decoding,
decryption, parsing and the signature have one outcome each, and only the expiration depends on the
time. -/
theorem check_issued (hvalid : key.IsValid)
    (hsign : (LicenseRecord.mk expiration issuedTo none).sign key = .ok record)
    (hfits : LicenseKey.Fits record.stored) (t : Int64) :
    (Verifier.mk symmetricKey key.publicKey).check
        (.enclose symmetricKey .enterprise record.stored) t =
      if t ≤ expiration then .ok record else .error (.expired expiration) := by
  have hparse := LicenseRecord.parse_stored record
  have hverify := LicenseRecord.verifySignature_of_sign hvalid hsign symmetricKey
  have hexpiration : record.expiration = expiration := by
    obtain ⟨signature, -, rfl⟩ := LicenseRecord.sign_eq_ok_iff.mp hsign
    rfl
  by_cases ht : t ≤ expiration
  · rw [if_pos ht]
    rw [← hexpiration] at ht
    exact Verifier.check_enclose ⟨symmetricKey, key.publicKey⟩ hfits hparse ht fun _ => hverify
  · rw [if_neg ht]
    rw [← hexpiration] at ht ⊢
    exact Verifier.check_enclose_expired ⟨symmetricKey, key.publicKey⟩ hfits hparse ht

/-- Issuing checks its own license once, at the time of issue, and by `check_issued` the only thing
that this can find is an expiration that has passed. -/
theorem issueWith_of_signed (hvalid : key.IsValid)
    (hsign : (LicenseRecord.mk expiration issuedTo none).sign key = .ok record)
    (hfits : LicenseKey.Fits record.stored) :
    issueWith symmetricKey key issuedTo expiration now =
      if now ≤ expiration then .ok (.enclose symmetricKey .enterprise record.stored)
      else .error (.rejected (.expired expiration)) := by
  simp only [issueWith, hsign, Verifier.createKey_enclose (LicenseRecord.suits_of_sign hsign) hfits,
    check_issued hvalid hsign hfits]
  by_cases hnow : now ≤ expiration
  · simp only [if_pos hnow]
  · simp only [if_neg hnow]

theorem issueWith_of_oversized
    (hsign : (LicenseRecord.mk expiration issuedTo none).sign key = .ok record)
    (hlarge : ¬ LicenseKey.Fits record.stored) :
    issueWith symmetricKey key issuedTo expiration now = .error (.encoding (.malformedKey
      (.oversized (symmetricKey.encrypt record.stored).length))) := by
  simp only [issueWith, hsign, Verifier.createKey_of_suits (LicenseRecord.suits_of_sign hsign),
    LicenseKey.encode_oversized symmetricKey hlarge]

/-! ### Issuing with a key file -/

def imported : Except StorageError Bytes → Except CryptoError PrivateKey
  | .ok bytes => PrivateKey.decode bytes
  | .error cause => .error (.io cause)

/-- What was read holds a key, and the key signs the record that a holder is to get. -/
structure Grants (read : Except StorageError Bytes) (issuedTo : String) (expiration : Int64)
    (key : PrivateKey) (record : LicenseRecord) : Prop where
  imports : ∃ bytes, read = .ok bytes ∧ PrivateKey.decode bytes = .ok key
  signs : (LicenseRecord.mk expiration issuedTo none).sign key = .ok record

/-- What issuing answers, by what has been read from the key file. -/
def issueFrom (symmetricKey : SymmetricKey) (keyName issuedTo : String) (expiration now : Int64)
    (read : Except StorageError Bytes) : Except AuthorityError LicenseKey :=
  match imported read with
  | .error cause => .error (.privateKeyFile keyName cause)
  | .ok key => issueWith symmetricKey key issuedTo expiration now

variable {read : Except StorageError Bytes}

theorem imported_eq_ok_iff :
    imported read = .ok key ↔ ∃ bytes, read = .ok bytes ∧ PrivateKey.decode bytes = .ok key := by
  cases read with
  | error cause => simp [imported]
  | ok bytes => simp [imported]

/-- Issuing reads the key file once and does nothing else to the files; all that follows is a
matter of what was read. -/
theorem issue_eq_map {m : Type → Type} [Monad m] [LawfulMonad m] [Files m]
    (symmetricKey : SymmetricKey) (keyName issuedTo : String) (expiration now : Int64) :
    (issue symmetricKey keyName issuedTo expiration now : m _) =
      issueFrom symmetricKey keyName issuedTo expiration now <$> Files.read keyName := by
  rw [issue, PrivateKey.load, Rsa.loadHalf, bind_assoc, map_eq_pure_bind]
  congr 1
  funext read
  cases read with
  | error cause => rw [pure_bind]; rfl
  | ok bytes =>
    rw [pure_bind, issueFrom, imported]
    cases PrivateKey.decode bytes with
    | error cause => rfl
    | ok key => rfl

namespace Grants

theorem isValid (h : Grants read issuedTo expiration key record) : key.IsValid := by
  obtain ⟨bytes, -, hdecode⟩ := h.imports
  exact PrivateKey.isValid_of_decode hdecode

/-- A file holds one key and the key signs one record, so what a file grants is determined.  Signing
takes no randomness here. -/
theorem unique {other : PrivateKey} {found : LicenseRecord}
    (h : Grants read issuedTo expiration key record)
    (hother : Grants read issuedTo expiration other found) :
    key = other ∧ record = found := by
  have hkeys := (imported_eq_ok_iff.mpr h.imports).symm.trans (imported_eq_ok_iff.mpr hother.imports)
  obtain rfl := Except.ok.inj hkeys
  exact ⟨rfl, Except.ok.inj (h.signs.symm.trans hother.signs)⟩

theorem record_eq (h : Grants read issuedTo expiration key record) :
    record.issuedTo = issuedTo ∧ record.expiration = expiration ∧ record.isSigned = true := by
  obtain ⟨signature, -, rfl⟩ := LicenseRecord.sign_eq_ok_iff.mp h.signs
  exact ⟨rfl, rfl, rfl⟩

end Grants

/-- Either the key grants a record that fits, and the clock decides; or something fails before a
license has been made, and then the failure is not a verdict on a license. -/
theorem issueFrom_cases (symmetricKey : SymmetricKey) (keyName issuedTo : String)
    (expiration now : Int64) (read : Except StorageError Bytes) :
    (∃ key record, Grants read issuedTo expiration key record ∧
        LicenseKey.Fits record.stored ∧
        issueFrom symmetricKey keyName issuedTo expiration now read =
          if now ≤ expiration then .ok (.enclose symmetricKey .enterprise record.stored)
          else .error (.rejected (.expired expiration))) ∨
      ((∀ key record, Grants read issuedTo expiration key record →
          ¬ LicenseKey.Fits record.stored) ∧
        ∃ cause, issueFrom symmetricKey keyName issuedTo expiration now read = .error cause ∧
          ∀ reason, cause ≠ .rejected reason) := by
  cases hkey : imported read with
  | error cause =>
    refine .inr ⟨?_, .privateKeyFile keyName cause, by rw [issueFrom, hkey], ?_⟩
    · intro key record hgrants
      cases hkey.symm.trans (imported_eq_ok_iff.mpr hgrants.imports)
    · intro reason hrejected
      cases hrejected
  | ok key =>
    have hissue : issueFrom symmetricKey keyName issuedTo expiration now read =
        issueWith symmetricKey key issuedTo expiration now := by rw [issueFrom, hkey]
    cases hsign : (LicenseRecord.mk expiration issuedTo none).sign key with
    | error cause =>
      refine .inr ⟨?_, .signing cause, ?_, ?_⟩
      · intro other record hgrants
        obtain rfl := Except.ok.inj (hkey.symm.trans (imported_eq_ok_iff.mpr hgrants.imports))
        cases hsign.symm.trans hgrants.signs
      · rw [hissue]
        simp only [issueWith, hsign]
      · intro reason hrejected
        cases hrejected
    | ok record =>
      have hgrants : Grants read issuedTo expiration key record :=
        ⟨imported_eq_ok_iff.mp hkey, hsign⟩
      by_cases hfits : LicenseKey.Fits record.stored
      · exact .inl ⟨key, record, hgrants, hfits,
          hissue.trans (issueWith_of_signed hgrants.isValid hsign hfits)⟩
      · refine .inr ⟨?_, _, hissue.trans (issueWith_of_oversized hsign hfits), ?_⟩
        · -- The file grants one record only, so no other one could fit instead.
          intro other found hother
          obtain ⟨-, rfl⟩ := hgrants.unique hother
          exact hfits
        · intro reason hrejected
          cases hrejected

/-- **An issued license lives exactly until its expiration**, wherever the key file is kept.
Issuing reads that file once, and what was read decides.  A license is issued if and only if the
file holds a key that signs the record, which has to fit, and the expiration has not passed; and
then it is valid at exactly the instants up to the expiration, which is the only reason ever given
against it. -/
theorem issued_lives_until_expiration {m : Type → Type} [Monad m] [LawfulMonad m] [Files m]
    (symmetricKey : SymmetricKey) (keyName issuedTo : String) (expiration now : Int64) :
    ∃ outcome : Except StorageError Bytes → Except AuthorityError LicenseKey,
      (issue symmetricKey keyName issuedTo expiration now : m _) =
          outcome <$> Files.read keyName ∧
        (∀ read, (∃ license, outcome read = .ok license) ↔
          (∃ key record, Grants read issuedTo expiration key record ∧
            LicenseKey.Fits record.stored) ∧ now ≤ expiration) ∧
        (∀ read license key record, outcome read = .ok license →
          Grants read issuedTo expiration key record →
          record.issuedTo = issuedTo ∧ record.expiration = expiration ∧ record.isSigned = true ∧
            ∀ t, (Verifier.mk symmetricKey key.publicKey).check license t =
              if t ≤ expiration then .ok record else .error (.expired expiration)) ∧
        (∀ read reason, outcome read = .error (.rejected reason) →
          reason = .expired expiration ∧ expiration < now) ∧
        (∀ days found, expirationInDays now days = .ok found ↔
          found.toInt = now.toInt + days.toNat * 86400000) := by
  refine ⟨_, issue_eq_map symmetricKey keyName issuedTo expiration now, ?_, ?_, ?_,
    fun days found => expirationInDays_eq_ok_iff⟩
  · intro read
    rcases issueFrom_cases symmetricKey keyName issuedTo expiration now read with
      ⟨key, record, hgrants, hfits, hissue⟩ | ⟨hnone, cause, hissue, -⟩
    · rw [hissue, and_iff_right ⟨key, record, hgrants, hfits⟩]
      by_cases hnow : now ≤ expiration
      · simp [hnow]
      · simp [hnow]
    · rw [hissue]
      refine iff_of_false (by rintro ⟨license, hlicense⟩; cases hlicense) ?_
      rintro ⟨⟨key, record, hgrants, hfits⟩, -⟩
      exact hnone key record hgrants hfits
  · intro read license key record hlicense hgrants
    obtain ⟨hissuedTo, hexpiration, hsigned⟩ := hgrants.record_eq
    refine ⟨hissuedTo, hexpiration, hsigned, ?_⟩
    rcases issueFrom_cases symmetricKey keyName issuedTo expiration now read with
      ⟨other, found, hother, hfits, hissue⟩ | ⟨-, cause, hissue, -⟩
    · obtain ⟨rfl, rfl⟩ := hgrants.unique hother
      rw [hissue] at hlicense
      split at hlicense
      · obtain rfl := Except.ok.inj hlicense
        exact check_issued hgrants.isValid hgrants.signs hfits
      · cases hlicense
    · cases hissue.symm.trans hlicense
  · intro read reason hrejected
    rcases issueFrom_cases symmetricKey keyName issuedTo expiration now read with
      ⟨key, record, -, -, hissue⟩ | ⟨-, cause, hissue, hreason⟩
    · rw [hissue] at hrejected
      split at hrejected
      · cases hrejected
      · rename_i hpassed
        cases hrejected
        exact ⟨rfl, Int64.not_le.mp hpassed⟩
    · obtain rfl := Except.error.inj (hissue.symm.trans hrejected)
      exact absurd rfl (hreason reason)

/-! ### A key file

The second factor is one more than a multiple of the first, and the exponent is taken modulo the
least common multiple of both less one. -/

def samplePrivateKey : PrivateKey where
  publicKey := ⟨0x186761D93BB08E1661B450E84E0417357CFB6138D0FC64F8B3F0090A08FEE25C0E6E16D578801049ED2D9C98035331E2B3A34A7BAA33AFB095745740ED75120469722062FCF1EDEA80011D60FFB1C04498C11F93D0FDE783BD347FB68DB8F2D, 3⟩
  exponent := 0x4113AF989F2C2591048B826B7AB593394D4903422D4BB7EC8A80181AC2A7B0F57BD03CE3EC002B6FCDCEF6EAB38884C5D54EB243217FCBDE3FCFBCDB016560768A210DA3C0F88DFC5536E693CDED91DCF7767A2F9320E124809905C7844F9B
  p := 0xFF7F421A284A69A899A1286786103F1913C59B7DF281D21A8A194360253AFA86E9094F8AD41AC57FEBAF0710C342E5
  q := 0x1873ADD380DB1F1CA2B3EC5DE8548E09E66469618DB56C9B8A376AF2B39024F9E94D641CC94C8FE6BE0E402D1AAFE6EA9

def sampleBlock : Nat := 0x1FFFFFFFFFFFFFFFFFFFF003051300D060960864801650304020305000440271453BB39AF70EDCB7962D690A6DD0B6DCE9CBB2DF6D4AA25EB9AA4452AAFB3896C55CEEDB793B00CC102D43D16A44B34E7A16BB6C4D4FF639905DFD413EA2D

def sampleNumber : Nat := 0x160558371D4675D5AA5100EC6E42DF259D028F7BD664BABCBD6AF5BD088A36D78DBE116862FFBD0C28B37F34B5267B2353BEA5620EB2EE155940F1DAC4E6F4AD23BF42C2016EFE84F01EEBBBD96EAEB28A1EFE1B509C0F3C72153F00092F598

theorem coefficient?_samplePrivateKey : samplePrivateKey.coefficient? = some 1 := by
  rw [PrivateKey.coefficient?, Arithmetic.inverse?, Arithmetic.bezout, Arithmetic.bezout,
    Arithmetic.bezout]
  decide

theorem apply_sampleBlock : samplePrivateKey.apply sampleBlock = sampleNumber := by
  rw [PrivateKey.apply, coefficient?_samplePrivateKey]
  simp only [Arithmetic.powMod_eq_powModIn 376 _ samplePrivateKey.exponentP _ (by decide +kernel),
    Arithmetic.powMod_eq_powModIn 385 _ samplePrivateKey.exponentQ _ (by decide +kernel)]
  decide +kernel

theorem apply_sampleNumber : samplePrivateKey.publicKey.apply sampleNumber = sampleBlock := by
  rw [Rsa.PublicKey.apply, Arithmetic.powMod_eq_powModIn 2 _ _ _ (by decide)]
  decide

def sampleRecord : LicenseRecord :=
  ⟨1735689600000, "acme", some (Base64.text (Bytes.ofNat 96 sampleNumber))⟩

/-- The numbers are too large for the elaborator to evaluate by themselves, so the two powers are
turned into a form by structural recursion first and evaluated by the kernel. -/
theorem sign_sampleRecord :
    (LicenseRecord.mk 1735689600000 "acme" none).sign samplePrivateKey = .ok sampleRecord := by
  have hblock : Rsa.signedBlock? samplePrivateKey.publicKey.size
      (Verifier.signedDigest ⟨1735689600000, "acme", none⟩) =
        some (Bytes.ofNat 96 sampleBlock) := by
    decide +kernel
  have hnumber : Bytes.toNat (Bytes.ofNat 96 sampleBlock) = sampleBlock := by
    rw [Bytes.toNat_ofNat]
    exact Nat.mod_eq_of_lt (by decide)
  refine LicenseRecord.sign_eq_ok_iff.mpr ⟨Bytes.ofNat 96 sampleNumber, ?_, rfl⟩
  refine PrivateKey.sign_eq_ok_iff.mpr ⟨_, hblock, ?_, ?_⟩
  · rw [hnumber, apply_sampleBlock, apply_sampleNumber]
  · rw [hnumber, apply_sampleBlock, show samplePrivateKey.publicKey.size = 96 by decide +kernel]

def sampleFile : Bytes :=
  Der.encode Der.sequenceTag (Der.encodeUnsigned Rsa.firstVersion ++
    Der.encode Der.sequenceTag Rsa.algorithm ++
    Der.encode Der.octetStringTag (samplePrivateKey.numbers 1))

theorem decode_sampleFile : PrivateKey.decode sampleFile = .ok samplePrivateKey := by
  have hfound : PrivateKey.decode? sampleFile = some samplePrivateKey := by decide +kernel
  rw [PrivateKey.decode, hfound]

def sampleDirectory : Directory := .ofList [("private.key", sampleFile)]

theorem grants_sampleRecord : Grants (sampleDirectory.read "private.key") "acme" 1735689600000
    samplePrivateKey sampleRecord := by
  have hread : sampleDirectory.read "private.key" = .ok sampleFile := rfl
  exact ⟨⟨sampleFile, hread, decode_sampleFile⟩, sign_sampleRecord⟩

theorem issued_sampleRecord :
    ∃ license,
      (issue .shipped "private.key" "acme" 1735689600000 0 : DirectoryM _).run sampleDirectory =
        (.ok license, sampleDirectory) ∧
      (Verifier.mk .shipped samplePrivateKey.publicKey).check license 1735689600000 =
        .ok sampleRecord ∧
      (Verifier.mk .shipped samplePrivateKey.publicKey).check license 1735689600001 =
        .error (.expired 1735689600000) := by
  obtain ⟨outcome, hrun, hissued, hchecked, -⟩ :=
    issued_lives_until_expiration (m := DirectoryM) .shipped "private.key" "acme" 1735689600000 0
  have hfits : LicenseKey.Fits sampleRecord.stored :=
    LicenseKey.fits_stored_of_base64 (by decide +kernel)
  obtain ⟨license, hlicense⟩ := (hissued _).mpr ⟨⟨_, _, grants_sampleRecord, hfits⟩, by decide⟩
  obtain ⟨-, -, -, hcheck⟩ := hchecked _ license _ _ hlicense grants_sampleRecord
  refine ⟨license, ?_, ?_, ?_⟩
  · rw [hrun]
    exact Prod.ext hlicense rfl
  · rw [hcheck, if_pos (by decide)]
  · rw [hcheck, if_neg (by decide)]

end Authority

end ClusterLicense
