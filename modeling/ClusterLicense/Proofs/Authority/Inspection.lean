/-
  ClusterLicense/Proofs/Authority/Inspection.lean
  ===============================================
  **A report tells what the verifier decides.**

  Inspecting a text and checking the key in it read the key twice, so what both see has
  to be shown to be the same.  A text without a record is refused by both.  If there is
  a record, then only two things can be held against it, and in this order: its
  expiration has passed, or it is the authority's and the signature is not
  (`Verifier.check_of_decrypt`).  These are the two reasons that a report can give.
-/
import ClusterLicense.Authority.Inspection
import ClusterLicense.Proofs.License.Binding
import ClusterLicense.Proofs.License.Creation

namespace ClusterLicense.Authority

variable {verifier : Verifier} {text : String} {now : Int64} {key : LicenseKey}
  {decoded : DecodedLicense} {record : LicenseRecord} {report : Inspection}

/-! ### Reading -/

/-- Where a text has a key and the key a record, inspection reports them and the verdict of the
check.  It never looks at the verdict to decide whether to report. -/
theorem inspect_of_decrypt (hread : LicenseKey.ofText text = .ok key)
    (hdecode : key.decode = .ok decoded) (hdecrypt : verifier.decrypt decoded = .ok record) :
    inspect verifier text now =
      .ok ⟨decoded.kind, decoded.version, record, verifier.check key now⟩ := by
  simp only [inspect, hread, hdecode, hdecrypt]

/-- A text is refused by its inspection exactly if there is no record in it.  What the record says
is no reason to refuse a report, however wrong it may be. -/
theorem inspect_eq_error_iff :
    (∃ cause, inspect verifier text now = .error cause) ↔
      (∃ cause, LicenseKey.ofText text = .error cause) ∨
        ∃ key cause, LicenseKey.ofText text = .ok key ∧ verifier.licenseData key = .error cause := by
  cases hread : LicenseKey.ofText text with
  | error cause => simp [inspect, hread]
  | ok key =>
    cases hdecode : key.decode with
    | error cause =>
      have hdata : verifier.licenseData key = .error cause := by
        rw [Verifier.licenseData, hdecode, error_bind]
      simp [inspect, hread, hdecode, hdata]
    | ok decoded =>
      have hdata : verifier.licenseData key = verifier.decrypt decoded := by
        rw [Verifier.licenseData, hdecode, ok_bind]
      cases hdecrypt : verifier.decrypt decoded with
      | error cause => simp [inspect, hread, hdecode, hdata, hdecrypt]
      | ok record => simp [inspect, hread, hdecode, hdata, hdecrypt]

/-! ### Reporting -/

/-- What a report says about a key and its record, and the verdict in words. -/
structure Tells (verifier : Verifier) (key : LicenseKey) (now : Int64) (decoded : DecodedLicense)
    (record : LicenseRecord) (report : Inspection) : Prop where
  /-- What is shown of the report. -/
  shown : report.json = .object [
    ("license_type", .string decoded.kind.name),
    ("version", .integer decoded.version.toInt),
    ("issued_to", .string record.issuedTo),
    ("expiration_date_in_ms", .integer record.expiration.toInt),
    ("expires_at", .ofOption record.expirationDate?),
    ("signed", .boolean record.isSigned),
    ("valid", .boolean (verifier.accepts key now)),
    ("reason", .ofOption report.reason)]
  valid : report.isValid = verifier.accepts key now
  noReason : report.reason = none ↔ report.isValid = true
  /-- An expiration in the past is the reason, whatever the signature is. -/
  expired : record.expiration < now →
    report.isValid = false ∧ report.reason = some s!"license expired at {record.expiration}ms"
  /-- Otherwise it is the signature, and the license is one of the authority's. -/
  mismatched : ¬ record.expiration < now → report.isValid = false →
    report.reason = some "license signature invalid" ∧ decoded.kind = .enterprise ∧
      verifier.verifySignature record = false

/-- The report of a key with a record tells the verdict in words: valid exactly if the check
accepts, and the two reasons there can be are told apart, expiration before signature. -/
theorem tells_of_decrypt (hdecode : key.decode = .ok decoded)
    (hdecrypt : verifier.decrypt decoded = .ok record) :
    Tells verifier key now decoded record
      ⟨decoded.kind, decoded.version, record, verifier.check key now⟩ := by
  have hcheck : verifier.check key now = _ := Verifier.check_of_decrypt hdecode hdecrypt
  refine ⟨rfl, rfl, ?_, ?_, ?_⟩
  · cases hverdict : verifier.check key now with
    | ok found => simp [Inspection.reason, Inspection.isValid, Except.isOk, Except.toBool]
    | error cause => simp [Inspection.reason, Inspection.isValid, Except.isOk, Except.toBool]
  · intro hexpired
    rw [if_pos hexpired] at hcheck
    simp only [hcheck]
    exact ⟨rfl, rfl⟩
  · intro hunexpired hinvalid
    rw [if_neg hunexpired] at hcheck
    by_cases hmismatch : decoded.kind = .enterprise ∧ verifier.verifySignature record = false
    · rw [if_pos hmismatch] at hcheck
      simp only [hcheck]
      exact ⟨rfl, hmismatch⟩
    · rw [if_neg hmismatch] at hcheck
      simp only [hcheck] at hinvalid
      cases hinvalid

/-- **A report tells what the verifier decides.**  Inspecting a text fails if and only if there is
no key in it or no record in the key; otherwise the report says what the envelope and the record
say, whether the key is valid, and if it is not, why; and the check of a key with a record fails for
no other reasons than the two that a report can give. -/
theorem report_tells_verdict (verifier : Verifier) (text : String) (now : Int64) :
    ((∃ cause, inspect verifier text now = .error cause) ↔
      (∃ cause, LicenseKey.ofText text = .error cause) ∨
        ∃ key cause, LicenseKey.ofText text = .ok key ∧ verifier.licenseData key = .error cause) ∧
    (∀ key record, LicenseKey.ofText text = .ok key → verifier.licenseData key = .ok record →
      ∃ decoded report, key.decode = .ok decoded ∧ inspect verifier text now = .ok report ∧
        report.kind = decoded.kind ∧ report.version = decoded.version ∧ report.record = record ∧
        Tells verifier key now decoded record report) ∧
    ∀ key record, verifier.licenseData key = .ok record →
      ∀ cause, verifier.check key now = .error cause →
        cause = .expired record.expiration ∧ record.expiration < now ∨
          cause = .signatureMismatch ∧ ¬ record.expiration < now := by
  refine ⟨inspect_eq_error_iff, ?_, ?_⟩
  · intro key record hread hdata
    obtain ⟨decoded, hdecode, hdecrypt⟩ := Verifier.licenseData_eq_ok_iff.mp hdata
    exact ⟨decoded, _, hdecode, inspect_of_decrypt hread hdecode hdecrypt, rfl, rfl, rfl,
      tells_of_decrypt hdecode hdecrypt⟩
  · intro key record hdata cause hcheck
    obtain ⟨decoded, hdecode, hdecrypt⟩ := Verifier.licenseData_eq_ok_iff.mp hdata
    rw [Verifier.check_of_decrypt hdecode hdecrypt] at hcheck
    split_ifs at hcheck with hexpired hmismatch
    · exact .inl ⟨(Except.error.inj hcheck).symm, hexpired⟩
    · exact .inr ⟨(Except.error.inj hcheck).symm, hexpired⟩

/-! ### A forged license

The signature is three octets, too few for any key. -/

def forgedRecord : LicenseRecord := ⟨1735689600000, "acme", some "c2ln"⟩

def forgedKey : LicenseKey := .enclose .shipped .enterprise forgedRecord.stored

theorem fits_stored_forgedRecord : LicenseKey.Fits forgedRecord.stored := by
  decide +kernel

/-- The signature of the forged record is no signature of the sample authority's, so the key is
refused while it has not expired yet. -/
theorem accepts_forgedKey :
    Verifier.sampleVerifier.accepts forgedKey 1735689600000 = false := by
  have hmismatch : Verifier.sampleVerifier.verifySignature forgedRecord = false := by
    decide +kernel
  have hdecode : forgedKey.decode = .ok ⟨.enterprise, LicenseKey.currentVersion,
      SymmetricKey.shipped.encrypt forgedRecord.stored⟩ :=
    LicenseKey.decode_enclose .shipped fits_stored_forgedRecord
  have hdecrypt : Verifier.sampleVerifier.decrypt ⟨.enterprise, LicenseKey.currentVersion,
      SymmetricKey.shipped.encrypt forgedRecord.stored⟩ = .ok forgedRecord :=
    Verifier.decrypt_encrypt (LicenseRecord.parse_stored forgedRecord)
  rw [Verifier.accepts, Verifier.check_of_decrypt hdecode hdecrypt, if_neg (by decide),
    if_pos ⟨rfl, hmismatch⟩]
  rfl

/-- The report of a forged key in the last millisecond of its record, and one later.  At first the
signature is what is wrong; then the expiration is, which is looked at before the signature. -/
theorem report_tells_verdict_forged :
    LicenseKey.ofText forgedKey.text = .ok forgedKey ∧
      Verifier.sampleVerifier.licenseData forgedKey = .ok forgedRecord ∧
      (∃ report, inspect Verifier.sampleVerifier forgedKey.text 1735689600000 = .ok report ∧
        report.isValid = false ∧ report.reason = some "license signature invalid") ∧
      ∃ report, inspect Verifier.sampleVerifier forgedKey.text 1735689600001 = .ok report ∧
        report.isValid = false ∧ report.reason = some "license expired at 1735689600000ms" := by
  have hread := LicenseKey.ofText_text forgedKey
  have hdata : Verifier.sampleVerifier.licenseData forgedKey = .ok forgedRecord :=
    Verifier.licenseData_enclose Verifier.sampleVerifier fits_stored_forgedRecord
      (LicenseRecord.parse_stored forgedRecord)
  obtain ⟨-, hlast, -⟩ := report_tells_verdict Verifier.sampleVerifier forgedKey.text 1735689600000
  obtain ⟨-, hlater, -⟩ := report_tells_verdict Verifier.sampleVerifier forgedKey.text 1735689600001
  refine ⟨hread, hdata, ?_, ?_⟩
  · obtain ⟨decoded, report, -, hreport, -, -, -, htells⟩ := hlast _ _ hread hdata
    have hinvalid := htells.valid.trans accepts_forgedKey
    exact ⟨report, hreport, hinvalid, (htells.mismatched (by decide) hinvalid).1⟩
  · obtain ⟨decoded, report, -, hreport, -, -, -, htells⟩ := hlater _ _ hread hdata
    exact ⟨report, hreport, htells.expired (by decide)⟩

end ClusterLicense.Authority
