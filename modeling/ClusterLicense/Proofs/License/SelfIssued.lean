/-
  ClusterLicense/Proofs/License/SelfIssued.lean
  =============================================
  **Licenses that clusters issue to themselves.**

  A key that nobody has signed is valid until its record expires, and a record that
  a cluster issues to itself never does.
-/
import ClusterLicense.Proofs.License.Creation

namespace ClusterLicense

/-- The key for a payload that nobody has signed. -/
def LicenseKey.selfIssued (symmetricKey : SymmetricKey) (payload : Bytes) : LicenseKey :=
  .wrap .selfGenerated (symmetricKey.encrypt payload)

namespace Verifier

variable {verifier : Verifier} {payload : Bytes} {record : LicenseRecord}

/-- A license that a cluster has issued to itself is valid until it expires.  Nothing but its
expiration is checked once it can be read. -/
theorem accepts_selfIssued (hfits : LicenseKey.Fits payload)
    (hparse : LicenseRecord.parse payload = .ok record) {now : Int64}
    (hnow : now ≤ record.expiration) :
    verifier.accepts (.selfIssued verifier.symmetricKey payload) now = true := by
  have hcheck : verifier.check (.selfIssued verifier.symmetricKey payload) now = .ok record :=
    check_enclose verifier hfits hparse hnow LicenseKind.noConfusion
  rw [accepts, hcheck]
  rfl

/-! ### A cluster with the shipped passphrase

The public key is of no concern to these licenses. -/

def shipped : Verifier := ⟨.shipped, ⟨15, 3⟩⟩

theorem parse_stored_crate : LicenseRecord.parse (LicenseRecord.selfGenerated "crate").stored =
    .ok (.selfGenerated "crate") :=
  LicenseRecord.parse_stored _

theorem fits_stored_crate : LicenseKey.Fits (LicenseRecord.selfGenerated "crate").stored := by
  decide +kernel

def crateKey : LicenseKey :=
  .selfIssued .shipped (LicenseRecord.selfGenerated "crate").stored

theorem licenseData_crateKey : shipped.licenseData crateKey = .ok (.selfGenerated "crate") :=
  licenseData_enclose shipped fits_stored_crate parse_stored_crate

/-- The key for the cluster "crate" is created, since its record is short and carries no signature.
-/
theorem createKey_crate : shipped.createKey .selfGenerated LicenseKey.currentVersion
    (.selfGenerated "crate") = .ok crateKey :=
  createKey_enclose (by decide) fits_stored_crate

end Verifier

end ClusterLicense
