/-
  ClusterLicense/Authority/Inspection.lean
  ========================================
  **What a license key says, and whether it is valid.**

  A key that can be decoded and decrypted is reported whatever the verdict on
  it; only a key that cannot be read at all is a failure.
-/
import ClusterLicense.Authority.Error
import ClusterLicense.License.Verifier

namespace ClusterLicense.Authority

structure Inspection where
  kind : LicenseKind
  version : Int32
  record : LicenseRecord
  /-- The record if the license is valid, or the reason why it is not. -/
  verdict : Except LicenseError LicenseRecord

namespace Inspection

def isValid (report : Inspection) : Bool := report.verdict.isOk

def reason (report : Inspection) : Option String :=
  match report.verdict with
  | .ok _ => none
  | .error e => some e.message

def json (report : Inspection) : Json.Value :=
  .object [
    ("license_type", .string report.kind.name),
    ("version", .integer report.version.toInt),
    ("issued_to", .string report.record.issuedTo),
    ("expiration_date_in_ms", .integer report.record.expiration.toInt),
    ("expires_at", .ofOption report.record.expirationDate?),
    ("signed", .boolean report.record.isSigned),
    ("valid", .boolean report.isValid),
    ("reason", .ofOption report.reason)]

end Inspection

def inspect (verifier : Verifier) (text : String) (now : Int64) :
    Except AuthorityError Inspection :=
  match LicenseKey.ofText text with
  | .error cause => .error (.notBase64 cause)
  | .ok key =>
    match key.decode with
    | .error cause => .error (.malformed cause)
    | .ok decoded =>
      match verifier.decrypt decoded with
      | .error cause => .error (.undecryptable cause)
      | .ok record => .ok ⟨decoded.kind, decoded.version, record, verifier.check key now⟩

end ClusterLicense.Authority
