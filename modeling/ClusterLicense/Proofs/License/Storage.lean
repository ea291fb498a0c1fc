/-
  ClusterLicense/Proofs/License/Storage.lean
  ==========================================
  **A record is read back as it was stored.**

  The stored form is an object with the members of the record (`stored_eq`), and
  they tell what the record says, each once (`describes_members`).  A signature that
  is missing has no member and an empty one has; so the two are told apart.
-/
import ClusterLicense.License.Record
import ClusterLicense.Proofs.License.Payload

namespace ClusterLicense.LicenseRecord

open Json (Value)

def signatureMembers : Option String → List (String × Value)
  | none => []
  | some signature => [(signatureMember, .string signature)]

def members (record : LicenseRecord) : List (String × Value) :=
  (expirationMember, .integer record.expiration.toInt) ::
    (issuedToMember, .string record.issuedTo) :: signatureMembers record.signature

theorem stored_eq (record : LicenseRecord) :
    record.stored = (Value.object record.members).compact := by
  obtain ⟨expiration, issuedTo, signature⟩ := record
  cases signature with
  | none => rfl
  | some signature => rfl

/-- The length of the stored form by its parts.  Whether a record fits is decided from this, without
writing it. -/
theorem length_stored (record : LicenseRecord) :
    record.stored.length = (Decimal.ofInt record.expiration.toInt).length +
      (Json.quoted record.issuedTo).length +
        (record.signature.elim 0 fun signature => (Json.quoted signature).length + 13) + 35 := by
  have hexpirationMember : (Json.quoted expirationMember).length = 20 := by decide +kernel
  have hissuedToMember : (Json.quoted issuedToMember).length = 10 := by decide +kernel
  have hsignatureMember : (Json.quoted signatureMember).length = 11 := by decide +kernel
  obtain ⟨expiration, issuedTo, signature⟩ := record
  rw [stored_eq, Value.compact]
  cases signature with
  | none =>
    simp only [members, signatureMembers, Value.compactMembers, Value.compact, Option.elim,
      List.length_append, List.length_cons, List.length_nil, hexpirationMember, hissuedToMember]
    omega
  | some signature =>
    simp only [members, signatureMembers, Value.compactMembers, Value.compact, Option.elim,
      List.length_append, List.length_cons, List.length_nil, hexpirationMember, hissuedToMember,
      hsignatureMember]
    omega

theorem describes_members (record : LicenseRecord) :
    Describes (record.members.map Value.written) record := by
  obtain ⟨expiration, issuedTo, signature⟩ := record
  cases signature with
  | none => exact ⟨rfl, ⟨_, Json.quotes_quoted issuedTo, rfl⟩, .missing⟩
  | some signature =>
    have hsignature := Json.quotes_quoted signature
    exact ⟨rfl, ⟨_, Json.quotes_quoted issuedTo, rfl⟩, .written (.value hsignature)⟩

theorem tells_stored (record : LicenseRecord) : Tells record.stored record := by
  have hobject := Value.isObject_compact record.members
  refine ⟨[], _, [], _, Json.blanks_nil, Json.blanks_nil, hobject, describes_members record, ?_⟩
  rw [stored_eq, List.append_nil, List.nil_append]

/-- The stored form is one of the many payloads that tell what the record says, so it is parsed as
the record. -/
theorem parse_stored (record : LicenseRecord) : parse record.stored = .ok record :=
  parse_of_tells (tells_stored record)

/-- **A stored record parses back to itself**, field by field; so what its signature covers is the
same as well.  No holder is an exception, whatever has to be escaped in it. -/
theorem stored_record_parses_back (record : LicenseRecord) :
    ∃ found, parse record.stored = .ok found ∧ found.expiration = record.expiration ∧
      found.issuedTo = record.issuedTo ∧ found.signature = record.signature ∧
      found.signingBytes = record.signingBytes :=
  ⟨record, parse_stored record, rfl, rfl, rfl, rfl⟩

end ClusterLicense.LicenseRecord
