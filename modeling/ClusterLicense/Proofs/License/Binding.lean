/-
  ClusterLicense/Proofs/License/Binding.lean
  ==========================================
  **A signature binds the expiration and the holder.**

  The authority's signature of a record fixes the SHA-512 digest of what was
  signed, which is itself the SHA-256 digest of the record without its signature.
  A second record under the same signature therefore has the same two digests:
  either its signed form is the same, and with it everything that it says, or the
  two signed forms are a collision that can be exhibited.
-/
import ClusterLicense.Proofs.Arithmetic.Modular
import ClusterLicense.Proofs.License.Acceptance
import ClusterLicense.Proofs.License.Record
import ClusterLicense.Proofs.Rsa.Signature

namespace ClusterLicense.Verifier

/-- Different octets with the same digest of their digest. -/
def Collide (a b : Bytes) : Prop :=
  a ≠ b ∧ Sha2.sha512 (Sha2.sha256 a) = Sha2.sha512 (Sha2.sha256 b)

/-- A signature that is good for two records was made for one block, so both records have the same
digest of their digest.  What the signature was made with does not matter. -/
theorem sha512_signedDigest_eq {verifier : Verifier} {first second : LicenseRecord}
    (hsame : first.signature = second.signature)
    (hfirst : verifier.verifySignature first = true)
    (hsecond : verifier.verifySignature second = true) :
    Sha2.sha512 (signedDigest first) = Sha2.sha512 (signedDigest second) := by
  obtain ⟨signature, hsignature, hverify⟩ := verifySignature_eq_true_iff.mp hfirst
  obtain ⟨other, hother, hverifyOther⟩ := verifySignature_eq_true_iff.mp hsecond
  have htexts : Base64.text signature = Base64.text other := by
    rw [← Option.some.injEq, ← hsignature, ← hother, hsame]
  obtain rfl := Base64.text_injective htexts
  exact Rsa.PublicKey.sha512_eq_of_verify hverify hverifyOther

/-- **Nothing that a record says can be changed under its signature** without exhibiting a
collision.  Records that say different things have different octets to sign, and by
`sha512_signedDigest_eq` these have one digest of their digest. -/
theorem signature_binds_expiration_and_holder (verifier : Verifier)
    (first second : LicenseRecord) (hsame : first.signature = second.signature)
    (hfirst : verifier.verifySignature first = true)
    (hsecond : verifier.verifySignature second = true) :
    (first.expiration = second.expiration ∧ first.issuedTo = second.issuedTo) ∨
      Collide first.signingBytes second.signingBytes := by
  have hdigests := sha512_signedDigest_eq hsame hfirst hsecond
  by_cases hsigned : first.signingBytes = second.signingBytes
  · exact .inl (LicenseRecord.signingBytes_inj.mp hsigned)
  · exact .inr ⟨hsigned, hdigests⟩

/-! ### A record with its signature

The modulus has 768 bits, close to the fewest that leave room for a block. -/

def sampleKey : Rsa.PublicKey where
  modulus :=
    0xD68A46A5F140E136C1903632372340EAA151A61C786A14F71B93057C69BB4E9D4B6AF29CF5FAE054B45FD2A4B2CAEB11E143DBEE649F927441D9FDD26AF13369324C49799F7C3A7AA9C5EF4DE780B1F18CF4793FBAE6A8C4D4F85A5D1A66E687
  exponent := 3

def sampleSignature : Bytes := Bytes.ofNat 96
  0x4464CF9D265448C9910068C8ED848C3966B96F9E12572348CB0EE2787915370382C253A5EC76D5BD72B1D0DE634AC6A96CFCB1F2BB382D0DD08CF09B2663AFB3924D325CFFF91EFB605B46EC5E189F3B7F2218D0525019F5D294DC5B56C55EB6

def sampleRecord : LicenseRecord :=
  ⟨1735689600000, "acme", some (Base64.text sampleSignature)⟩

theorem verify_sampleSignature :
    sampleKey.verify (signedDigest sampleRecord) sampleSignature = true := by
  rw [Rsa.PublicKey.verify_eq_true_iff, Rsa.PublicKey.apply, Arithmetic.powMod_eq]
  decide +kernel

def sampleVerifier : Verifier := ⟨.shipped, sampleKey⟩

theorem verifySignature_sampleRecord : sampleVerifier.verifySignature sampleRecord = true :=
  verifySignature_eq_true_iff.mpr ⟨sampleSignature, rfl, verify_sampleSignature⟩

theorem signature_binds_sampleRecord :
    sampleVerifier.verifySignature sampleRecord = true ∧
      ((sampleRecord.expiration = sampleRecord.expiration ∧
        sampleRecord.issuedTo = sampleRecord.issuedTo) ∨
        Collide sampleRecord.signingBytes sampleRecord.signingBytes) :=
  ⟨verifySignature_sampleRecord, signature_binds_expiration_and_holder sampleVerifier
    sampleRecord sampleRecord rfl verifySignature_sampleRecord verifySignature_sampleRecord⟩

end ClusterLicense.Verifier
