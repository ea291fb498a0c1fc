/-
  ClusterLicense/Proofs/License/Signing.lean
  ==========================================
  **What signing gives away is a record that verifies.**

  Signing and verifying hash the same octets, and a signature that a record carries
  already is not among them.  So the outcome depends on the expiration, the holder
  and the key only; and since a signature is checked before it is given away, it
  verifies with the public half of every key that can be imported.

  That there is an outcome at all depends on the key: `Rsa.PrivateKey.sign_of_primes`
  tells which keys sign everything.
-/
import Mathlib.NumberTheory.LucasPrimality
import ClusterLicense.Proofs.Authority.Issue
import ClusterLicense.Proofs.License.Record
import ClusterLicense.Proofs.Rsa.Recovery

namespace ClusterLicense

namespace LicenseRecord

variable {record signed : LicenseRecord} {key : Rsa.PrivateKey}

/-- A signature that a record carries is not among the octets that are signed, so signing again
gives the same signature. -/
theorem sign_replacing (record : LicenseRecord) (other : Option String) (key : Rsa.PrivateKey) :
    LicenseRecord.sign { record with signature := other } key = record.sign key := by
  have hbytes : ({ record with signature := other } : LicenseRecord).signingBytes =
      record.signingBytes := signingBytes_inj.mpr ⟨rfl, rfl⟩
  unfold sign Verifier.signedDigest
  rw [hbytes]

/-- Signing fails for reasons that lie with the key: the block does not fit its modulus, or its
halves do not belong together. -/
theorem sign_eq_error {cause : LicenseError} (h : record.sign key = .error cause) :
    ∃ detail, cause = .keyMaterial (.signing detail) := by
  unfold sign at h
  cases hsign : key.sign (Verifier.signedDigest record) with
  | ok signature =>
    rw [hsign] at h
    cases h
  | error reason =>
    rw [hsign] at h
    obtain rfl := Except.error.inj h
    unfold Rsa.PrivateKey.sign at hsign
    dsimp only at hsign
    split at hsign
    · exact ⟨_, congrArg _ (Except.error.inj hsign).symm⟩
    · split_ifs at hsign
      exact ⟨_, congrArg _ (Except.error.inj hsign).symm⟩

/-- **What signing gives away verifies.**  A signed record says what the record said, is the same
whatever signature the record carried before, and verifies with the public half of the key; if
there is none, the key is blamed; and a key whose factors are different primes signs every record
if and only if it is long enough. -/
theorem signed_record_verifies (bytes : Bytes) (key : Rsa.PrivateKey)
    (hkey : Rsa.PrivateKey.decode bytes = .ok key) (record : LicenseRecord) :
    (∀ signed, record.sign key = .ok signed →
      signed.expiration = record.expiration ∧ signed.issuedTo = record.issuedTo ∧
        (∀ other, LicenseRecord.sign { record with signature := other } key = .ok signed) ∧
        ∀ symmetricKey, (Verifier.mk symmetricKey key.publicKey).verifySignature signed = true) ∧
    (∀ cause, record.sign key = .error cause → ∃ detail, cause = .keyMaterial (.signing detail)) ∧
    (key.p.Prime → key.q.Prime → key.p ≠ key.q →
      ((∃ signed, record.sign key = .ok signed) ↔ Rsa.leastSize ≤ key.publicKey.size)) := by
  have hvalid := Rsa.PrivateKey.isValid_of_decode hkey
  refine ⟨?_, fun cause => sign_eq_error, ?_⟩
  · intro signed hsign
    have hverify := verifySignature_of_sign hvalid hsign
    obtain ⟨signature, -, rfl⟩ := sign_eq_ok_iff.mp hsign
    refine ⟨rfl, rfl, ?_, hverify⟩
    intro other
    rw [sign_replacing, hsign]
  · intro hp hq hne
    rw [← Rsa.PrivateKey.sign_of_primes hvalid hp hq hne (Verifier.signedDigest record)]
    constructor
    · rintro ⟨signed, hsign⟩
      obtain ⟨signature, hsignature, -⟩ := sign_eq_ok_iff.mp hsign
      exact ⟨signature, hsignature⟩
    · rintro ⟨signature, hsignature⟩
      exact ⟨_, sign_eq_ok_iff.mpr ⟨signature, hsignature, rfl⟩⟩

end LicenseRecord

/-! ### A key with primes

One less than each factor has no prime divisors but two and three, so Lucas's test shows that they
are prime. -/

namespace Rsa

/-- Lucas's test for numbers that are one more than three times a power of two.  The divisors of `p
- 1` to be tried are 2 and 3, and each power is computed with few squarings so that the kernel can
do it. -/
theorem prime_of_lucas {p k a squarings : Nat} (hp : p = 3 * 2 ^ (k + 1) + 1)
    (hbound : p < 2 ^ squarings)
    (hone : Arithmetic.powModIn squarings a (3 * 2 ^ (k + 1)) p = 1)
    (hhalf : Arithmetic.powModIn squarings a (3 * 2 ^ k) p ≠ 1)
    (hthird : Arithmetic.powModIn squarings a (2 ^ (k + 1)) p ≠ 1) : p.Prime := by
  have hpos := Nat.two_pow_pos (k + 1)
  have hpower {n : Nat} (hn : n ≤ 3 * 2 ^ (k + 1)) :
      (a : ZMod p) ^ n = 1 ↔ Arithmetic.powModIn squarings a n p = 1 := by
    have hcast := ZMod.natCast_eq_natCast_iff' (a ^ n) 1 p
    rw [Nat.cast_pow, Nat.cast_one, Nat.one_mod_eq_one.mpr (by omega)] at hcast
    rw [← Arithmetic.powMod_eq_powModIn squarings _ _ _ (by omega), Arithmetic.powMod_eq]
    exact hcast
  have hless : p - 1 = 3 * 2 ^ (k + 1) := by omega
  apply lucas_primality p (a : ZMod p)
  · rw [hless]
    exact (hpower le_rfl).mpr hone
  · rw [hless]
    intro divisor hprime hdivides
    rcases hprime.dvd_mul.mp hdivides with hthree | htwo
    · obtain rfl := (Nat.prime_dvd_prime_iff_eq hprime Nat.prime_three).mp hthree
      rw [Nat.mul_div_cancel_left _ (by decide), Ne, hpower (by omega)]
      exact hthird
    · obtain rfl := (Nat.prime_dvd_prime_iff_eq hprime Nat.prime_two).mp
        (hprime.dvd_of_dvd_pow htwo)
      have hsplit : 3 * 2 ^ (k + 1) / 2 = 3 * 2 ^ k := by omega
      rw [hsplit, Ne, hpower (by omega)]
      exact hhalf

def primeKey : PrivateKey where
  publicKey := ⟨(3 * 2 ^ 353 + 1) * (3 * 2 ^ 408 + 1), 5⟩
  exponent := (9 * 2 ^ 408 + 1) / 5
  p := 3 * 2 ^ 353 + 1
  q := 3 * 2 ^ 408 + 1

theorem primeKey_primes : leastSize ≤ primeKey.publicKey.size ∧ primeKey.p ≠ primeKey.q ∧
    primeKey.p.Prime ∧ primeKey.q.Prime := by
  have hp : primeKey.p = 3 * 2 ^ (352 + 1) + 1 := by simp only [primeKey, Nat.reduceAdd]
  have hq : primeKey.q = 3 * 2 ^ (407 + 1) + 1 := by simp only [primeKey, Nat.reduceAdd]
  have hpBound : primeKey.p < 2 ^ 355 := by decide +kernel
  have hqBound : primeKey.q < 2 ^ 410 := by decide +kernel
  refine ⟨by decide +kernel, by decide +kernel, ?_, ?_⟩
  · apply prime_of_lucas (a := 5) hp hpBound
    all_goals decide +kernel
  · apply prime_of_lucas (a := 11) hq hqBound
    all_goals decide +kernel

def primeFile : Bytes :=
  Der.encode Der.sequenceTag (Der.encodeUnsigned firstVersion ++
    Der.encode Der.sequenceTag algorithm ++
    Der.encode Der.octetStringTag (primeKey.numbers 1))

theorem decode_primeFile : PrivateKey.decode primeFile = .ok primeKey := by
  have hfound : PrivateKey.decode? primeFile = some primeKey := by decide +kernel
  rw [PrivateKey.decode, hfound]

end Rsa

theorem LicenseRecord.signed_record_verifies_primeKey :
    Rsa.PrivateKey.decode Rsa.primeFile = .ok Rsa.primeKey ∧
      ∃ signed, LicenseRecord.sign ⟨1735689600000, "acme", some "c2ln"⟩ Rsa.primeKey = .ok signed ∧
        signed.expiration = 1735689600000 ∧ signed.issuedTo = "acme" ∧
        LicenseRecord.sign ⟨1735689600000, "acme", none⟩ Rsa.primeKey = .ok signed ∧
        (Verifier.mk .shipped Rsa.primeKey.publicKey).verifySignature signed = true := by
  obtain ⟨hsigned, -, hsigns⟩ := signed_record_verifies Rsa.primeFile Rsa.primeKey
    Rsa.decode_primeFile ⟨1735689600000, "acme", some "c2ln"⟩
  obtain ⟨hlong, hdifferent, hp, hq⟩ := Rsa.primeKey_primes
  obtain ⟨signed, hsign⟩ := (hsigns hp hq hdifferent).mpr hlong
  obtain ⟨hexpiration, hissuedTo, hagain, hverify⟩ := hsigned signed hsign
  exact ⟨Rsa.decode_primeFile, signed, hsign, hexpiration, hissuedTo, hagain none, hverify .shipped⟩

end ClusterLicense
