/-
  ClusterLicense/Proofs/Rsa/Recovery.lean
  =======================================
  **The public exponent undoes the private one** if the factors are different primes.

  Both exponents together count one modulo each factor less one, and so leave every
  number as it is modulo each factor, multiples of the factor included.  The private
  operation gives the same remainders whether it works modulo each factor or not
  (`apply_modEq`), and two remainders settle a number below the modulus.

  A block is below the modulus, as it begins with a zero and has as many octets.  So
  the only thing that can keep such a key from signing is that it is too short.
-/
import Mathlib.FieldTheory.Finite.Basic
import ClusterLicense.Proofs.Arithmetic.Inverse
import ClusterLicense.Proofs.Rsa.Signing

namespace ClusterLicense

namespace Arithmetic

/-! ### Powers -/

/-- Fermat's theorem, for an exponent that is 1 modulo `p - 1`.  Numbers that `p` divides are no
exception, since both sides are then 0. -/
theorem pow_modEq_of_prime {p k : Nat} (hp : p.Prime) (hk : k % (p - 1) = 1) (c : Nat) :
    c ^ k ≡ c [MOD p] := by
  have := Fact.mk hp
  rw [← ZMod.natCast_eq_natCast_iff, Nat.cast_pow]
  by_cases hc : (c : ZMod p) = 0
  · have hpos : k ≠ 0 := by
      rintro rfl
      rw [Nat.zero_mod] at hk
      omega
    rw [hc, zero_pow hpos]
  · rw [← Nat.div_add_mod k (p - 1), hk, pow_succ, pow_mul, ZMod.pow_card_sub_one_eq_one hc,
      one_pow, one_mul]

end Arithmetic

namespace Rsa

variable {key : PrivateKey} {message block : Bytes}

/-! ### The private operation -/

/-- Garner's recombination is right modulo the first factor: the multiple of `q` that is added makes
up for the difference of the two residues.  Modulo `q` it adds nothing, which is why the second
residue needs no such lemma. -/
theorem PrivateKey.combine_modEq {p q coefficient : Nat} (hp : 0 < p)
    (hcoefficient : coefficient * q ≡ 1 [MOD p]) (m₁ m₂ : Nat) :
    m₂ + q * ((((m₁ : Int) - m₂) % p).toNat * coefficient % p) ≡ m₁ [MOD p] := by
  have hdifference : ((((m₁ : Int) - m₂) % p).toNat : Int) ≡ m₁ - m₂ [ZMOD p] := by
    rw [Int.toNat_of_nonneg (Int.emod_nonneg _ (by omega))]
    exact Int.mod_modEq _ _
  generalize (((m₁ : Int) - m₂) % p).toNat = difference at hdifference ⊢
  have hproduct : q * (difference * coefficient % p) ≡ difference [MOD p] :=
    calc q * (difference * coefficient % p) ≡ q * (difference * coefficient) [MOD p] :=
        (Nat.mod_modEq _ _).mul_left _
      _ = coefficient * q * difference := by ring
      _ ≡ 1 * difference [MOD p] := hcoefficient.mul_right _
      _ = difference := Nat.one_mul _
  rw [← Int.natCast_modEq_iff] at hproduct ⊢
  rw [Nat.cast_add]
  calc (m₂ : Int) + (q * (difference * coefficient % p) : Nat) ≡ m₂ + difference [ZMOD p] :=
      hproduct.add_left _
    _ ≡ m₂ + (m₁ - m₂) [ZMOD p] := hdifference.add_left _
    _ = m₁ := by ring

/-- Modulo each factor, the private operation raises to an exponent that undoes the public one.
This is what the check of a private key asserts of its exponent, for either factor less one. -/
theorem PrivateKey.apply_modEq (hvalid : key.IsValid) (c : Nat) :
    (∃ k, k * key.publicKey.exponent % (key.p - 1) = 1 ∧ key.apply c ≡ c ^ k [MOD key.p]) ∧
      ∃ k, k * key.publicKey.exponent % (key.q - 1) = 1 ∧ key.apply c ≡ c ^ k [MOD key.q] := by
  obtain ⟨-, hp, hq, hfactors, hundoneP, hundoneQ⟩ := hvalid
  cases hcoefficient : key.coefficient? with
  | none =>
    have happly : key.apply c ≡ c ^ key.exponent [MOD key.p * key.q] := by
      rw [apply, hcoefficient, hfactors]
      simp only [Arithmetic.powMod_eq]
      exact Nat.mod_modEq _ _
    exact ⟨⟨_, hundoneP, happly.of_mul_right _⟩, ⟨_, hundoneQ, happly.of_mul_left _⟩⟩
  | some coefficient =>
    obtain ⟨-, hinverse⟩ := Arithmetic.inverse?_spec (by omega) hcoefficient
    rw [apply, hcoefficient]
    simp only [Arithmetic.powMod_eq]
    refine ⟨⟨key.exponentP, ?_, ?_⟩, ⟨key.exponentQ, ?_, ?_⟩⟩
    · rw [exponentP, Nat.mod_mul_mod, hundoneP]
    · exact (combine_modEq (by omega) hinverse _ _).trans (Nat.mod_modEq _ _)
    · rw [exponentQ, Nat.mod_mul_mod, hundoneQ]
    · have hmultiple (m n : Nat) : m + key.q * n ≡ m [MOD key.q] :=
        Nat.add_modulus_mul_modEq_iff.mpr rfl
      exact (hmultiple _ _).trans (Nat.mod_modEq _ _)

/-- **The public exponent undoes the private one** on numbers below the modulus.  It does so modulo
either factor by Fermat's theorem, and the factors are different primes, so it does so modulo their
product. -/
theorem PrivateKey.apply_apply (hvalid : key.IsValid) (hp : key.p.Prime) (hq : key.q.Prime)
    (hne : key.p ≠ key.q) {c : Nat} (hc : c < key.publicKey.modulus) :
    key.publicKey.apply (key.apply c) = c := by
  have hundone {factor k : Nat} (hfactor : factor.Prime)
      (hk : k * key.publicKey.exponent % (factor - 1) = 1)
      (happly : key.apply c ≡ c ^ k [MOD factor]) :
      key.apply c ^ key.publicKey.exponent ≡ c [MOD factor] :=
    calc key.apply c ^ key.publicKey.exponent ≡ (c ^ k) ^ key.publicKey.exponent [MOD factor] :=
        happly.pow _
      _ = c ^ (k * key.publicKey.exponent) := (pow_mul _ _ _).symm
      _ ≡ c [MOD factor] := Arithmetic.pow_modEq_of_prime hfactor hk c
  obtain ⟨⟨j, hj, happlyP⟩, ⟨k, hk, happlyQ⟩⟩ := apply_modEq hvalid c
  have hcoprime : key.p.Coprime key.q := (Nat.coprime_primes hp hq).mpr hne
  have hboth := (Nat.modEq_and_modEq_iff_modEq_mul hcoprime).mp
    ⟨hundone hp hj happlyP, hundone hq hk happlyQ⟩
  obtain ⟨-, -, -, hfactors, -, -⟩ := hvalid
  rw [PublicKey.apply, Arithmetic.powMod_eq, ← hfactors, hboth, hfactors]
  exact Nat.mod_eq_of_lt hc

/-! ### Blocks -/

def leastSize : Nat := 94

/-- There is no room for a block exactly if the modulus has fewer octets than the digest, its header
and eleven octets of padding; what is signed does not matter. -/
theorem signedBlock?_eq_none_iff (size : Nat) (message : Bytes) :
    signedBlock? size message = none ↔ size < leastSize := by
  have hbody : (digestHeader ++ Sha2.sha512 message).length = 83 := by
    rw [List.length_append, Sha2.length_sha512]
    rfl
  simp only [signedBlock?, hbody, leastFilling, leastSize, ite_eq_right_iff, reduceCtorEq,
    imp_false]
  omega

theorem PublicKey.le_modulus {key : PublicKey} (hpos : key.modulus ≠ 0) :
    256 ^ (key.size - 1) ≤ key.modulus := by
  have hbits : 8 * (key.size - 1) ≤ key.modulus.log2 := by
    rw [size]
    omega
  calc 256 ^ (key.size - 1) = 2 ^ (8 * (key.size - 1)) := by rw [Nat.pow_mul]
    _ ≤ 2 ^ key.modulus.log2 := Nat.pow_le_pow_right (by omega) hbits
    _ ≤ key.modulus := Nat.log2_self_le hpos

/-- A block begins with a zero octet, so as a number it is below every modulus with as many octets.
-/
theorem toNat_signedBlock?_lt {key : PublicKey} (hpos : key.modulus ≠ 0)
    (h : signedBlock? key.size message = some block) : Bytes.toNat block < key.modulus := by
  have hlength := length_signedBlock? h
  obtain ⟨rest, rfl⟩ : ∃ rest, block = 0 :: rest := by
    simp only [signedBlock?] at h
    split at h
    · exact ⟨_, (Option.some.inj h).symm⟩
    · cases h
  have hrest : rest.length = key.size - 1 := by
    rw [← hlength, List.length_cons, Nat.add_sub_cancel]
  calc Bytes.toNat (0 :: rest) = Bytes.toNat rest := by rw [Bytes.toNat_cons]; simp
    _ < 256 ^ rest.length := Bytes.toNat_lt rest
    _ ≤ key.modulus := by rw [hrest]; exact PublicKey.le_modulus hpos

/-- A key with different primes as factors signs everything, unless it is too short.  The public
exponent undoes the private one there, so the check of a new signature cannot fail. -/
theorem PrivateKey.sign_of_primes (hvalid : key.IsValid) (hp : key.p.Prime) (hq : key.q.Prime)
    (hne : key.p ≠ key.q) (message : Bytes) :
    (∃ signature, key.sign message = .ok signature) ↔ leastSize ≤ key.publicKey.size := by
  rw [← Nat.not_lt, ← signedBlock?_eq_none_iff _ message]
  constructor
  · rintro ⟨signature, hsign⟩ hnone
    obtain ⟨block, hblock, -⟩ := sign_eq_ok_iff.mp hsign
    cases hnone.symm.trans hblock
  · intro hsome
    obtain ⟨block, hblock⟩ := Option.ne_none_iff_exists'.mp hsome
    have hpos : key.publicKey.modulus ≠ 0 := by
      obtain ⟨-, -, -, hfactors, -, -⟩ := hvalid
      rw [← hfactors]
      exact Nat.mul_ne_zero hp.ne_zero hq.ne_zero
    have hundone := apply_apply hvalid hp hq hne (toNat_signedBlock?_lt hpos hblock)
    exact ⟨_, sign_eq_ok_iff.mpr ⟨block, hblock, hundone, rfl⟩⟩

end Rsa

end ClusterLicense
