/-
  ClusterLicense/Proofs/Rsa/Signing.lean
  ======================================
  **What is signed with a private key verifies with its public half.**

  The factors of an imported key need not be prime, so raising a block to the
  private exponent need not be undone by the public one; but then no signature is
  given away.  What is left to show is that a signature that is given away has the
  form that verification asks for: its number is below the modulus, and the modulus
  fits into as many octets as a signature has.
-/
import ClusterLicense.Proofs.Arithmetic.Modular
import ClusterLicense.Proofs.Bytes.BigEndian
import ClusterLicense.Proofs.Rsa.Signature
import Mathlib.Data.Option.Basic

namespace ClusterLicense.Rsa

variable {key : PrivateKey} {message signature block : Bytes}

/-! ### Sizes -/

theorem PublicKey.modulus_lt (key : PublicKey) : key.modulus < 256 ^ key.size := by
  have hsize : key.size = Bytes.width key.modulus := Nat.add_div_right _ (by decide)
  rw [hsize]
  exact Bytes.lt_weight_width key.modulus

theorem length_signedBlock? {size : Nat} (h : signedBlock? size message = some block) :
    block.length = size := by
  simp only [signedBlock?] at h
  split at h
  · rename_i hroom
    obtain rfl := Option.some.inj h
    simp only [List.length_append, List.length_cons, List.length_nil, List.length_replicate]
      at hroom ⊢
    omega
  · cases h

/-! ### The private operation -/

theorem PrivateKey.apply_lt (hvalid : key.IsValid) (c : Nat) :
    key.apply c < key.publicKey.modulus := by
  obtain ⟨hpublic, hp, hq, hfactors, -, -⟩ := hvalid
  cases hcoefficient : key.coefficient? with
  | none =>
    have hpositive : 0 < key.publicKey.modulus := by
      rw [← hfactors]
      exact Nat.mul_pos (by omega) (by omega)
    rw [apply, hcoefficient]
    simp only [Arithmetic.powMod_eq]
    exact Nat.mod_lt _ hpositive
  | some coefficient =>
    rw [apply, hcoefficient, ← hfactors]
    simp only [Arithmetic.powMod_eq]
    -- What the difference is does not matter: it is reduced modulo the first factor.
    generalize (((c ^ key.exponentP % key.p : Nat) : Int) -
      (c ^ key.exponentQ % key.q : Nat)) % key.p = difference
    have hsecond : c ^ key.exponentQ % key.q < key.q := Nat.mod_lt _ (by omega)
    have hfirst : difference.toNat * coefficient % key.p + 1 ≤ key.p := Nat.mod_lt _ (by omega)
    calc c ^ key.exponentQ % key.q + key.q * (difference.toNat * coefficient % key.p)
        < key.q * (difference.toNat * coefficient % key.p + 1) := by rw [Nat.mul_succ]; omega
      _ ≤ key.q * key.p := Nat.mul_le_mul_left _ hfirst
      _ = key.p * key.q := Nat.mul_comm _ _

/-- A key signs exactly if there is room for the block and its own public half turns the signature
into that block again.  The second condition is the check that guards against faults; it is what
makes every signature verify. -/
theorem PrivateKey.sign_eq_ok_iff :
    key.sign message = .ok signature ↔
      ∃ block, signedBlock? key.publicKey.size message = some block ∧
        key.publicKey.apply (key.apply (Bytes.toNat block)) = Bytes.toNat block ∧
        signature = Bytes.ofNat key.publicKey.size (key.apply (Bytes.toNat block)) := by
  cases hblock : signedBlock? key.publicKey.size message with
  | none => simp [sign, hblock]
  | some block =>
    by_cases hundone : key.publicKey.apply (key.apply (Bytes.toNat block)) = Bytes.toNat block
    · simp [sign, hblock, hundone, eq_comm]
    · simp [sign, hblock, hundone]

/-- What a valid key signs verifies with its public half, whether or not its factors are primes,
because signing has already checked it. -/
theorem PrivateKey.verify_of_sign (hvalid : key.IsValid)
    (hsign : key.sign message = .ok signature) :
    key.publicKey.verify message signature = true := by
  obtain ⟨block, hblock, hundone, rfl⟩ := sign_eq_ok_iff.mp hsign
  have hbelow := apply_lt hvalid (Bytes.toNat block)
  have hnumber : Bytes.toNat (Bytes.ofNat key.publicKey.size (key.apply (Bytes.toNat block))) =
      key.apply (Bytes.toNat block) := by
    rw [Bytes.toNat_ofNat]
    exact Nat.mod_eq_of_lt (hbelow.trans key.publicKey.modulus_lt)
  rw [PublicKey.verify_eq_true_iff, hnumber, hundone, ← length_signedBlock? hblock,
    Bytes.ofNat_toNat, length_signedBlock? hblock]
  exact ⟨Bytes.length_ofNat _ _, hbelow, hblock⟩

/-! ### Imported keys -/

theorem PrivateKey.isValid_of_ofNumbers? {bytes : Bytes} (h : ofNumbers? bytes = some key) :
    key.IsValid := by
  unfold ofNumbers? at h
  iterate 11 obtain ⟨_, -, h⟩ := Option.bind_eq_some_iff.mp h
  obtain ⟨_, hguard, h⟩ := Option.bind_eq_some_iff.mp h
  obtain rfl := Option.some.inj h
  exact (Option.guard_eq_some' _).mp hguard

theorem PrivateKey.isValid_of_decode? {bytes : Bytes} (h : decode? bytes = some key) :
    key.IsValid := by
  unfold decode? at h
  iterate 9 obtain ⟨_, -, h⟩ := Option.bind_eq_some_iff.mp h
  exact isValid_of_ofNumbers? h

theorem PrivateKey.isValid_of_decode {bytes : Bytes} (h : decode bytes = .ok key) :
    key.IsValid := by
  rw [decode] at h
  split at h
  · obtain rfl := Except.ok.inj h
    exact isValid_of_decode? (by assumption)
  · cases h

end ClusterLicense.Rsa
