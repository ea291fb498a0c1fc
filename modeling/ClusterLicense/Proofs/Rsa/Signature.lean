/-
  ClusterLicense/Proofs/Rsa/Signature.lean
  ========================================
  **A signature fixes the digest of what it signs.**

  A signature raised to the public exponent is one block, and a block ends in the
  digest of the message that it is for.  So a signature of two messages is a
  signature of two messages with one digest.
-/
import ClusterLicense.Rsa.Signature

namespace ClusterLicense

namespace Sha2

theorem State.length_toBytes {w : Nat} (s : State w) : s.toBytes.length = 8 * (w / 8) := by
  simp only [State.toBytes, List.flatMap_cons, List.flatMap_nil, List.length_append, wordBytes,
    Bytes.length_ofNat, List.length_nil]
  omega

@[simp] theorem length_sha512 (message : Bytes) : (sha512 message).length = 64 :=
  State.length_toBytes _

end Sha2

namespace Rsa

variable {key : PublicKey} {message other signature block : Bytes}

theorem signedBlock?_suffix {size : Nat} (h : signedBlock? size message = some block) :
    ∃ front, block = front ++ Sha2.sha512 message := by
  simp only [signedBlock?] at h
  split at h
  · obtain rfl := Option.some.inj h
    rw [← List.append_assoc _ digestHeader]
    exact ⟨_, rfl⟩
  · cases h

/-- A block ends in the digest of its message, so messages with one block have one digest.  The
front of the block says nothing about the message. -/
theorem sha512_eq_of_signedBlock? {size : Nat} (h : signedBlock? size message = some block)
    (hother : signedBlock? size other = some block) :
    Sha2.sha512 message = Sha2.sha512 other := by
  obtain ⟨front, rfl⟩ := signedBlock?_suffix h
  obtain ⟨front', hfront⟩ := signedBlock?_suffix hother
  have hlength : (Sha2.sha512 message).length = (Sha2.sha512 other).length := by
    rw [Sha2.length_sha512, Sha2.length_sha512]
  exact (List.append_inj' hfront hlength).2

/-- A signature verifies exactly if it has the size of the modulus, is a number below it, and turns
into the whole block of the message.  No part of the block is passed over, so there is no room for a
forged one with other padding. -/
theorem PublicKey.verify_eq_true_iff :
    key.verify message signature = true ↔
      signature.length = key.size ∧ Bytes.toNat signature < key.modulus ∧
        signedBlock? key.size message =
          some (Bytes.ofNat key.size (key.apply (Bytes.toNat signature))) := by
  simp only [verify, Bool.and_eq_true, decide_eq_true_eq, and_assoc]

/-- A signature that verifies for two messages comes from one block, and so the messages have the
same digest.  This holds of every key, whether or not its numbers are what they should be. -/
theorem PublicKey.sha512_eq_of_verify (h : key.verify message signature = true)
    (hother : key.verify other signature = true) : Sha2.sha512 message = Sha2.sha512 other :=
  sha512_eq_of_signedBlock? (verify_eq_true_iff.mp h).2.2 (verify_eq_true_iff.mp hother).2.2

end Rsa

end ClusterLicense
