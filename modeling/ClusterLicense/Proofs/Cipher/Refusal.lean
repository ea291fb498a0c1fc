/-
  ClusterLicense/Proofs/Cipher/Refusal.lean
  =========================================
  **Which octets are no ciphertext, and that all of them are refused.**

  Decryption undoes encryption and accepts nothing else (`decrypt_eq_ok_iff`), so
  the octets that encrypt no payload are those that are refused.  There are five
  ways to be refused.  Two show in the length; the other three show only once the
  blocks have been deciphered, in the octets that ought to be padding (`Broken`).
-/
import ClusterLicense.Proofs.Cipher.SymmetricKey

namespace ClusterLicense

namespace Padding

variable {size : Nat} {padded : Bytes}

inductive Broken (size : Nat) (padded : Bytes) : Prop where
  /-- The last octet tells that there is no padding. -/
  | zero (h : padded.getLast? = some 0)
  /-- The last octet tells of more padding than there ever is. -/
  | overlong (last : UInt8) (h : padded.getLast? = some last) (hlong : size < last.toNat)
  /-- An octet of the padding is not like the last one. -/
  | inconsistent (last other : UInt8) (h : padded.getLast? = some last)
      (hmem : other ∈ padded.drop (padded.length - last.toNat)) (hne : other ≠ last)

theorem size_le_length (haligned : padded.length % size = 0) (hne : padded ≠ []) :
    size ≤ padded.length :=
  Nat.le_of_dvd (List.length_pos_iff.mpr hne) (Nat.dvd_of_mod_eq_zero haligned)

/-- If the padding cannot be taken off, then the last octet counts no padding, or one of the octets
that it counts is not like it. -/
theorem broken_of_remove?_eq_none (haligned : padded.length % size = 0) (hne : padded ≠ [])
    (h : remove? size padded = none) : Broken size padded := by
  obtain ⟨last, hlast⟩ : ∃ last, padded.getLast? = some last :=
    ⟨_, List.getLast?_eq_some_getLast hne⟩
  simp only [remove?, hlast, ite_eq_right_iff, reduceCtorEq, imp_false] at h
  by_cases hzero : last.toNat = 0
  · have hnothing : last = 0 := UInt8.toNat_inj.mp hzero
    exact .zero (hnothing ▸ hlast)
  · by_cases hlong : size < last.toNat
    · exact .overlong last hlast hlong
    · have hfits : last.toNat ≤ padded.length := by
        have hblock := size_le_length haligned hne
        omega
      have hsome : ∃ other ∈ padded.drop (padded.length - last.toNat), other ≠ last := by
        by_contra hall
        refine h ⟨Nat.pos_of_ne_zero hzero, Nat.not_lt.mp hlong, hfits, ?_⟩
        simpa using hall
      obtain ⟨other, hmem, hother⟩ := hsome
      exact .inconsistent last other hlast hmem hother

theorem remove?_of_broken (h : Broken size padded) : remove? size padded = none := by
  cases h with
  | zero hlast => simp [remove?, hlast]
  | overlong last hlast hlong =>
    simp only [remove?, hlast]
    refine if_neg ?_
    rintro ⟨-, hle, -⟩
    omega
  | inconsistent last other hlast hmem hne =>
    simp only [remove?, hlast]
    refine if_neg ?_
    rintro ⟨-, -, -, hall⟩
    have hsame := List.all_eq_true.mp hall other hmem
    exact hne (eq_of_beq hsame)

end Padding

namespace SymmetricKey

variable {key : SymmetricKey} {ciphertext : Bytes}

/-- What can be wrong with octets that ought to be a ciphertext under the key. -/
inductive Unfit (key : SymmetricKey) (ciphertext : Bytes) : Prop where
  | empty (h : ciphertext = [])
  /-- The octets fill no whole number of blocks. -/
  | unaligned (h : ciphertext.length % blockSize ≠ 0)
  /-- What the blocks hide does not end in padding. -/
  | unpadded (h : Padding.Broken blockSize (key.deciphered ciphertext))

theorem deciphered_ne_nil (haligned : ciphertext.length % blockSize = 0) (hne : ciphertext ≠ []) :
    key.deciphered ciphertext ≠ [] := by
  have hlength := congrArg List.length (Aes.flatMap_blocks haligned)
  rw [Aes.length_flatMap_toBytes] at hlength
  have hpos := List.length_pos_iff.mpr hne
  rw [← List.length_pos_iff, deciphered, Aes.length_flatMap_toBytes, List.length_map]
  omega

theorem decrypt_eq_error (h : ∀ payload, key.decrypt ciphertext ≠ .ok payload) :
    ∃ detail, key.decrypt ciphertext = .error (.decryption detail) := by
  unfold decrypt at h ⊢
  split
  · exact ⟨_, rfl⟩
  · rename_i hshape
    simp only [if_neg hshape] at h ⊢
    split
    · rename_i payload hremove
      simp only [hremove] at h
      exact absurd rfl (h payload)
    · exact ⟨_, rfl⟩

/-- Octets are no ciphertext of anything exactly if they are unfit: not a whole number of blocks,
none at all, or with a padding that is broken once they are deciphered.  The first two can be seen
without the key. -/
theorem ne_encrypt_iff_unfit :
    (∀ payload, ciphertext ≠ key.encrypt payload) ↔ key.Unfit ciphertext := by
  simp only [Ne, ← decrypt_eq_ok_iff, decrypt_eq_ok_iff_remove?, not_and]
  constructor
  · intro h
    by_cases hne : ciphertext = []
    · exact .empty hne
    · by_cases haligned : ciphertext.length % blockSize = 0
      · refine .unpadded (Padding.broken_of_remove?_eq_none (length_deciphered_mod key ciphertext)
          (deciphered_ne_nil haligned hne) ?_)
        rw [Option.eq_none_iff_forall_ne_some]
        exact fun payload => h payload hne haligned
      · exact .unaligned haligned
  · intro h payload hne haligned hremove
    cases h with
    | empty hempty => exact hne hempty
    | unaligned hunaligned => exact hunaligned haligned
    | unpadded hbroken =>
      rw [Padding.remove?_of_broken hbroken] at hremove
      cases hremove

/-- **Decryption is exactly the inverse of encryption.**  A ciphertext decrypts to a payload if
and only if it is the encryption of that payload, which has the next whole number of blocks.  All
other octets, and those are the unfit ones, are refused. -/
theorem decrypt_inverts_encrypt (key : SymmetricKey) :
    (∀ payload ciphertext,
      key.decrypt ciphertext = .ok payload ↔ ciphertext = key.encrypt payload) ∧
    (∀ payload, (key.encrypt payload).length = (payload.length / blockSize + 1) * blockSize) ∧
    (∀ ciphertext, (∀ payload, ciphertext ≠ key.encrypt payload) ↔ key.Unfit ciphertext) ∧
    (∀ ciphertext, key.Unfit ciphertext ↔
      ∃ detail, key.decrypt ciphertext = .error (.decryption detail)) := by
  refine ⟨?_, ?_, ?_, ?_⟩
  · intro payload ciphertext
    exact decrypt_eq_ok_iff
  · intro payload
    rw [length_encrypt, Nat.mul_comm]
  · intro ciphertext
    exact ne_encrypt_iff_unfit
  · intro ciphertext
    rw [← ne_encrypt_iff_unfit]
    constructor
    · intro h
      refine decrypt_eq_error fun payload hok => ?_
      exact h payload (decrypt_eq_ok_iff.mp hok)
    · rintro ⟨detail, herror⟩ payload hencrypt
      rw [decrypt_eq_ok_iff.mpr hencrypt] at herror
      cases herror

end SymmetricKey

end ClusterLicense
