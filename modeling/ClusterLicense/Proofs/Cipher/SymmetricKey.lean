/-
  ClusterLicense/Proofs/Cipher/SymmetricKey.lean
  ==============================================
  **Decryption accepts exactly the ciphertexts that encryption makes.**

  Three laws compose.  Well-formed padding of a padded length is the padding that
  would have been added (`remove?_eq_some_iff`).  Octets whose number is a multiple
  of the block size are the octets of their blocks (`flatMap_blocks`,
  `blocks_flatMap`).  On each block the cipher is a bijection.  So there is one
  ciphertext for a payload under a key, and every other octet string is refused
  (`decrypt_eq_ok_iff`).
-/
import ClusterLicense.Cipher.SymmetricKey
import ClusterLicense.Proofs.Cipher.Aes

namespace ClusterLicense

/-! ### Padding -/

namespace Padding

theorem count_pos {size : Nat} (h : 0 < size) (length : Nat) : 0 < count size length :=
  Nat.sub_pos_of_lt (Nat.mod_lt length h)

theorem count_le (size length : Nat) : count size length ≤ size := Nat.sub_le _ _

/-- There is one number of octets, from one to the size, that fills a length up.  So the padding can
be told from the length of what it is put behind, and is the same when it is taken off. -/
theorem eq_count {size length n : Nat} (hpos : 0 < n) (hle : n ≤ size)
    (h : (length + n) % size = 0) : n = count size length := by
  have hr : length % size < size := Nat.mod_lt length (by omega)
  have hsum : (length % size + n) % size = 0 := by rw [Nat.mod_add_mod]; exact h
  unfold count
  by_cases hlt : length % size + n < size
  · rw [Nat.mod_eq_of_lt hlt] at hsum
    omega
  · rw [Nat.mod_eq_sub_mod (by omega)] at hsum
    by_cases heq : length % size + n - size < size
    · rw [Nat.mod_eq_of_lt heq] at hsum
      omega
    · omega

theorem length_add {size : Nat} (h : 0 < size) (bytes : Bytes) :
    (add size bytes).length = size * (bytes.length / size + 1) := by
  have hr := Nat.mod_lt bytes.length h
  have hdivision := Nat.div_add_mod bytes.length size
  rw [add, List.length_append, List.length_replicate, count, Nat.mul_add]
  omega

theorem length_add_mod {size : Nat} (h : 0 < size) (bytes : Bytes) :
    (add size bytes).length % size = 0 := by
  rw [length_add h, Nat.mul_mod_right]

/-- Padding that is taken off is the padding that would be put on.  A whole block of padding is no
exception: it is put on wherever the payload fills its last block. -/
theorem remove?_eq_some_iff {size : Nat} (hpos : 0 < size) (hsize : size < 256)
    {padded bytes : Bytes} (haligned : padded.length % size = 0) :
    remove? size padded = some bytes ↔ padded = add size bytes := by
  constructor
  · intro h
    cases hlast : padded.getLast? with
    | none => simp [remove?, hlast] at h
    | some last =>
      simp only [remove?, hlast] at h
      split at h
      · rename_i hcond
        obtain ⟨hn, hle, hfits, hall⟩ := hcond
        obtain rfl := Option.some.inj h
        have hkept : (padded.take (padded.length - last.toNat)).length + last.toNat
            = padded.length := by
          rw [List.length_take]; omega
        have hcount := eq_count hn hle (by rw [hkept]; exact haligned)
        have htail : padded.drop (padded.length - last.toNat) = List.replicate last.toNat last := by
          have hsame : ∀ b ∈ padded.drop (padded.length - last.toNat), b = last := by
            simpa using hall
          rw [List.eq_replicate_of_mem hsame, List.length_drop]
          congr 1
          omega
        rw [add, ← hcount, UInt8.ofNat_toNat, ← htail, List.take_append_drop]
      · cases h
  · rintro rfl
    have hcount := count_pos hpos bytes.length
    have hle := count_le size bytes.length
    have hlast : (add size bytes).getLast? = some (UInt8.ofNat (count size bytes.length)) := by
      rw [add, List.getLast?_append, List.getLast?_replicate, if_neg (by omega), Option.some_or]
    have htoNat : (UInt8.ofNat (count size bytes.length)).toNat = count size bytes.length := by
      rw [UInt8.toNat_ofNat', Nat.mod_eq_of_lt (by omega)]
    have hkept : (add size bytes).length - count size bytes.length = bytes.length := by
      rw [add, List.length_append, List.length_replicate]; omega
    have hfits : count size bytes.length ≤ (add size bytes).length := by
      rw [add, List.length_append, List.length_replicate]; omega
    simp only [remove?, hlast, htoNat, hkept]
    rw [if_pos ⟨hcount, hle, hfits, by simp [add]⟩]
    simp [add]

end Padding

/-! ### Blocks -/

namespace Aes

@[simp] theorem Block.length_toBytes (x : Block) : x.toBytes.length = 16 := rfl

theorem length_flatMap_toBytes (xs : List Block) :
    (xs.flatMap Block.toBytes).length = 16 * xs.length := by
  induction xs with
  | nil => rfl
  | cons x xs ih =>
    rw [List.flatMap_cons, List.length_append, ih, Block.length_toBytes, List.length_cons]
    omega

theorem blocks_flatMap (xs : List Block) : blocks (xs.flatMap Block.toBytes) = xs := by
  induction xs with
  | nil => rfl
  | cons x xs ih =>
    have front : blocks (x.toBytes ++ xs.flatMap Block.toBytes)
        = x :: blocks (xs.flatMap Block.toBytes) := rfl
    rw [List.flatMap_cons, front, ih]

theorem flatMap_blocks {bytes : Bytes} (h : bytes.length % 16 = 0) :
    (blocks bytes).flatMap Block.toBytes = bytes := by
  fun_induction blocks bytes with
  | case1 b0 b1 b2 b3 b4 b5 b6 b7 b8 b9 b10 b11 b12 b13 b14 b15 rest ih =>
    rw [List.flatMap_cons, ih (by simp at h; omega)]
    rfl
  | case2 bytes hshort =>
    -- Fewer than sixteen octets are left, so their number can only be zero.
    rcases bytes with _ | ⟨b0, _ | ⟨b1, _ | ⟨b2, _ | ⟨b3, _ | ⟨b4, _ | ⟨b5, _ | ⟨b6, _ | ⟨b7,
      _ | ⟨b8, _ | ⟨b9, _ | ⟨b10, _ | ⟨b11, _ | ⟨b12, _ | ⟨b13, _ | ⟨b14, _ | ⟨b15,
        rest⟩⟩⟩⟩⟩⟩⟩⟩⟩⟩⟩⟩⟩⟩⟩⟩
    · rfl
    all_goals first
      | exact absurd rfl (hshort _ _ _ _ _ _ _ _ _ _ _ _ _ _ _ _ rest)
      | exact absurd h (by simp)

end Aes

/-! ### Payloads -/

namespace SymmetricKey

variable {key : SymmetricKey} {payload ciphertext : Bytes}

theorem encrypt_eq (key : SymmetricKey) (payload : Bytes) :
    key.encrypt payload = ((Aes.blocks (Padding.add blockSize payload)).map
      (Aes.schedule key.block).encipher).flatMap Aes.Block.toBytes := by
  rw [List.flatMap_map]
  rfl

/-- A ciphertext has one block more than fits into the payload, so its length tells that of the
payload up to a block and nothing else about it. -/
theorem length_encrypt (key : SymmetricKey) (payload : Bytes) :
    (key.encrypt payload).length = blockSize * (payload.length / blockSize + 1) := by
  have hpadded := @Padding.length_add blockSize (by decide) payload
  have hblocks := congrArg List.length
    (Aes.flatMap_blocks (@Padding.length_add_mod blockSize (by decide) payload))
  rw [Aes.length_flatMap_toBytes] at hblocks
  rw [encrypt_eq, Aes.length_flatMap_toBytes, List.length_map, hblocks, hpadded]

theorem length_encrypt_pos (key : SymmetricKey) (payload : Bytes) :
    0 < (key.encrypt payload).length ∧ (key.encrypt payload).length % blockSize = 0 := by
  rw [length_encrypt]
  exact ⟨Nat.mul_pos (by decide) (Nat.succ_pos _), Nat.mul_mod_right _ _⟩

/-- The octets that are left when every block has been deciphered, before the padding is
taken off. -/
def deciphered (key : SymmetricKey) (ciphertext : Bytes) : Bytes :=
  ((Aes.blocks ciphertext).map (Aes.schedule key.block).decipher).flatMap Aes.Block.toBytes

/-- Decryption succeeds exactly if there are whole blocks, at least one, and the deciphered octets
end in a padding. -/
theorem decrypt_eq_ok_iff_remove? :
    key.decrypt ciphertext = .ok payload ↔
      ciphertext ≠ [] ∧ ciphertext.length % blockSize = 0 ∧
        Padding.remove? blockSize (key.deciphered ciphertext) = some payload := by
  have hplain : ((Aes.blocks ciphertext).flatMap fun x =>
      ((Aes.schedule key.block).decipher x).toBytes) = key.deciphered ciphertext := by
    rw [deciphered, List.flatMap_map]
  simp only [decrypt, hplain, List.isEmpty_iff]
  by_cases hshape : ciphertext = [] ∨ ciphertext.length % blockSize ≠ 0
  · rw [if_pos hshape]
    constructor
    · intro h
      cases h
    · rintro ⟨hne, haligned, -⟩
      exact absurd hshape (by simp [hne, haligned])
  · rw [if_neg hshape]
    rw [not_or, Decidable.not_not] at hshape
    cases hremove : Padding.remove? blockSize (key.deciphered ciphertext) with
    | none => simp
    | some found => simp [hshape]

theorem length_deciphered_mod (key : SymmetricKey) (ciphertext : Bytes) :
    (key.deciphered ciphertext).length % blockSize = 0 := by
  rw [deciphered, Aes.length_flatMap_toBytes]
  exact Nat.mul_mod_right _ _

/-- **One ciphertext for a payload**: whatever decrypts to a payload is its encryption, and the
encryption decrypts to it.  Both the cipher and the padding are bijections onto what they can read,
and there is no randomness in between. -/
theorem decrypt_eq_ok_iff :
    key.decrypt ciphertext = .ok payload ↔ ciphertext = key.encrypt payload := by
  rw [decrypt_eq_ok_iff_remove?]
  have hunpad := @Padding.remove?_eq_some_iff blockSize (by decide) (by decide)
    (key.deciphered ciphertext) payload (length_deciphered_mod key ciphertext)
  constructor
  · rintro ⟨-, haligned, hremove⟩
    rw [encrypt_eq, ← hunpad.mp hremove, deciphered, Aes.blocks_flatMap,
      Aes.Schedule.map_encipher_decipher]
    exact (Aes.flatMap_blocks haligned).symm
  · rintro rfl
    obtain ⟨hpos, haligned⟩ := length_encrypt_pos key payload
    refine ⟨List.length_pos_iff.mp hpos, haligned, hunpad.mpr ?_⟩
    rw [deciphered, encrypt_eq, Aes.blocks_flatMap, Aes.Schedule.map_decipher_encipher]
    exact Aes.flatMap_blocks (Padding.length_add_mod (by decide) payload)

end SymmetricKey

end ClusterLicense
