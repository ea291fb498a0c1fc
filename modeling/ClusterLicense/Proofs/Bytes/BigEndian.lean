/-
  ClusterLicense/Proofs/Bytes/BigEndian.lean
  ==========================================
  **Numbers and their octets determine each other.**

  `toNat` and `ofNat` are inverse as long as the number of octets is fixed:
  writing keeps the low digits (`toNat_ofNat`), and what was read is written back
  as it was (`ofNat_toNat`).  In as many octets as it needs, a number is written in
  full (`toNat_ofNat_width`).  A signed 32-bit field is four octets either way
  (`int32_ofInt32`, `ofInt32_int32`).
-/
import ClusterLicense.Bytes.BigEndian
import Mathlib.Tactic.Ring

namespace ClusterLicense.Bytes

/-- What holds of every number below 256 holds of every octet. -/
theorem forall_octet {p : UInt8 → Prop} (h : ∀ n < 256, p (UInt8.ofNat n)) (b : UInt8) : p b := by
  have hb := h b.toNat b.toNat_lt
  rwa [UInt8.ofNat_toNat] at hb

/-! ### Natural numbers -/

theorem weight_pos (size : Nat) : 0 < 256 ^ size := Nat.pow_pos (by omega)

theorem foldl_eq_toNat (bytes : Bytes) (n : Nat) :
    bytes.foldl (fun n b => 256 * n + b.toNat) n = n * 256 ^ bytes.length + toNat bytes := by
  induction bytes generalizing n with
  | nil => simp [toNat]
  | cons b bytes ih =>
    have hzero := ih (256 * 0 + b.toNat)
    rw [toNat, List.foldl_cons, List.foldl_cons, ih, hzero, List.length_cons]
    ring

theorem toNat_cons (b : UInt8) (bytes : Bytes) :
    toNat (b :: bytes) = b.toNat * 256 ^ bytes.length + toNat bytes := by
  rw [toNat, List.foldl_cons, foldl_eq_toNat, Nat.mul_zero, Nat.zero_add]

theorem toNat_lt (bytes : Bytes) : toNat bytes < 256 ^ bytes.length := by
  induction bytes with
  | nil => simp [toNat]
  | cons b bytes ih =>
    have hb := b.toNat_lt
    rw [toNat_cons, List.length_cons, Nat.pow_succ]
    calc b.toNat * 256 ^ bytes.length + toNat bytes
        < b.toNat * 256 ^ bytes.length + 256 ^ bytes.length := by omega
      _ = (b.toNat + 1) * 256 ^ bytes.length := by ring
      _ ≤ 256 * 256 ^ bytes.length := Nat.mul_le_mul_right _ (by omega)
      _ = 256 ^ bytes.length * 256 := Nat.mul_comm _ _

theorem ofNat_succ (size n : Nat) :
    ofNat (size + 1) n = UInt8.ofNat (n / 256 ^ size) :: ofNat size n := by
  rw [ofNat, Nat.shiftRight_eq_div_pow, pow_mul]
  rfl

/-- Octets that are too few for a number keep its low digits.  Written in at least its own width, a
number is kept as it is. -/
theorem toNat_ofNat (size n : Nat) : toNat (ofNat size n) = n % 256 ^ size := by
  induction size with
  | zero => simp [ofNat, toNat, Nat.mod_one]
  | succ size ih =>
    have hdigit : (UInt8.ofNat (n / 256 ^ size)).toNat = n / 256 ^ size % 256 := by simp
    rw [ofNat_succ, toNat_cons, length_ofNat, ih, hdigit, Nat.pow_succ, Nat.mod_mul, Nat.add_comm,
      Nat.mul_comm]

theorem ofNat_add_mul (size n m : Nat) : ofNat size (n + 256 ^ size * m) = ofNat size n := by
  induction size generalizing m with
  | zero => rfl
  | succ size ih =>
    have hlow : n + 256 ^ (size + 1) * m = n + 256 ^ size * (256 * m) := by ring
    have hdigit : UInt8.ofNat (n / 256 ^ size + 256 * m) = UInt8.ofNat (n / 256 ^ size) := by
      rw [← UInt8.toNat_inj]; simp
    rw [ofNat_succ, ofNat_succ, hlow, ih, Nat.add_mul_div_left _ _ (weight_pos size), hdigit]

/-- Octets are the digits, to the base 256, of the number that they make up, as many as there are.
-/
theorem ofNat_toNat (bytes : Bytes) : ofNat bytes.length (toNat bytes) = bytes := by
  induction bytes with
  | nil => rfl
  | cons b bytes ih =>
    have hsplit : toNat (b :: bytes) = toNat bytes + 256 ^ bytes.length * b.toNat := by
      rw [toNat_cons]; ring
    have hdigit : (toNat bytes + 256 ^ bytes.length * b.toNat) / 256 ^ bytes.length = b.toNat := by
      rw [Nat.add_mul_div_left _ _ (weight_pos _), Nat.div_eq_of_lt (toNat_lt bytes), Nat.zero_add]
    rw [List.length_cons, ofNat_succ, hsplit, ofNat_add_mul, hdigit, UInt8.ofNat_toNat, ih]

/-! ### Widths -/

theorem lt_weight_width (n : Nat) : n < 256 ^ width n := by
  have hbits : n.log2 + 1 ≤ 8 * width n := by
    rw [width]
    omega
  calc n < 2 ^ (n.log2 + 1) := Nat.lt_log2_self
    _ ≤ 2 ^ (8 * width n) := Nat.pow_le_pow_right (by omega) hbits
    _ = 256 ^ width n := by rw [Nat.pow_mul]

theorem toNat_ofNat_width (n : Nat) : toNat (ofNat (width n) n) = n := by
  rw [toNat_ofNat]
  exact Nat.mod_eq_of_lt (lt_weight_width n)

theorem width_le {size n : Nat} (hsize : 0 < size) (h : n < 256 ^ size) : width n ≤ size := by
  have hbits : n.log2 < 8 * size := by
    by_cases hn : n = 0
    · subst n
      simpa using hsize
    · rw [Nat.log2_lt hn, Nat.pow_mul]
      exact h
  rw [width]
  omega

/-! ### Signed 32-bit fields -/

theorem int32_ofInt32 (n : Int32) : ∃ a b c d, ofInt32 n = [a, b, c, d] ∧ int32 a b c d = n := by
  obtain ⟨a, b, c, d, h⟩ : ∃ a b c d, ofInt32 n = [a, b, c, d] := ⟨_, _, _, _, rfl⟩
  refine ⟨a, b, c, d, h, ?_⟩
  have hlt := n.toUInt32.toNat_lt
  rw [int32, ← h, ofInt32, toNat_ofNat, Nat.mod_eq_of_lt (by simpa using hlt), UInt32.ofNat_toNat]
  rfl

/-- Any four octets are those of a 32-bit number, and of one only, so a field that was read can be
written back. -/
theorem ofInt32_int32 (a b c d : UInt8) : ofInt32 (int32 a b c d) = [a, b, c, d] := by
  have hlt := toNat_lt [a, b, c, d]
  have hsame : (UInt32.ofNat (toNat [a, b, c, d])).toInt32.toUInt32.toNat = toNat [a, b, c, d] := by
    simpa using hlt
  rw [ofInt32, int32, hsame]
  exact ofNat_toNat [a, b, c, d]

end ClusterLicense.Bytes
