/-
  ClusterLicense/Proofs/Decimal/Digits.lean
  =========================================
  **A whole number is determined by its digits.**

  `toNat` undoes `ofNat`, the sign of a number stands in front of its digits, and
  digits and signs are the only octets there are: so a number can be read off the
  front of whatever starts with another octet.  Only zero starts with a zero.
-/
import ClusterLicense.Decimal.Digits
import ClusterLicense.Proofs.Bytes.BigEndian
import Mathlib.Data.List.Induction

namespace ClusterLicense.Decimal

/-! ### Digits -/

theorem digitValue_digit : ∀ n < 10, digitValue (digit n) = n := by decide

theorem isDigit_digit : ∀ n < 10, isDigit (digit n) = true := by decide

theorem toNat_append_singleton (digits : Bytes) (b : UInt8) :
    toNat (digits ++ [b]) = 10 * toNat digits + digitValue b := by
  rw [toNat, List.foldl_append]
  rfl

/-- The digits of a number spell the number; the induction is on the number, by the digits before
the last. -/
theorem toNat_ofNat (n : Nat) : toNat (ofNat n) = n := by
  fun_induction ofNat n with
  | case1 n hlt =>
    have hdigit := digitValue_digit n hlt
    simpa [toNat] using hdigit
  | case2 n hge ih =>
    rw [toNat_append_singleton, ih, digitValue_digit _ (Nat.mod_lt n (by omega))]
    omega

theorem isDigit_of_mem_ofNat {n : Nat} {b : UInt8} (h : b ∈ ofNat n) : isDigit b = true := by
  fun_induction ofNat n with
  | case1 n hlt =>
    rw [List.mem_singleton.mp h]
    exact isDigit_digit n hlt
  | case2 n hge ih =>
    rcases List.mem_append.mp h with hfront | hlast
    · exact ih hfront
    · rw [List.mem_singleton.mp hlast]
      exact isDigit_digit _ (Nat.mod_lt n (by omega))

theorem ofNat_ne_nil (n : Nat) : ofNat n ≠ [] := by
  fun_cases ofNat n with
  | case1 => exact List.cons_ne_nil _ _
  | case2 => exact List.append_ne_nil_of_right_ne_nil _ (List.cons_ne_nil _ _)

theorem head?_ofNat_append (n : Nat) (rest : Bytes) :
    (ofNat n ++ rest).head? = (ofNat n).head? := by
  obtain ⟨b, digits, hdigits⟩ := List.exists_cons_of_ne_nil (ofNat_ne_nil n)
  rw [hdigits]
  rfl

theorem eq_zero_of_head?_ofNat {n : Nat} (h : (ofNat n).head? = some 48) : n = 0 := by
  fun_induction ofNat n with
  | case1 n hlt =>
    have hvalue := digitValue_digit n hlt
    rw [Option.some.inj h] at hvalue
    exact hvalue.symm
  | case2 n hge ih =>
    rw [head?_ofNat_append] at h
    have hzero := ih h
    omega

theorem ofNat_injective {m n : Nat} (h : ofNat m = ofNat n) : m = n := by
  rw [← toNat_ofNat m, h, toNat_ofNat]

theorem digit_digitValue {b : UInt8} (h : isDigit b = true) :
    digitValue b < 10 ∧ digit (digitValue b) = b :=
  Bytes.forall_octet
    (p := fun b => isDigit b = true → digitValue b < 10 ∧ digit (digitValue b) = b)
    (by decide +kernel) b h

/-- Digits without a zero before another one are the digits of the number that they spell. -/
theorem ofNat_toNat {digits : Bytes} (hdigits : ∀ b ∈ digits, isDigit b = true)
    (hne : digits ≠ []) (hzero : digits = [48] ∨ digits.head? ≠ some 48) :
    ofNat (toNat digits) = digits := by
  induction digits using List.reverseRecOn with
  | nil => exact absurd rfl hne
  | append_singleton digits b ih =>
    obtain ⟨hlt, hdigit⟩ := digit_digitValue (hdigits b (by simp))
    rw [toNat_append_singleton]
    by_cases hnil : digits = []
    · subst hnil
      have hsmall : 10 * toNat [] + digitValue b = digitValue b := Nat.zero_add _
      rw [hsmall, ofNat, if_pos hlt, hdigit]
      rfl
    · obtain ⟨c, front, rfl⟩ := List.exists_cons_of_ne_nil hnil
      have hhead : (c :: front).head? ≠ some 48 := by
        rcases hzero with hzero | hzero
        · simp at hzero
        · exact hzero
      have hfront := ih (fun d hd => hdigits d (List.mem_append_left [b] hd)) hnil (.inr hhead)
      have hpos : toNat (c :: front) ≠ 0 := by
        intro hzero
        rw [hzero, ofNat, if_pos (by decide)] at hfront
        rw [← hfront] at hhead
        exact hhead rfl
      rw [ofNat, if_neg (by omega)]
      have hdiv : (10 * toNat (c :: front) + digitValue b) / 10 = toNat (c :: front) := by omega
      have hmod : (10 * toNat (c :: front) + digitValue b) % 10 = digitValue b := by omega
      rw [hdiv, hmod, hfront, hdigit]

theorem ofNat_ne_minus (m n : Nat) : ofNat m ≠ 45 :: ofNat n := by
  intro h
  have hdigit : isDigit 45 = true := isDigit_of_mem_ofNat (n := m) (by rw [h]; simp)
  revert hdigit
  decide

/-! ### Signs -/

/-- Different integers are written differently: a minus sign is no digit, and the digits behind it
are those of the absolute value. -/
theorem ofInt_injective {a b : Int} (h : ofInt a = ofInt b) : a = b := by
  unfold ofInt at h
  split at h <;> split at h
  · have habs := ofNat_injective (List.cons.inj h).2
    omega
  · exact absurd h.symm (ofNat_ne_minus _ _)
  · exact absurd h (ofNat_ne_minus _ _)
  · have habs := ofNat_injective h
    omega

theorem mem_ofInt {n : Int} {b : UInt8} (h : b ∈ ofInt n) : b = 45 ∨ isDigit b = true := by
  unfold ofInt at h
  split at h
  · rcases List.mem_cons.mp h with hminus | hdigit
    · exact .inl hminus
    · exact .inr (isDigit_of_mem_ofNat hdigit)
  · exact .inr (isDigit_of_mem_ofNat h)

end ClusterLicense.Decimal
