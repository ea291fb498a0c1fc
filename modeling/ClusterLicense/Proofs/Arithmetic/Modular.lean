/-
  ClusterLicense/Proofs/Arithmetic/Modular.lean
  =============================================
  **Repeated squaring gives the remainder of the power.**

  The squarings of large exponents can be carried out once their number is bounded
  (`powModIn`).
-/
import Mathlib.Algebra.Ring.Nat
import ClusterLicense.Arithmetic.Modular

namespace ClusterLicense.Arithmetic

/-- Square and multiply computes the remainder of the power; each step halves the exponent and
squares the base. -/
theorem powMod_eq (base exponent modulus : Nat) :
    powMod base exponent modulus = base ^ exponent % modulus := by
  induction exponent using Nat.strongRecOn generalizing base with
  | ind e ih =>
    rw [powMod]
    by_cases h0 : e = 0
    · simp [h0]
    · rw [if_neg h0]
      have half : powMod (base * base % modulus) (e / 2) modulus
          = base ^ (2 * (e / 2)) % modulus := by
        rw [ih _ (by omega), ← Nat.pow_mod, Nat.pow_mul, Nat.pow_two]
      by_cases h2 : e % 2 = 0
      · rw [if_pos h2, half, show 2 * (e / 2) = e by omega]
      · rw [if_neg h2, half, Nat.mul_mod_mod, Nat.mul_comm, ← Nat.pow_succ,
          show (2 * (e / 2)).succ = e by omega]

/-- `powMod` by structural recursion, for exponents below a power of two. -/
def powModIn : (squarings base exponent modulus : Nat) → Nat
  | 0, _, _, modulus => 1 % modulus
  | squarings + 1, base, exponent, modulus =>
    if exponent = 0 then 1 % modulus
    else
      let half := powModIn squarings (base * base % modulus) (exponent / 2) modulus
      if exponent % 2 = 0 then half else base * half % modulus

/-- The same result by recursion on the number of squarings, which the kernel can run on numbers of
the size of a key. -/
theorem powMod_eq_powModIn (squarings base exponent modulus : Nat) (h : exponent < 2 ^ squarings) :
    powMod base exponent modulus = powModIn squarings base exponent modulus := by
  induction squarings generalizing base exponent with
  | zero =>
    obtain rfl : exponent = 0 := by omega
    rw [powMod, if_pos rfl, powModIn]
  | succ squarings ih =>
    rw [powMod, powModIn, ih _ _ (by omega)]

end ClusterLicense.Arithmetic
