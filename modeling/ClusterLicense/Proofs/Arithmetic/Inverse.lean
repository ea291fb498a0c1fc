/-
  ClusterLicense/Proofs/Arithmetic/Inverse.lean
  =============================================
  **The Euclidean algorithm finds the inverse if there is one.**

  The numbers of the algorithm keep their greatest common divisor, and each is a
  multiple of the first one modulo the second, counted by the coefficient that is
  carried along.  So if the algorithm ends in one, its coefficient is the inverse, and
  it ends in one exactly for coprime numbers.
-/
import ClusterLicense.Arithmetic.Modular
import Mathlib.Data.Int.ModEq
import Mathlib.Tactic.Ring

namespace ClusterLicense.Arithmetic

variable {a modulus inverse : Nat}

/-- The invariant of the extended Euclidean algorithm: each remainder is a multiple of `a` modulo
`modulus`, with the coefficient that is kept beside it.  A step subtracts the same multiple on both
sides. -/
theorem bezout_modEq {r₀ r₁ : Nat} {x₀ x₁ : Int} (h₀ : x₀ * a ≡ r₀ [ZMOD modulus])
    (h₁ : x₁ * a ≡ r₁ [ZMOD modulus]) :
    (bezout r₀ r₁ x₀ x₁).2 * a ≡ (bezout r₀ r₁ x₀ x₁).1 [ZMOD modulus] := by
  fun_induction bezout r₀ r₁ x₀ x₁ with
  | case1 => exact h₀
  | case2 r₀ r₁ x₀ x₁ hne ih =>
    apply ih h₁
    calc (x₀ - (r₀ / r₁ : Nat) * x₁) * a = x₀ * a - (r₀ / r₁ : Nat) * (x₁ * a) := by ring
      _ ≡ r₀ - (r₀ / r₁ : Nat) * r₁ [ZMOD modulus] := h₀.sub (h₁.mul_left _)
      _ = (r₀ % r₁ : Nat) := by
        rw [Int.natCast_mod, Int.natCast_div, Int.emod_def, mul_comm (r₁ : Int)]

theorem bezout_gcd (r₀ r₁ : Nat) (x₀ x₁ : Int) : (bezout r₀ r₁ x₀ x₁).1 = r₀.gcd r₁ := by
  fun_induction bezout r₀ r₁ x₀ x₁ with
  | case1 => exact (Nat.gcd_zero_right _).symm
  | case2 r₀ r₁ x₀ x₁ hne ih => rw [ih, Nat.gcd_comm r₁, ← Nat.gcd_rec, Nat.gcd_comm]

/-- There is an inverse exactly for numbers without a common divisor with the modulus, since what
the algorithm ends with is that divisor. -/
theorem exists_inverse?_iff : (∃ inverse, inverse? a modulus = some inverse) ↔ a.Coprime modulus := by
  have hdivisor := bezout_gcd a modulus 1 0
  rw [Nat.Coprime, ← hdivisor]
  unfold inverse?
  by_cases hone : (bezout a modulus 1 0).1 = 1
  · simp [hone]
  · simp [hone]

theorem inverse?_spec (hpos : 0 < modulus) (h : inverse? a modulus = some inverse) :
    inverse < modulus ∧ inverse * a ≡ 1 [MOD modulus] := by
  have hbezout : (bezout a modulus 1 0).2 * a ≡ (bezout a modulus 1 0).1 [ZMOD modulus] := by
    apply bezout_modEq
    · rw [one_mul]
    · rw [zero_mul]
      exact (Int.modEq_zero_iff_dvd.mpr dvd_rfl).symm
  unfold inverse? at h
  generalize bezout a modulus 1 0 = found at h hbezout
  obtain ⟨divisor, x⟩ := found
  dsimp only at h hbezout
  split at h
  · subst divisor
    obtain rfl := Option.some.inj h
    have hreduced : ((x % modulus).toNat : Int) = x % modulus :=
      Int.toNat_of_nonneg (Int.emod_nonneg x (by omega))
    constructor
    · have hbelow := Int.emod_lt_of_pos x (show (0 : Int) < modulus by omega)
      omega
    · rw [← Int.natCast_modEq_iff, Nat.cast_mul, hreduced]
      exact ((Int.mod_modEq x modulus).mul_right _).trans hbezout
  · cases h

/-- The number that is found is the only one below the modulus that can be: two inverses of one
number differ by a multiple of the modulus.  This gives the value of a coefficient without running
the algorithm. -/
theorem inverse?_eq_some_iff (hpos : 0 < modulus) :
    inverse? a modulus = some inverse ↔ inverse < modulus ∧ inverse * a ≡ 1 [MOD modulus] := by
  constructor
  · exact inverse?_spec hpos
  · rintro ⟨hbelow, hinverse⟩
    have hcoprime : a.Coprime modulus := by
      rw [mul_comm] at hinverse
      exact Nat.coprime_of_mul_modEq_one inverse hinverse
    obtain ⟨found, hfound⟩ := exists_inverse?_iff.mpr hcoprime
    obtain ⟨hfoundBelow, hfoundInverse⟩ := inverse?_spec hpos hfound
    have hsame : found ≡ inverse [MOD modulus] :=
      Nat.ModEq.cancel_right_of_coprime hcoprime.symm (hfoundInverse.trans hinverse.symm)
    rw [hfound, hsame.eq_of_lt_of_lt hfoundBelow hbelow]

end ClusterLicense.Arithmetic
