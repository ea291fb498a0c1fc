/-
  ClusterLicense/Arithmetic/Modular.lean
  ======================================
  **Powers and inverses modulo a number**, fast enough for numbers of
  thousands of bits.

  `powMod` squares its way through the exponent.  `inverse?` runs the Euclidean
  algorithm and carries one of the two Bézout coefficients along.
-/
namespace ClusterLicense.Arithmetic

/-! ### Powers -/

/-- The remainder of `base ^ exponent`, by repeated squaring. -/
def powMod (base exponent modulus : Nat) : Nat :=
  if exponent = 0 then 1 % modulus
  else
    let half := powMod (base * base % modulus) (exponent / 2) modulus
    if exponent % 2 = 0 then half else base * half % modulus
  termination_by exponent

/-! ### Inverses -/

/-- The greatest common divisor of `r₀` and `r₁`, and the coefficient of the first number that
the algorithm started from; `x₀` and `x₁` are the coefficients reached so far. -/
def bezout (r₀ r₁ : Nat) (x₀ x₁ : Int) : Nat × Int :=
  if r₁ = 0 then (r₀, x₀)
  else bezout r₁ (r₀ % r₁) x₁ (x₀ - (r₀ / r₁ : Nat) * x₁)
  termination_by r₁
  decreasing_by exact Nat.mod_lt _ (Nat.pos_of_ne_zero (by assumption))

/-- The inverse of `a` modulo `modulus`, if they have no common divisor. -/
def inverse? (a modulus : Nat) : Option Nat :=
  let (divisor, x) := bezout a modulus 1 0
  if divisor = 1 then some (x % modulus).toNat else none

end ClusterLicense.Arithmetic
