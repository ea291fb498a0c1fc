/-
  ClusterLicense/Arithmetic/Primality.lean
  ========================================
  **A test that composite numbers fail.**

  For an odd prime `n` with `n - 1 = 2 ^ s * d` and `d` odd, every base that is
  no multiple of `n` has the power `1` at `d` or reaches `-1` by squaring that
  power fewer than `s` times.  A number that does so for many bases is taken
  for a prime; it is good enough for numbers that were drawn at random.
-/
import ClusterLicense.Arithmetic.Modular

namespace ClusterLicense.Arithmetic

/-- How often two divides a number, and what is left; zero is left as it is. -/
def oddPart (n : Nat) : Nat × Nat :=
  if n % 2 = 0 ∧ n ≠ 0 then
    let (s, d) := oddPart (n / 2)
    (s + 1, d)
  else (0, n)
  termination_by n

/-- The numbers that are tried as divisors and as bases. -/
def smallPrimes : List Nat :=
  (List.range 1000).filter fun n =>
    2 ≤ n && (List.range 32).all fun k => k < 2 || n ≤ k || n % k ≠ 0

def baseCount : Nat := 24

/-- Whether squaring `x` fewer than `count` times gives `-1` modulo `n`. -/
def reachesMinusOne (n : Nat) : (count : Nat) → (x : Nat) → Bool
  | 0, _ => false
  | count + 1, x => x = n - 1 || reachesMinusOne n count (x * x % n)

def passes (n base : Nat) : Bool :=
  let (s, d) := oddPart (n - 1)
  let x := powMod base d n
  x = 1 || reachesMinusOne n s x

def isProbablyPrime (n : Nat) : Bool :=
  if smallPrimes.contains n then true
  else if n < 2 || smallPrimes.any (n % · = 0) then false
  else (smallPrimes.take baseCount).all (passes n)

/-- The first of `count` odd numbers from an odd number on that is taken for a prime. -/
def nextPrime? : (count : Nat) → (n : Nat) → Option Nat
  | 0, _ => none
  | count + 1, n => if isProbablyPrime n then some n else nextPrime? count (n + 2)

end ClusterLicense.Arithmetic
