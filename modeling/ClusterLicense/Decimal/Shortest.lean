/-
  ClusterLicense/Decimal/Shortest.lean
  ====================================
  **The shortest decimal that reads back as a floating point number.**

  A finite double is `mantissa * 2 ^ exponent`, and every real number between
  the midpoints to its neighbours reads back as it.  The decimal that is shown
  is a multiple of the coarsest power of ten that has a multiple in this
  interval; of the multiples there, it is the one nearest to the number.  All
  comparisons are exact, between natural numbers.
-/
import ClusterLicense.Decimal.Digits

namespace ClusterLicense.Decimal

/-! ### Binary fractions -/

/-- A positive number of the form `mantissa * 2 ^ exponent`. -/
structure Binary where
  mantissa : Nat
  exponent : Int
  /-- Whether the next number below is only half as far away as the one above. -/
  closeBelow : Bool

/-- The number in the low 63 bits of a double's representation. -/
def Binary.ofBits (bits : UInt64) : Binary :=
  let fraction : Nat := bits.toNat % (1 <<< 52)
  let scale : Nat := (bits.toNat >>> 52) % (1 <<< 11)
  if scale = 0 then ⟨fraction, -1074, false⟩
  else ⟨(1 <<< 52) + fraction, (scale : Int) - 1075, fraction = 0 && 1 < scale⟩

/-! ### The interval that reads back -/

/-- `coefficient * 10 ^ exponent`. -/
structure Scaled where
  coefficient : Nat
  exponent : Int
  deriving DecidableEq

/-- Two factors that turn comparing `a * 2 ^ (x.exponent - 2)` with `c * 10 ^ power` into
comparing the natural numbers `a * scales.1` and `c * scales.2`. -/
def Binary.scales (x : Binary) (power : Int) : Nat × Nat :=
  (Nat.pow 10 (-power).toNat <<< (x.exponent - 2).toNat,
    Nat.pow 10 power.toNat <<< (2 - x.exponent).toNat)

/-- Whether `c * 10 ^ power` reads back as the number. -/
def Binary.reads (x : Binary) (power : Int) (c : Nat) : Bool :=
  let (s, t) := x.scales power
  let low := (4 * x.mantissa - if x.closeBelow then 1 else 2) * s
  let high := (4 * x.mantissa + 2) * s
  0 < c &&
    if x.mantissa % 2 = 0 then low ≤ c * t && c * t ≤ high else low < c * t && c * t < high

/-- The multiple of `10 ^ power` that reads back and is nearest to the number, if one of its
two neighbours on that grid does; of two equally near the even one. -/
def Binary.onGrid? (x : Binary) (power : Int) : Option Scaled :=
  let (s, t) := x.scales power
  let value := 4 * x.mantissa * s
  let below := value / t
  let toBelow := value - below * t
  let toAbove := (below + 1) * t - value
  let aboveFirst := toAbove < toBelow || (toAbove = toBelow && below % 2 = 1)
  let candidates := if aboveFirst then [below + 1, below] else [below, below + 1]
  (candidates.find? (x.reads power)).map (⟨·, power⟩)

/-- The powers of ten to try, the coarsest first. -/
def powers : List Int := (List.range 640).map fun i : Nat => 310 - (i : Int)

/-- The shortest decimal that reads back, and of those the nearest. -/
def Binary.shortest (x : Binary) : Scaled :=
  (powers.findSome? x.onGrid?).getD ⟨x.mantissa, x.exponent⟩

/-! ### How diagnostics write it -/

/-- Where positional notation ends. -/
structure FloatFormat where
  /-- The least exponent of the first digit that is written positionally. -/
  least : Int
  /-- The greatest exponent of the first digit that is written positionally. -/
  greatest : Int

/-- Positional from a hundred-thousandth to below ten to the sixteenth. -/
def FloatFormat.diagnostic : FloatFormat := ⟨-5, 15⟩

/-- A decimal in text: positional with at least one digit after the point, or with one digit
before the point and a signed exponent. -/
def FloatFormat.write (format : FloatFormat) (x : Scaled) : String :=
  let digits := Nat.toDigits 10 x.coefficient
  let lead : Int := digits.length - 1 + x.exponent
  let zeros (n : Int) : List Char := List.replicate n.toNat '0'
  String.ofList <|
    if lead < format.least ∨ format.greatest < lead then
      let fraction := if digits.length = 1 then [] else '.' :: digits.drop 1
      digits.take 1 ++ fraction ++ ['e', if lead < 0 then '-' else '+']
        ++ Nat.toDigits 10 lead.natAbs
    else if lead < 0 then ['0', '.'] ++ zeros (-lead - 1) ++ digits
    else if 0 ≤ x.exponent then digits ++ zeros x.exponent ++ ['.', '0']
    else digits.take (lead.toNat + 1) ++ ['.'] ++ digits.drop (lead.toNat + 1)

def FloatFormat.text (format : FloatFormat) (x : Float) : String :=
  let bits := x.toBits
  let magnitude := Binary.ofBits bits
  let sign := if bits.toNat < 1 <<< 63 then "" else "-"
  sign ++ if magnitude.mantissa = 0 then "0.0" else format.write magnitude.shortest

end ClusterLicense.Decimal
