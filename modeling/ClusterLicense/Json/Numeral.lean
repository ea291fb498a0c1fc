/-
  ClusterLicense/Json/Numeral.lean
  ================================
  **Numbers: how they are written, and what they are.**

  A `Numeral` is the number as it stands in the text.  Without fraction and
  exponent it is an integer as long as 64 bits hold it; every other numeral is
  a floating point number.  Of its digits those count that fit in 64 bits; the
  rest only move the point.
-/
import ClusterLicense.Decimal.Digits
import ClusterLicense.Json.Reader

namespace ClusterLicense.Json

open Decimal (isDigit digitValue)

structure Numeral where
  negative : Bool
  /-- The digits before the point. -/
  whole : Bytes
  /-- The digits after the point; none if there is no point. -/
  fraction : Bytes
  /-- Whether the exponent is below zero, and its digits. -/
  exponent : Option (Bool × Bytes)
  deriving DecidableEq

/-! ### Reading -/

namespace Numeral

/-- The digits before the point: no zero before another digit. -/
def wholePart (atEnd : Problem) : Reader Bytes := do
  match ← Reader.peek with
  | none => Reader.fail atEnd
  | some 48 =>
    Reader.advance
    if (← Reader.peek).any isDigit then Reader.failNext .invalidNumber
    pure [48]
  | some b =>
    if isDigit b then Reader.takeWhile isDigit
    else
      Reader.advance
      Reader.fail .invalidNumber

/-- The digits after the point, of which there is at least one. -/
def fractionPart (atEnd : Problem) : Reader Bytes := do
  if ← Reader.skip? 46 then
    let digits ← Reader.takeWhile isDigit
    if digits.isEmpty then
      match ← Reader.peek with
      | none => Reader.fail atEnd
      | some _ => Reader.failNext .invalidNumber
    else pure digits
  else pure []

def exponentPart (atEnd : Problem) : Reader (Option (Bool × Bytes)) := do
  let mark ← Reader.peek
  if mark = some 101 ∨ mark = some 69 then
    Reader.advance
    let negative ← Reader.skip? 45
    unless negative do
      let _ ← Reader.skip? 43
    match ← Reader.peek with
    | none => Reader.fail atEnd
    | some b =>
      if isDigit b then
        return some (negative, ← Reader.takeWhile isDigit)
      else
        Reader.advance
        Reader.fail .invalidNumber
  else return none

/-- Reads a numeral; `atEnd` is the problem with one that the input cuts short. -/
def read (atEnd : Problem) : Reader Numeral := do
  let negative ← Reader.skip? 45
  let whole ← wholePart atEnd
  let fraction ← fractionPart atEnd
  let exponent ← exponentPart atEnd
  pure ⟨negative, whole, fraction, exponent⟩

/-! ### Meaning -/

/-- Digits as far as 64 bits hold them. -/
structure Significand where
  value : Nat
  /-- How many digits were taken. -/
  taken : Nat
  /-- How many digits were left because there was no room. -/
  dropped : Nat

/-- One digit more, if it fits and none was left before it. -/
def Significand.push (s : Significand) (b : UInt8) : Significand :=
  let value := 10 * s.value + digitValue b
  if s.dropped = 0 ∧ value < UInt64.size then ⟨value, s.taken + 1, 0⟩
  else { s with dropped := s.dropped + 1 }

def wholeSignificand (n : Numeral) : Significand := n.whole.foldl Significand.push ⟨0, 0, 0⟩

/-- All digits as one number, and the power of ten that it is to be multiplied with.  The
digits after the point get their own chance to fit. -/
def scaled (n : Numeral) : Nat × Int :=
  let whole := n.wholeSignificand
  let all := n.fraction.foldl Significand.push ⟨whole.value, 0, 0⟩
  (all.value, (whole.dropped : Int) - all.taken)

/-- The greatest exponent that is computed with. -/
def largestExponent : Nat := 2147483647

/-- The value of an exponent's digits, or how many of them are left after the first one that
makes it too large. -/
def exponentValue (value : Nat) : Bytes → Except Nat Nat
  | [] => .ok value
  | b :: rest =>
    let value := 10 * value + digitValue b
    if value ≤ largestExponent then exponentValue value rest else .error rest.length

def tenTo (power : Nat) : Float := Float.ofScientific 1 false power

/-- The largest power of ten that is a floating point number. -/
def largestPower : Nat := 308

/-- Divides by ten `power` times, in as few roundings as the largest power allows. -/
def scaleDown (x : Float) (power : Nat) : Float :=
  if power ≤ largestPower then x / tenTo power
  else if x == 0 then x
  else scaleDown (x / tenTo largestPower) (power - largestPower)
  termination_by power
  decreasing_by simp only [largestPower] at *; omega

/-- `value * 10 ^ power` in floating point; infinity is no number. -/
def toFloat? (value : Nat) (power : Int) : Option Float :=
  let x := value.toUInt64.toFloat
  if power < 0 then some (scaleDown x power.natAbs)
  else if power ≤ largestPower then
    let y := x * tenTo power.natAbs
    if y.isInf then none else some y
  else if x == 0 then some x
  else none

end Numeral

inductive Number where
  | integer (value : Int)
  | float (value : Float)

def Numeral.value (n : Numeral) : Reader Number := do
  let sign (x : Float) : Number := .float (if n.negative then -x else x)
  let whole := n.wholeSignificand
  let integer : Int := if n.negative then -whole.value else whole.value
  let isInteger := n.fraction.isEmpty && n.exponent.isNone && whole.dropped = 0 &&
    if n.negative then Int64.minValue.toInt ≤ integer && integer < 0 else true
  if isInteger then return .integer integer
  let (value, power) := n.scaled
  match n.exponent with
  | none =>
    match toFloat? value power with
    | some x => return sign x
    | none => Reader.fail .numberOutOfRange
  | some (below, digits) =>
    match exponentValue 0 digits with
    | .error unread =>
      if value = 0 ∨ below then return sign 0
      else Reader.failBefore unread .numberOutOfRange
    | .ok exponent =>
      match toFloat? value (if below then power - exponent else power + exponent) with
      | some x => return sign x
      | none => Reader.fail .numberOutOfRange

def startsNumber (b : UInt8) : Bool := b = 45 || isDigit b

def number : Reader Number := do
  let n ← Numeral.read .endInValue
  n.value

end ClusterLicense.Json
