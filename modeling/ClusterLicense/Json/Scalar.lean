/-
  ClusterLicense/Json/Scalar.lean
  ===============================
  **Values without parts**: 64-bit integers, texts, and values that may be null.

  A reader that wants one kind of value and meets another still reads it, as
  far as a scalar goes, to say what it found.
-/
import ClusterLicense.Decimal.Shortest
import ClusterLicense.Json.Numeral
import ClusterLicense.Json.Text

namespace ClusterLicense.Json

def Number.found : Number → Found
  | .integer value => .integer value
  | .float value => .float (Decimal.FloatFormat.diagnostic.text value)

/-- Reads the scalar at the front to name it; an array or object stays where it is. -/
def found : Reader Found := do
  match ← Reader.peek with
  | some 110 =>
    Reader.advance
    keyword nullTail
    return .null
  | some 116 =>
    Reader.advance
    keyword trueTail
    return .boolean true
  | some 102 =>
    Reader.advance
    keyword falseTail
    return .boolean false
  | some 34 =>
    Reader.advance
    return .string (← textAfterMark)
  | some 91 => return .sequence
  | some 123 => return .map
  | some b => if startsNumber b then return (← number).found else Reader.failNext .expectedValue
  | none => Reader.failNext .endInValue

/-- Stops at a value of another type than the wanted one. -/
def mismatch {α : Type} (wanted : String) : Reader α := do
  Reader.fail (.invalidType (← found) wanted)

def int64 : Reader Int64 := do
  match ← Reader.next with
  | none => Reader.failNext .endInValue
  | some b =>
    if startsNumber b then
      match ← number with
      | .integer value =>
        if Int64.minValue.toInt ≤ value ∧ value ≤ Int64.maxValue.toInt then
          return Int64.ofInt value
        else Reader.fail (.invalidValue (.integer value) "i64")
      | n => Reader.fail (.invalidType n.found "i64")
    else mismatch "i64"

/-- A text; `wanted` names it when something else is found. -/
def text (wanted : String) : Reader String := do
  match ← Reader.next with
  | none => Reader.failNext .endInValue
  | some 34 =>
    Reader.advance
    textAfterMark
  | some _ => mismatch wanted

def unit : Reader Unit := do
  match ← Reader.next with
  | none => Reader.failNext .endInValue
  | some 110 =>
    Reader.advance
    keyword nullTail
  | some _ => mismatch "unit"

/-- A value, or null in its place. -/
def optional {α : Type} (reader : Reader α) : Reader (Option α) := do
  match ← Reader.next with
  | some 110 =>
    Reader.advance
    keyword nullTail
    return none
  | _ => some <$> reader

end ClusterLicense.Json
