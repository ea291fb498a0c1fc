/-
  ClusterLicense/Bytes/Base64.lean
  ================================
  **Canonical base64**: the standard alphabet, padding required, unused bits zero.

  Three octets are four symbols of six bits.  Both directions go through the
  list of symbol values, so the only arithmetic is the regrouping of eight-bit
  digits into six-bit digits and back (`sextets`, `octets`).

  Reading is strict: each octet string has one text, and a text is refused with
  the reason that the checks meet first.  The last group of four (or what there
  is of it) is judged on its own, because only there may padding stand.
-/
import ClusterLicense.Bytes.BigEndian

namespace ClusterLicense.Base64

/-- Why a text is not base64; offsets count octets of the text. -/
inductive Error where
  /-- An octet that is not in the alphabet, or padding that is out of place. -/
  | symbol (octet : UInt8) (offset : Nat)
  /-- The symbols end where no octet string can end. -/
  | length (count : Nat)
  /-- The last symbol has bits that belong to no octet. -/
  | lastSymbol (octet : UInt8) (offset : Nat)
  /-- The last group is not filled up to four. -/
  | padding
  deriving DecidableEq, Repr

def Error.message : Error → String
  | .symbol octet offset => s!"Invalid symbol {octet}, offset {offset}."
  | .length count => s!"Invalid input length: {count}"
  | .lastSymbol octet offset => s!"Invalid last symbol {octet}, offset {offset}."
  | .padding => "Invalid padding"

/-! ### The alphabet -/

def pad : UInt8 := 61

/-- The symbol for a six-bit value: capitals, small letters, digits, plus, slash. -/
def symbol (value : Nat) : UInt8 :=
  if value < 26 then UInt8.ofNat (65 + value)
  else if value < 52 then UInt8.ofNat (71 + value)
  else if value < 62 then UInt8.ofNat (value - 4)
  else if value = 62 then 43
  else 47

def value? (octet : UInt8) : Option Nat :=
  if 65 ≤ octet ∧ octet ≤ 90 then some (octet.toNat - 65)
  else if 97 ≤ octet ∧ octet ≤ 122 then some (octet.toNat - 71)
  else if 48 ≤ octet ∧ octet ≤ 57 then some (octet.toNat + 4)
  else if octet = 43 then some 62
  else if octet = 47 then some 63
  else none

/-! ### Regrouping -/

/-- The six-bit digits of an octet string; missing low bits of the last one are zero. -/
def sextets : Bytes → List Nat
  | [] => []
  | [a] => [a.toNat / 4, a.toNat % 4 * 16]
  | [a, b] => [a.toNat / 4, a.toNat % 4 * 16 + b.toNat / 16, b.toNat % 16 * 4]
  | a :: b :: c :: rest =>
    a.toNat / 4 :: (a.toNat % 4 * 16 + b.toNat / 16) ::
      (b.toNat % 16 * 4 + c.toNat / 64) :: c.toNat % 64 :: sextets rest

/-- The octets of a list of six-bit digits; bits that fill no octet are dropped. -/
def octets : List Nat → Bytes
  | a :: b :: c :: d :: rest =>
    UInt8.ofNat (a * 4 + b / 16) :: UInt8.ofNat (b % 16 * 16 + c / 4) ::
      UInt8.ofNat (c % 4 * 64 + d) :: octets rest
  | [a, b, c] => [UInt8.ofNat (a * 4 + b / 16), UInt8.ofNat (b % 16 * 16 + c / 4)]
  | [a, b] => [UInt8.ofNat (a * 4 + b / 16)]
  | _ => []

/-! ### Writing -/

/-- The padding that fills `count` symbols up to whole groups. -/
def padding (count : Nat) : Bytes := List.replicate ((4 - count % 4) % 4) pad

def encode (bytes : Bytes) : Bytes :=
  let values := sextets bytes
  values.map symbol ++ padding values.length

def text (bytes : Bytes) : String :=
  String.ofList ((encode bytes).map Char.ofUInt8)

/-! ### Reading -/

/-- The values of octets that must all be symbols; the first octet stands at `offset`. -/
def values (offset : Nat) : Bytes → Except Error (List Nat)
  | [] => .ok []
  | octet :: rest =>
    match value? octet with
    | none => .error (.symbol octet offset)
    | some value => (value :: ·) <$> values (offset + 1) rest

/-- Whether the last symbol of a group of `count` symbols has bits beyond the last octet. -/
def hasUnusedBits (count value : Nat) : Bool :=
  (count % 4 = 2 && value % 16 ≠ 0) || (count % 4 = 3 && value % 4 ≠ 0)

/-- The values in the last group, which starts at `offset`: symbols, then padding only. -/
def lastGroup (offset : Nat) (group : Bytes) : Except Error (List Nat) := do
  let symbols := group.takeWhile (· != pad)
  let pads := group.dropWhile (· != pad)
  let found ← values offset symbols
  let count := symbols.length
  if (!pads.isEmpty && count < 2) || pads.any (· != pad) then
    throw (.symbol pad (offset + count))
  if !group.isEmpty && count < 2 then
    throw (.length (offset + count))
  if (count + pads.length) % 4 ≠ 0 then
    throw .padding
  match symbols.getLast?, found.getLast? with
  | some octet, some value =>
    if hasUnusedBits count value then
      throw (.lastSymbol octet (offset + count - 1))
    pure found
  | _, _ => pure found

/-- How many octets at the end of a text of `length` octets are judged as the last group. -/
def lastGroupSize (length : Nat) : Nat :=
  if length % 4 = 0 then min length 4 else length % 4

def decode (text : Bytes) : Except Error Bytes := do
  let length := text.length
  if length % 4 = 1 then
    if let some octet := text.getLast? then
      if octet != pad && (value? octet).isNone then
        throw (.symbol octet (length - 1))
  let start := length - lastGroupSize length
  let front ← values 0 (text.take start)
  let back ← lastGroup start (text.drop start)
  pure (octets (front ++ back))

end ClusterLicense.Base64
