/-
  ClusterLicense/Bytes/BigEndian.lean
  ===================================
  **Octet strings and the integers they spell**, most significant octet first.

  Everything that is stored or signed is a list of octets: a list has the
  induction principle that the codecs need, and no index can leave it.  A
  natural number is spelled with a fixed number of octets (`ofNat`), which is
  how moduli, signatures and length fields are laid out; a 32-bit field is the
  special case `ofInt32`, read back by `int32`.
-/
namespace ClusterLicense

abbrev Bytes := List UInt8

namespace Bytes

/-! ### Natural numbers -/

/-- The number whose base-256 digits are the octets, the first one weighing most. -/
def toNat (bytes : Bytes) : Nat :=
  bytes.foldl (fun n b => 256 * n + b.toNat) 0

/-- The `size` low base-256 digits of `n`; higher digits are dropped. -/
def ofNat : (size n : Nat) → Bytes
  | 0, _ => []
  | size + 1, n => UInt8.ofNat (n >>> (8 * size)) :: ofNat size n

/-- How many octets a number needs; zero needs one. -/
def width (n : Nat) : Nat := n.log2 / 8 + 1

@[simp] theorem length_ofNat (size n : Nat) : (ofNat size n).length = size := by
  induction size with
  | zero => rfl
  | succ size ih => simp [ofNat, ih]

/-! ### Signed 32-bit fields -/

def ofInt32 (n : Int32) : Bytes := ofNat 4 n.toUInt32.toNat

def int32 (a b c d : UInt8) : Int32 :=
  (UInt32.ofNat (toNat [a, b, c, d])).toInt32

@[simp] theorem length_ofInt32 (n : Int32) : (ofInt32 n).length = 4 := length_ofNat _ _

end Bytes

end ClusterLicense
