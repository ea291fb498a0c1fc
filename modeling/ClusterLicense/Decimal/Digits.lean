/-
  ClusterLicense/Decimal/Digits.lean
  ==================================
  **Whole numbers in decimal**, as octets: no leading zero, a minus sign before
  a number below zero, nothing else.
-/
import ClusterLicense.Bytes.BigEndian

namespace ClusterLicense.Decimal

def isDigit (b : UInt8) : Bool := 48 ≤ b && b ≤ 57

def digit (n : Nat) : UInt8 := UInt8.ofNat (48 + n)

def digitValue (b : UInt8) : Nat := b.toNat - 48

def ofNat (n : Nat) : Bytes :=
  if n < 10 then [digit n] else ofNat (n / 10) ++ [digit (n % 10)]

/-- The digits of a number, after a minus sign if it is below zero. -/
def ofInt (n : Int) : Bytes :=
  if n < 0 then 45 :: ofNat n.natAbs else ofNat n.natAbs

def toNat (digits : Bytes) : Nat :=
  digits.foldl (fun n b => 10 * n + digitValue b) 0

end ClusterLicense.Decimal
