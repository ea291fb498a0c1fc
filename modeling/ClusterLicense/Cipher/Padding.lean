/-
  ClusterLicense/Cipher/Padding.lean
  ==================================
  **Self-describing padding**: one to `size` octets, each of which tells their
  number, so that the padded length is a positive multiple of `size` and the
  padding can be taken off again without knowing the length.
-/
import ClusterLicense.Bytes.BigEndian

namespace ClusterLicense.Padding

/-- How many octets of padding follow `length` octets. -/
def count (size length : Nat) : Nat := size - length % size

def add (size : Nat) (bytes : Bytes) : Bytes :=
  let n := count size bytes.length
  bytes ++ List.replicate n (UInt8.ofNat n)

/-- The octets before the padding, if they end in well-formed padding. -/
def remove? (size : Nat) (bytes : Bytes) : Option Bytes :=
  match bytes.getLast? with
  | none => none
  | some last =>
    let n := last.toNat
    let kept := bytes.length - n
    if 0 < n ∧ n ≤ size ∧ n ≤ bytes.length ∧ (bytes.drop kept).all (· == last) then
      some (bytes.take kept)
    else none

end ClusterLicense.Padding
