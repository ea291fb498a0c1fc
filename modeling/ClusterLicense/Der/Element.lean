/-
  ClusterLicense/Der/Element.lean
  ===============================
  **The distinguished encoding of tagged data.**

  An element is a tag octet, the length of its content, and the content.
  Lengths and integers have exactly one encoding each; the readers here accept
  a number only if writing it again gives the octets that were read, so strict
  reading is a property of the definitions and not of a list of checks.
-/
import ClusterLicense.Bytes.BigEndian

namespace ClusterLicense.Der

/-! ### Tags -/

def integerTag : UInt8 := 0x02

def bitStringTag : UInt8 := 0x03

def octetStringTag : UInt8 := 0x04

def sequenceTag : UInt8 := 0x30

/-- Whether an octet is a tag of one octet that data of this kind may carry: one of the
universal types in use, or a number below 31 in one of the other classes. -/
def isTag (b : UInt8) : Bool :=
  if b < 0x40 then
    [0x01, 0x02, 0x03, 0x04, 0x05, 0x06, 0x09, 0x0A, 0x0C, 0x12, 0x13, 0x14, 0x15, 0x16, 0x17,
      0x18, 0x1A, 0x1E, 0x30, 0x31].contains b
  else b &&& 0x1F != 0x1F

def isContextSpecific (tag : UInt8) : Bool := tag &&& 0xC0 == 0x80

def tagNumber (tag : UInt8) : Nat := (tag &&& 0x1F).toNat

/-! ### Lengths -/

/-- A length: itself below 128, else the number of octets that spell it and those octets. -/
def encodeLength (n : Nat) : Bytes :=
  if n < 128 then [UInt8.ofNat n]
  else UInt8.ofNat (128 + Bytes.width n) :: Bytes.ofNat (Bytes.width n) n

/-- The length at the front, in its shortest form and in at most four octets. -/
def length? : Bytes → Option (Nat × Bytes)
  | [] => none
  | b :: rest =>
    if b < 0x80 then some (b.toNat, rest)
    else
      let size := b.toNat - 128
      let n := Bytes.toNat (rest.take size)
      if size ≤ 4 ∧ encodeLength n = b :: rest.take size then some (n, rest.drop size)
      else none

/-! ### Elements -/

structure Element where
  tag : UInt8
  content : Bytes
  deriving DecidableEq

def Element.encode (e : Element) : Bytes :=
  e.tag :: encodeLength e.content.length ++ e.content

/-- The element at the front, and the octets after it. -/
def element? : Bytes → Option (Element × Bytes)
  | [] => none
  | tag :: rest => do
    guard (isTag tag)
    let (n, rest) ← length? rest
    guard (n ≤ rest.length)
    pure (⟨tag, rest.take n⟩, rest.drop n)

/-- The content of the element at the front, which must have the given tag. -/
def content? (tag : UInt8) (bytes : Bytes) : Option (Bytes × Bytes) := do
  let (e, rest) ← element? bytes
  guard (e.tag = tag)
  pure (e.content, rest)

/-- The content of an element with the given tag that takes all the octets. -/
def only? (tag : UInt8) (bytes : Bytes) : Option Bytes := do
  let (content, rest) ← content? tag bytes
  guard rest.isEmpty
  pure content

def encode (tag : UInt8) (content : Bytes) : Bytes := Element.encode ⟨tag, content⟩

/-! ### Integers and bit strings -/

/-- The content of a whole number: its octets, after a zero if the first one is 128 or more. -/
def unsignedContent (n : Nat) : Bytes :=
  let bytes := Bytes.ofNat (Bytes.width n) n
  if bytes.head?.any (0x80 ≤ ·) then 0 :: bytes else bytes

def encodeUnsigned (n : Nat) : Bytes := encode integerTag (unsignedContent n)

/-- The whole number at the front; numbers below zero are refused. -/
def unsigned? (bytes : Bytes) : Option (Nat × Bytes) := do
  let (content, rest) ← content? integerTag bytes
  let n := Bytes.toNat content
  guard (content = unsignedContent n)
  pure (n, rest)

/-- Octets as a string of bits: the first octet tells that no bit is left unused. -/
def encodeBitString (bytes : Bytes) : Bytes := encode bitStringTag (0 :: bytes)

/-- The octets of a bit string's content, if they are whole octets. -/
def wholeOctets? : Bytes → Option Bytes
  | 0 :: bytes => some bytes
  | _ => none

end ClusterLicense.Der
