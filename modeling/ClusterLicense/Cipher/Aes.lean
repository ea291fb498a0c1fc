/-
  ClusterLicense/Cipher/Aes.lean
  ==============================
  **The block cipher AES with a 128-bit key.**

  A block is four columns of four octets, so that every layer of a round is a
  function on explicit octets: substitution acts on each octet, the row shift
  only renames them, the column mix is linear over the field of 256 elements
  and the round key is added by exclusive or.  Every layer has its inverse
  beside it, and deciphering undoes the layers in the opposite order.
-/
import ClusterLicense.Bytes.BigEndian

namespace ClusterLicense.Aes

/-! ### Columns and blocks -/

structure Column where
  a : UInt8
  b : UInt8
  c : UInt8
  d : UInt8
  deriving DecidableEq

/-- Sixteen octets, column by column. -/
structure Block where
  p : Column
  q : Column
  r : Column
  s : Column
  deriving DecidableEq

def Column.toBytes (x : Column) : Bytes := [x.a, x.b, x.c, x.d]

def Block.toBytes (x : Block) : Bytes :=
  x.p.toBytes ++ x.q.toBytes ++ x.r.toBytes ++ x.s.toBytes

/-- The whole blocks of an octet string; octets that fill no block are dropped. -/
def blocks : Bytes → List Block
  | b0 :: b1 :: b2 :: b3 :: b4 :: b5 :: b6 :: b7 ::
      b8 :: b9 :: b10 :: b11 :: b12 :: b13 :: b14 :: b15 :: rest =>
    ⟨⟨b0, b1, b2, b3⟩, ⟨b4, b5, b6, b7⟩, ⟨b8, b9, b10, b11⟩, ⟨b12, b13, b14, b15⟩⟩ ::
      blocks rest
  | _ => []

def Column.map (f : UInt8 → UInt8) (x : Column) : Column := ⟨f x.a, f x.b, f x.c, f x.d⟩

def Block.map (f : UInt8 → UInt8) (x : Block) : Block :=
  ⟨x.p.map f, x.q.map f, x.r.map f, x.s.map f⟩

/-- Sum over the field, octet by octet. -/
def Column.add (x y : Column) : Column := ⟨x.a ^^^ y.a, x.b ^^^ y.b, x.c ^^^ y.c, x.d ^^^ y.d⟩

def Block.add (x y : Block) : Block :=
  ⟨x.p.add y.p, x.q.add y.q, x.r.add y.r, x.s.add y.s⟩

/-! ### Substitution -/

set_option maxRecDepth 4000 in
def substitutes : Vector UInt8 256 :=
  #v[
    0x63, 0x7C, 0x77, 0x7B, 0xF2, 0x6B, 0x6F, 0xC5, 0x30, 0x01, 0x67, 0x2B, 0xFE, 0xD7, 0xAB, 0x76,
    0xCA, 0x82, 0xC9, 0x7D, 0xFA, 0x59, 0x47, 0xF0, 0xAD, 0xD4, 0xA2, 0xAF, 0x9C, 0xA4, 0x72, 0xC0,
    0xB7, 0xFD, 0x93, 0x26, 0x36, 0x3F, 0xF7, 0xCC, 0x34, 0xA5, 0xE5, 0xF1, 0x71, 0xD8, 0x31, 0x15,
    0x04, 0xC7, 0x23, 0xC3, 0x18, 0x96, 0x05, 0x9A, 0x07, 0x12, 0x80, 0xE2, 0xEB, 0x27, 0xB2, 0x75,
    0x09, 0x83, 0x2C, 0x1A, 0x1B, 0x6E, 0x5A, 0xA0, 0x52, 0x3B, 0xD6, 0xB3, 0x29, 0xE3, 0x2F, 0x84,
    0x53, 0xD1, 0x00, 0xED, 0x20, 0xFC, 0xB1, 0x5B, 0x6A, 0xCB, 0xBE, 0x39, 0x4A, 0x4C, 0x58, 0xCF,
    0xD0, 0xEF, 0xAA, 0xFB, 0x43, 0x4D, 0x33, 0x85, 0x45, 0xF9, 0x02, 0x7F, 0x50, 0x3C, 0x9F, 0xA8,
    0x51, 0xA3, 0x40, 0x8F, 0x92, 0x9D, 0x38, 0xF5, 0xBC, 0xB6, 0xDA, 0x21, 0x10, 0xFF, 0xF3, 0xD2,
    0xCD, 0x0C, 0x13, 0xEC, 0x5F, 0x97, 0x44, 0x17, 0xC4, 0xA7, 0x7E, 0x3D, 0x64, 0x5D, 0x19, 0x73,
    0x60, 0x81, 0x4F, 0xDC, 0x22, 0x2A, 0x90, 0x88, 0x46, 0xEE, 0xB8, 0x14, 0xDE, 0x5E, 0x0B, 0xDB,
    0xE0, 0x32, 0x3A, 0x0A, 0x49, 0x06, 0x24, 0x5C, 0xC2, 0xD3, 0xAC, 0x62, 0x91, 0x95, 0xE4, 0x79,
    0xE7, 0xC8, 0x37, 0x6D, 0x8D, 0xD5, 0x4E, 0xA9, 0x6C, 0x56, 0xF4, 0xEA, 0x65, 0x7A, 0xAE, 0x08,
    0xBA, 0x78, 0x25, 0x2E, 0x1C, 0xA6, 0xB4, 0xC6, 0xE8, 0xDD, 0x74, 0x1F, 0x4B, 0xBD, 0x8B, 0x8A,
    0x70, 0x3E, 0xB5, 0x66, 0x48, 0x03, 0xF6, 0x0E, 0x61, 0x35, 0x57, 0xB9, 0x86, 0xC1, 0x1D, 0x9E,
    0xE1, 0xF8, 0x98, 0x11, 0x69, 0xD9, 0x8E, 0x94, 0x9B, 0x1E, 0x87, 0xE9, 0xCE, 0x55, 0x28, 0xDF,
    0x8C, 0xA1, 0x89, 0x0D, 0xBF, 0xE6, 0x42, 0x68, 0x41, 0x99, 0x2D, 0x0F, 0xB0, 0x54, 0xBB, 0x16]

set_option maxRecDepth 4000 in
def inverseSubstitutes : Vector UInt8 256 :=
  #v[
    0x52, 0x09, 0x6A, 0xD5, 0x30, 0x36, 0xA5, 0x38, 0xBF, 0x40, 0xA3, 0x9E, 0x81, 0xF3, 0xD7, 0xFB,
    0x7C, 0xE3, 0x39, 0x82, 0x9B, 0x2F, 0xFF, 0x87, 0x34, 0x8E, 0x43, 0x44, 0xC4, 0xDE, 0xE9, 0xCB,
    0x54, 0x7B, 0x94, 0x32, 0xA6, 0xC2, 0x23, 0x3D, 0xEE, 0x4C, 0x95, 0x0B, 0x42, 0xFA, 0xC3, 0x4E,
    0x08, 0x2E, 0xA1, 0x66, 0x28, 0xD9, 0x24, 0xB2, 0x76, 0x5B, 0xA2, 0x49, 0x6D, 0x8B, 0xD1, 0x25,
    0x72, 0xF8, 0xF6, 0x64, 0x86, 0x68, 0x98, 0x16, 0xD4, 0xA4, 0x5C, 0xCC, 0x5D, 0x65, 0xB6, 0x92,
    0x6C, 0x70, 0x48, 0x50, 0xFD, 0xED, 0xB9, 0xDA, 0x5E, 0x15, 0x46, 0x57, 0xA7, 0x8D, 0x9D, 0x84,
    0x90, 0xD8, 0xAB, 0x00, 0x8C, 0xBC, 0xD3, 0x0A, 0xF7, 0xE4, 0x58, 0x05, 0xB8, 0xB3, 0x45, 0x06,
    0xD0, 0x2C, 0x1E, 0x8F, 0xCA, 0x3F, 0x0F, 0x02, 0xC1, 0xAF, 0xBD, 0x03, 0x01, 0x13, 0x8A, 0x6B,
    0x3A, 0x91, 0x11, 0x41, 0x4F, 0x67, 0xDC, 0xEA, 0x97, 0xF2, 0xCF, 0xCE, 0xF0, 0xB4, 0xE6, 0x73,
    0x96, 0xAC, 0x74, 0x22, 0xE7, 0xAD, 0x35, 0x85, 0xE2, 0xF9, 0x37, 0xE8, 0x1C, 0x75, 0xDF, 0x6E,
    0x47, 0xF1, 0x1A, 0x71, 0x1D, 0x29, 0xC5, 0x89, 0x6F, 0xB7, 0x62, 0x0E, 0xAA, 0x18, 0xBE, 0x1B,
    0xFC, 0x56, 0x3E, 0x4B, 0xC6, 0xD2, 0x79, 0x20, 0x9A, 0xDB, 0xC0, 0xFE, 0x78, 0xCD, 0x5A, 0xF4,
    0x1F, 0xDD, 0xA8, 0x33, 0x88, 0x07, 0xC7, 0x31, 0xB1, 0x12, 0x10, 0x59, 0x27, 0x80, 0xEC, 0x5F,
    0x60, 0x51, 0x7F, 0xA9, 0x19, 0xB5, 0x4A, 0x0D, 0x2D, 0xE5, 0x7A, 0x9F, 0x93, 0xC9, 0x9C, 0xEF,
    0xA0, 0xE0, 0x3B, 0x4D, 0xAE, 0x2A, 0xF5, 0xB0, 0xC8, 0xEB, 0xBB, 0x3C, 0x83, 0x53, 0x99, 0x61,
    0x17, 0x2B, 0x04, 0x7E, 0xBA, 0x77, 0xD6, 0x26, 0xE1, 0x69, 0x14, 0x63, 0x55, 0x21, 0x0C, 0x7D]

def substitute (x : UInt8) : UInt8 := substitutes.get ⟨x.toNat, x.toNat_lt⟩

def restore (x : UInt8) : UInt8 := inverseSubstitutes.get ⟨x.toNat, x.toNat_lt⟩

/-! ### Row shift -/

/-- Row `i` moves `i` columns to the left. -/
def Block.shiftRows (x : Block) : Block :=
  ⟨⟨x.p.a, x.q.b, x.r.c, x.s.d⟩, ⟨x.q.a, x.r.b, x.s.c, x.p.d⟩,
    ⟨x.r.a, x.s.b, x.p.c, x.q.d⟩, ⟨x.s.a, x.p.b, x.q.c, x.r.d⟩⟩

/-- Row `i` moves `i` columns to the right. -/
def Block.unshiftRows (x : Block) : Block :=
  ⟨⟨x.p.a, x.s.b, x.r.c, x.q.d⟩, ⟨x.q.a, x.p.b, x.s.c, x.r.d⟩,
    ⟨x.r.a, x.q.b, x.p.c, x.s.d⟩, ⟨x.s.a, x.r.b, x.q.c, x.p.d⟩⟩

/-! ### Column mix -/

/-- Twice an octet in the field: a shift, reduced by the field's polynomial. -/
def double (x : UInt8) : UInt8 :=
  if x < 0x80 then x <<< 1 else (x <<< 1) ^^^ 0x1B

/-- A column times the circulant matrix 2, 3, 1, 1. -/
def Column.mix (x : Column) : Column :=
  ⟨double x.a ^^^ (double x.b ^^^ x.b) ^^^ x.c ^^^ x.d,
    x.a ^^^ double x.b ^^^ (double x.c ^^^ x.c) ^^^ x.d,
    x.a ^^^ x.b ^^^ double x.c ^^^ (double x.d ^^^ x.d),
    (double x.a ^^^ x.a) ^^^ x.b ^^^ x.c ^^^ double x.d⟩

/-- The multiples of an octet by 14, 11, 13 and 9. -/
def times14 (x : UInt8) : UInt8 := double (double (double x)) ^^^ double (double x) ^^^ double x

@[inherit_doc times14]
def times11 (x : UInt8) : UInt8 := double (double (double x)) ^^^ double x ^^^ x

@[inherit_doc times14]
def times13 (x : UInt8) : UInt8 := double (double (double x)) ^^^ double (double x) ^^^ x

@[inherit_doc times14]
def times9 (x : UInt8) : UInt8 := double (double (double x)) ^^^ x

/-- A column times the circulant matrix 14, 11, 13, 9, the inverse of the mix. -/
def Column.unmix (x : Column) : Column :=
  ⟨times14 x.a ^^^ times11 x.b ^^^ times13 x.c ^^^ times9 x.d,
    times9 x.a ^^^ times14 x.b ^^^ times11 x.c ^^^ times13 x.d,
    times13 x.a ^^^ times9 x.b ^^^ times14 x.c ^^^ times11 x.d,
    times11 x.a ^^^ times13 x.b ^^^ times9 x.c ^^^ times14 x.d⟩

def Block.mix (x : Block) : Block := ⟨x.p.mix, x.q.mix, x.r.mix, x.s.mix⟩

def Block.unmix (x : Block) : Block := ⟨x.p.unmix, x.q.unmix, x.r.unmix, x.s.unmix⟩

/-! ### Rounds -/

/-- The round key after `key`; `constant` distinguishes the rounds. -/
def nextKey (constant : UInt8) (key : Block) : Block :=
  let turned : Column := ⟨key.s.b, key.s.c, key.s.d, key.s.a⟩
  let p := key.p.add ((turned.map substitute).add ⟨constant, 0, 0, 0⟩)
  let q := key.q.add p
  let r := key.r.add q
  ⟨p, q, r, key.s.add r⟩

/-- A key's round keys: the first, the nine inner ones in order, the last. -/
structure Schedule where
  first : Block
  inner : List Block
  last : Block

/-- The constants of the nine inner round keys: 1, and twice the one before. -/
def innerConstants : List UInt8 := [0x01, 0x02, 0x04, 0x08, 0x10, 0x20, 0x40, 0x80, 0x1B]

def lastConstant : UInt8 := 0x36

def nextKeys : List UInt8 → Block → List Block
  | [], _ => []
  | constant :: constants, key =>
    let next := nextKey constant key
    next :: nextKeys constants next

def schedule (key : Block) : Schedule :=
  let inner := nextKeys innerConstants key
  ⟨key, inner, nextKey lastConstant (inner.getLastD key)⟩

def round (x key : Block) : Block := ((x.map substitute).shiftRows.mix).add key

/-- The last round mixes no columns. -/
def lastRound (x key : Block) : Block := ((x.map substitute).shiftRows).add key

def unround (key x : Block) : Block := ((x.add key).unmix.unshiftRows).map restore

def lastUnround (key x : Block) : Block := ((x.add key).unshiftRows).map restore

def Schedule.encipher (keys : Schedule) (x : Block) : Block :=
  lastRound (keys.inner.foldl round (x.add keys.first)) keys.last

def Schedule.decipher (keys : Schedule) (x : Block) : Block :=
  (keys.inner.foldr unround (lastUnround keys.last x)).add keys.first

end ClusterLicense.Aes
