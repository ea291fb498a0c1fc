/-
  ClusterLicense/Digest/Sha2.lean
  ===============================
  **The digests SHA-256 and SHA-512.**

  Both are one construction over words of 32 or 64 bits: pad the message, cut
  it into blocks of sixteen words, and fold a compression function over them.
  `Variant` collects what differs, so there is one definition of everything
  else.
-/
import ClusterLicense.Bytes.BigEndian

namespace ClusterLicense.Sha2

/-- Two rotations and either a third rotation or a shift, added without carry. -/
structure Mixer where
  first : Nat
  second : Nat
  third : Nat
  /-- Whether the third is a shift. -/
  shifts : Bool

def Mixer.apply {w : Nat} (m : Mixer) (x : BitVec w) : BitVec w :=
  x.rotateRight m.first ^^^ x.rotateRight m.second ^^^
    (if m.shifts then x >>> m.third else x.rotateRight m.third)

/-- The eight words that are carried from block to block. -/
structure State (w : Nat) where
  a : BitVec w
  b : BitVec w
  c : BitVec w
  d : BitVec w
  e : BitVec w
  f : BitVec w
  g : BitVec w
  h : BitVec w

/-- What distinguishes the members of the family. -/
structure Variant (w : Nat) where
  /-- One constant for each round. -/
  constants : List (BitVec w)
  initial : State w
  /-- The mixers of the round function. -/
  upperA : Mixer
  upperE : Mixer
  /-- The mixers of the message schedule. -/
  lower0 : Mixer
  lower1 : Mixer

variable {w : Nat}

/-! ### Words and blocks -/

def wordBytes (x : BitVec w) : Bytes := Bytes.ofNat (w / 8) x.toNat

def pieces {α : Type} (size : Nat) : (count : Nat) → List α → List (List α)
  | 0, _ => []
  | count + 1, xs => xs.take size :: pieces size count (xs.drop size)

/-- The words of an octet string; what fills no word is dropped. -/
def words (w : Nat) (bytes : Bytes) : List (BitVec w) :=
  (pieces (w / 8) (bytes.length / (w / 8)) bytes).map fun piece =>
    BitVec.ofNat w (Bytes.toNat piece)

def blocks {w : Nat} (xs : List (BitVec w)) : List (List (BitVec w)) :=
  pieces 16 (xs.length / 16) xs

/-- The message with one set bit, zeros, and its length in bits as two words. -/
def padded (w : Nat) (message : Bytes) : Bytes :=
  let block := 2 * w
  let tail := w / 4
  let zeros := (block - (message.length + 1 + tail) % block) % block
  message ++ [0x80] ++ List.replicate zeros 0 ++ Bytes.ofNat tail (8 * message.length)

/-! ### Compression -/

/-- The next word of the schedule from the sixteen before it, the oldest first. -/
def scheduleWord (v : Variant w) (window : List (BitVec w)) : BitVec w :=
  v.lower1.apply (window.getD 14 0) + window.getD 9 0 + v.lower0.apply (window.getD 1 0)
    + window.getD 0 0

/-- One round with the schedule word `x` and the round constant `k`. -/
def State.step (v : Variant w) (s : State w) (x k : BitVec w) : State w :=
  let choice := (s.e &&& s.f) ^^^ (~~~s.e &&& s.g)
  let majority := (s.a &&& s.b) ^^^ (s.a &&& s.c) ^^^ (s.b &&& s.c)
  let t := s.h + v.upperE.apply s.e + choice + k + x
  ⟨t + (v.upperA.apply s.a + majority), s.a, s.b, s.c, s.d + t, s.e, s.f, s.g⟩

/-- The rounds for the given constants; `window` holds the next sixteen schedule words. -/
def rounds (v : Variant w) : List (BitVec w) → List (BitVec w) → State w → State w
  | [], _, s => s
  | k :: ks, window, s =>
    rounds v ks (window.drop 1 ++ [scheduleWord v window]) (s.step v (window.getD 0 0) k)

def State.add (s t : State w) : State w :=
  ⟨s.a + t.a, s.b + t.b, s.c + t.c, s.d + t.d, s.e + t.e, s.f + t.f, s.g + t.g, s.h + t.h⟩

/-- Takes one block of sixteen words into the state. -/
def State.absorb (v : Variant w) (s : State w) (block : List (BitVec w)) : State w :=
  s.add (rounds v v.constants block s)

def State.toBytes (s : State w) : Bytes :=
  [s.a, s.b, s.c, s.d, s.e, s.f, s.g, s.h].flatMap wordBytes

def Variant.digest (v : Variant w) (message : Bytes) : Bytes :=
  ((blocks (words w (padded w message))).foldl (State.absorb v) v.initial).toBytes

/-! ### The two members -/

def variant256 : Variant 32 where
  constants := [
     0x428A2F98, 0x71374491, 0xB5C0FBCF, 0xE9B5DBA5, 0x3956C25B, 0x59F111F1, 0x923F82A4, 0xAB1C5ED5,
     0xD807AA98, 0x12835B01, 0x243185BE, 0x550C7DC3, 0x72BE5D74, 0x80DEB1FE, 0x9BDC06A7, 0xC19BF174,
     0xE49B69C1, 0xEFBE4786, 0x0FC19DC6, 0x240CA1CC, 0x2DE92C6F, 0x4A7484AA, 0x5CB0A9DC, 0x76F988DA,
     0x983E5152, 0xA831C66D, 0xB00327C8, 0xBF597FC7, 0xC6E00BF3, 0xD5A79147, 0x06CA6351, 0x14292967,
     0x27B70A85, 0x2E1B2138, 0x4D2C6DFC, 0x53380D13, 0x650A7354, 0x766A0ABB, 0x81C2C92E, 0x92722C85,
     0xA2BFE8A1, 0xA81A664B, 0xC24B8B70, 0xC76C51A3, 0xD192E819, 0xD6990624, 0xF40E3585, 0x106AA070,
     0x19A4C116, 0x1E376C08, 0x2748774C, 0x34B0BCB5, 0x391C0CB3, 0x4ED8AA4A, 0x5B9CCA4F, 0x682E6FF3,
     0x748F82EE, 0x78A5636F, 0x84C87814, 0x8CC70208, 0x90BEFFFA, 0xA4506CEB, 0xBEF9A3F7, 0xC67178F2]
  initial := ⟨
     0x6A09E667, 0xBB67AE85, 0x3C6EF372, 0xA54FF53A,
     0x510E527F, 0x9B05688C, 0x1F83D9AB, 0x5BE0CD19⟩
  upperA := ⟨2, 13, 22, false⟩
  upperE := ⟨6, 11, 25, false⟩
  lower0 := ⟨7, 18, 3, true⟩
  lower1 := ⟨17, 19, 10, true⟩

def variant512 : Variant 64 where
  constants := [
     0x428A2F98D728AE22, 0x7137449123EF65CD, 0xB5C0FBCFEC4D3B2F, 0xE9B5DBA58189DBBC,
     0x3956C25BF348B538, 0x59F111F1B605D019, 0x923F82A4AF194F9B, 0xAB1C5ED5DA6D8118,
     0xD807AA98A3030242, 0x12835B0145706FBE, 0x243185BE4EE4B28C, 0x550C7DC3D5FFB4E2,
     0x72BE5D74F27B896F, 0x80DEB1FE3B1696B1, 0x9BDC06A725C71235, 0xC19BF174CF692694,
     0xE49B69C19EF14AD2, 0xEFBE4786384F25E3, 0x0FC19DC68B8CD5B5, 0x240CA1CC77AC9C65,
     0x2DE92C6F592B0275, 0x4A7484AA6EA6E483, 0x5CB0A9DCBD41FBD4, 0x76F988DA831153B5,
     0x983E5152EE66DFAB, 0xA831C66D2DB43210, 0xB00327C898FB213F, 0xBF597FC7BEEF0EE4,
     0xC6E00BF33DA88FC2, 0xD5A79147930AA725, 0x06CA6351E003826F, 0x142929670A0E6E70,
     0x27B70A8546D22FFC, 0x2E1B21385C26C926, 0x4D2C6DFC5AC42AED, 0x53380D139D95B3DF,
     0x650A73548BAF63DE, 0x766A0ABB3C77B2A8, 0x81C2C92E47EDAEE6, 0x92722C851482353B,
     0xA2BFE8A14CF10364, 0xA81A664BBC423001, 0xC24B8B70D0F89791, 0xC76C51A30654BE30,
     0xD192E819D6EF5218, 0xD69906245565A910, 0xF40E35855771202A, 0x106AA07032BBD1B8,
     0x19A4C116B8D2D0C8, 0x1E376C085141AB53, 0x2748774CDF8EEB99, 0x34B0BCB5E19B48A8,
     0x391C0CB3C5C95A63, 0x4ED8AA4AE3418ACB, 0x5B9CCA4F7763E373, 0x682E6FF3D6B2B8A3,
     0x748F82EE5DEFB2FC, 0x78A5636F43172F60, 0x84C87814A1F0AB72, 0x8CC702081A6439EC,
     0x90BEFFFA23631E28, 0xA4506CEBDE82BDE9, 0xBEF9A3F7B2C67915, 0xC67178F2E372532B,
     0xCA273ECEEA26619C, 0xD186B8C721C0C207, 0xEADA7DD6CDE0EB1E, 0xF57D4F7FEE6ED178,
     0x06F067AA72176FBA, 0x0A637DC5A2C898A6, 0x113F9804BEF90DAE, 0x1B710B35131C471B,
     0x28DB77F523047D84, 0x32CAAB7B40C72493, 0x3C9EBE0A15C9BEBC, 0x431D67C49C100D4C,
     0x4CC5D4BECB3E42B6, 0x597F299CFC657E2A, 0x5FCB6FAB3AD6FAEC, 0x6C44198C4A475817]
  initial := ⟨
     0x6A09E667F3BCC908, 0xBB67AE8584CAA73B, 0x3C6EF372FE94F82B, 0xA54FF53A5F1D36F1,
     0x510E527FADE682D1, 0x9B05688C2B3E6C1F, 0x1F83D9ABFB41BD6B, 0x5BE0CD19137E2179⟩
  upperA := ⟨28, 34, 39, false⟩
  upperE := ⟨14, 18, 41, false⟩
  lower0 := ⟨1, 8, 7, true⟩
  lower1 := ⟨19, 61, 6, true⟩

def sha256 (message : Bytes) : Bytes := variant256.digest message

def sha512 (message : Bytes) : Bytes := variant512.digest message

end ClusterLicense.Sha2
