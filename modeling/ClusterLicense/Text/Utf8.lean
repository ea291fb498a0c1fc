/-
  ClusterLicense/Text/Utf8.lean
  =============================
  **Texts as octets and back.**

  Writing a text never fails.  Reading takes one character after the other off
  the front of the octets (`first?`): the lead octet says how many follow, and
  the number they spell must need that many octets and be a character.  When
  reading stops early, the length of the part that was read is the offset of
  the fault.
-/
import ClusterLicense.Bytes.BigEndian

namespace ClusterLicense.Utf8

def encode (text : String) : Bytes :=
  text.toList.flatMap String.utf8EncodeChar

/-! ### One character -/

def isTail (b : UInt8) : Bool := 0x80 ≤ b && b < 0xC0

/-- The character of a code point, if it is at least `least` and no surrogate. -/
def char? (least n : Nat) : Option Char :=
  if h : n.isValidChar then
    if least ≤ n then some (Char.ofNatAux n h) else none
  else none

/-- The first character and the octets after it. -/
def first? : Bytes → Option (Char × Bytes)
  | [] => none
  | a :: rest =>
    if a < 0x80 then (·, rest) <$> char? 0 a.toNat
    else if a < 0xC0 then none
    else if a < 0xE0 then
      match rest with
      | b :: rest =>
        if isTail b then (·, rest) <$> char? 0x80 (a.toNat % 32 * 64 + b.toNat % 64) else none
      | _ => none
    else if a < 0xF0 then
      match rest with
      | b :: c :: rest =>
        if isTail b && isTail c then
          (·, rest) <$> char? 0x800 ((a.toNat % 16 * 64 + b.toNat % 64) * 64 + c.toNat % 64)
        else none
      | _ => none
    else if a < 0xF8 then
      match rest with
      | b :: c :: d :: rest =>
        if isTail b && isTail c && isTail d then
          (·, rest) <$> char? 0x10000
            (((a.toNat % 8 * 64 + b.toNat % 64) * 64 + c.toNat % 64) * 64 + d.toNat % 64)
        else none
      | _ => none
    else none

/-- Every character takes at least one octet. -/
theorem length_lt_of_first? {bytes rest : Bytes} {c : Char}
    (h : first? bytes = some (c, rest)) : rest.length < bytes.length := by
  unfold first? at h
  repeat' split at h
  all_goals simp at h
  all_goals obtain ⟨_, -, -, rfl⟩ := h; simp; try omega

/-! ### A whole text -/

/-- The characters that the octets begin with, and the octets from the first fault on. -/
def characters (bytes : Bytes) : List Char × Bytes :=
  match h : first? bytes with
  | none => ([], bytes)
  | some (c, rest) =>
    have := length_lt_of_first? h
    let (cs, left) := characters rest
    (c :: cs, left)
  termination_by bytes.length

/-- The text that the octets spell, or the offset of the first octet that spells nothing. -/
def decode (bytes : Bytes) : Except Nat String :=
  match characters bytes with
  | (cs, []) => .ok (String.ofList cs)
  | (_, left) => .error (bytes.length - left.length)

end ClusterLicense.Utf8
