/-
  ClusterLicense/Json/Text.lean
  =============================
  **Strings inside JSON.**

  Writing escapes the octets that must not stand in a string and nothing else
  (`escapeOctet`).  Reading undoes every escape there is; an escape tells how
  many octets it takes (`Unescaped`), so the reading of a string follows the
  length of what is left.  Only at its closing mark is a string checked to be a
  text.
-/
import ClusterLicense.Json.Reader
import ClusterLicense.Text.Utf8

namespace ClusterLicense.Json

def quotationMark : UInt8 := 34

def backslash : UInt8 := 92

/-! ### Writing -/

def hexDigit (n : Nat) : UInt8 := UInt8.ofNat (if n < 10 then 48 + n else 87 + n)

/-- An octet inside a string: quotation marks, backslashes and control characters escaped. -/
def escapeOctet (b : UInt8) : Bytes :=
  if b = quotationMark || b = backslash then [backslash, b]
  else if b = 8 then [backslash, 98]
  else if b = 9 then [backslash, 116]
  else if b = 10 then [backslash, 110]
  else if b = 12 then [backslash, 102]
  else if b = 13 then [backslash, 114]
  else if b < 32 then
    [backslash, 117, 48, 48, hexDigit (b.toNat / 16), hexDigit (b.toNat % 16)]
  else [b]

def quoted (text : String) : Bytes :=
  quotationMark :: (Utf8.encode text).flatMap escapeOctet ++ [quotationMark]

/-! ### Escapes -/

def hexValue? (b : UInt8) : Option Nat :=
  if 48 ≤ b ∧ b ≤ 57 then some (b.toNat - 48)
  else if 97 ≤ b ∧ b ≤ 102 then some (b.toNat - 87)
  else if 65 ≤ b ∧ b ≤ 70 then some (b.toNat - 55)
  else none

def hexUnit? (a b c d : UInt8) : Option Nat := do
  pure (((← hexValue? a) * 16 + (← hexValue? b)) * 256 + (← hexValue? c) * 16 + (← hexValue? d))

/-- The four hexadecimal digits at the front, which are judged together. -/
def hexUnit : Bytes → Except Fault Nat
  | a :: b :: c :: d :: rest =>
    match hexUnit? a b c d with
    | some n => .ok n
    | none => .error ⟨.invalidEscape, rest.length⟩
  | _ => .error ⟨.endInString, 0⟩

/-- What an escape stands for, and how many octets it takes after its backslash. -/
structure Unescaped where
  bytes : Bytes
  size : Nat

/-- Whether a number is the first half of a surrogate pair. -/
def isLeading (n : Nat) : Bool := 0xD800 ≤ n && n < 0xDC00

def isTrailing (n : Nat) : Bool := 0xDC00 ≤ n && n < 0xE000

/-- The second half of a surrogate pair, which is an escape of its own. -/
def trailingUnit : Bytes → Except Fault Nat
  | [] => .error ⟨.endInString, 0⟩
  | b :: rest =>
    if b = backslash then
      match rest with
      | [] => .error ⟨.endInString, 0⟩
      | c :: rest =>
        if c = 117 then
          match hexUnit rest with
          | .error fault => .error fault
          | .ok n => if isTrailing n then .ok n else .error ⟨.loneSurrogate, rest.length - 4⟩
        else .error ⟨.endOfHexEscape, rest.length⟩
    else .error ⟨.endOfHexEscape, rest.length⟩

/-- An escape by number; `rest` follows the letter `u`. -/
def escapeByNumber (rest : Bytes) : Except Fault Unescaped := do
  let n ← hexUnit rest
  if isTrailing n then
    throw ⟨.loneSurrogate, rest.length - 4⟩
  if isLeading n then
    let m ← trailingUnit (rest.drop 4)
    let c := Char.ofNat (0x10000 + (n - 0xD800) * 0x400 + (m - 0xDC00))
    pure ⟨String.utf8EncodeChar c, 11⟩
  else pure ⟨String.utf8EncodeChar (Char.ofNat n), 5⟩

def unescape : Bytes → Except Fault Unescaped
  | [] => .error ⟨.endInString, 0⟩
  | b :: rest =>
    if b = quotationMark || b = backslash || b = 47 then .ok ⟨[b], 1⟩
    else if b = 98 then .ok ⟨[8], 1⟩
    else if b = 116 then .ok ⟨[9], 1⟩
    else if b = 110 then .ok ⟨[10], 1⟩
    else if b = 102 then .ok ⟨[12], 1⟩
    else if b = 114 then .ok ⟨[13], 1⟩
    else if b = 117 then escapeByNumber rest
    else .error ⟨.invalidEscape, rest.length⟩

/-! ### Reading -/

/-- The octets of a string after its opening mark, and what follows its closing mark. -/
def textOctets : Bytes → Except Fault (Bytes × Bytes)
  | [] => .error ⟨.endInString, 0⟩
  | b :: rest =>
    if b = quotationMark then .ok ([], rest)
    else if b = backslash then
      match unescape rest with
      | .error fault => .error fault
      | .ok u =>
        match textOctets (rest.drop u.size) with
        | .error fault => .error fault
        | .ok (bytes, after) => .ok (u.bytes ++ bytes, after)
    else if b < 32 then .error ⟨.controlCharacter, rest.length⟩
    else
      match textOctets rest with
      | .error fault => .error fault
      | .ok (bytes, after) => .ok (b :: bytes, after)
  termination_by s => s.length
  decreasing_by all_goals simp only [List.length_cons, List.length_drop]; omega

/-- Reads a string after its opening mark.  Octets that are no text are reported as many
octets before the closing mark as they and what follows them in the string take. -/
def textAfterMark : Reader String := fun s =>
  match textOctets s with
  | .error fault => .error fault
  | .ok (bytes, rest) =>
    match Utf8.decode bytes with
    | .ok text => .ok (text, rest)
    | .error valid => .error ⟨.invalidCodePoint, rest.length + (bytes.length - valid)⟩

end ClusterLicense.Json
