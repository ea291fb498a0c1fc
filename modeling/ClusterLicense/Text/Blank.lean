/-
  ClusterLicense/Text/Blank.lean
  ==============================
  **Characters that surround a pasted key without belonging to it**: the
  property White_Space of the Unicode character database.
-/
namespace ClusterLicense.Text

/-- Whether a character has the property White_Space. -/
def isBlank (c : Char) : Bool :=
  let n := c.toNat
  (9 ≤ n && n ≤ 13) || n = 0x20 || n = 0x85 || n = 0xA0 || n = 0x1680 ||
    (0x2000 ≤ n && n ≤ 0x200A) || n = 0x2028 || n = 0x2029 || n = 0x202F ||
    n = 0x205F || n = 0x3000

def trimStart (cs : List Char) : List Char := cs.dropWhile isBlank

def trimEnd (cs : List Char) : List Char := (cs.reverse.dropWhile isBlank).reverse

def trim (text : String) : String := String.ofList (trimEnd (trimStart text.toList))

end ClusterLicense.Text
