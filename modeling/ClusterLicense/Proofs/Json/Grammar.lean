/-
  ClusterLicense/Proofs/Json/Grammar.lean
  =======================================
  **What JSON is**, apart from how it is read.

  The grammar is one of octets.  All marks and brackets are below 128, so a text is
  JSON if its octets follow the grammar and are UTF-8; a string that somebody reads
  has to be UTF-8 for itself (`Quotes`), while the grammar takes any octets between
  two marks for a string (`IsLiteral`), as long as nothing has to be escaped.

  A value is nested as deep as it likes.  Where the parts of an object or an array
  matter, `IsObject` and `IsArray` name them: the members in their order, each with
  the text that its name spells and the octets of its value.
-/
import ClusterLicense.Json.Skipped

namespace ClusterLicense.Json

def Blanks (s : Bytes) : Prop := ∀ b ∈ s, isBlank b = true

/-! ### Strings -/

/-- The letters that follow a backslash, and the octets that they stand for. -/
def letterEscapes : List (UInt8 × UInt8) :=
  [(quotationMark, quotationMark), (backslash, backslash), (47, 47), (98, 8), (116, 9), (110, 10),
    (102, 12), (114, 13)]

def IsPlain (b : UInt8) : Prop := 32 ≤ b ∧ b ≠ quotationMark ∧ b ≠ backslash

/-- A number as four hexadecimal digits, small or large. -/
def IsHex (n : Nat) (s : Bytes) : Prop :=
  ∃ a b c d, s = [a, b, c, d] ∧ hexUnit? a b c d = some n

/-- The octets after a backslash that stand for a character. -/
inductive Escapes : Char → Bytes → Prop where
  | letter {l b : UInt8} (h : (l, b) ∈ letterEscapes) : Escapes (Char.ofUInt8 b) [l]
  | number {c : Char} {s : Bytes} (h : IsHex c.toNat s) : Escapes c (117 :: s)
  /-- A character beyond 16 bits, as a pair of surrogates. -/
  | pair {c : Char} {n m : Nat} {s t : Bytes} (first : IsHex n s) (second : IsHex m t)
      (leading : isLeading n = true) (trailing : isTrailing m = true)
      (value : c.toNat = 0x10000 + (n - 0xD800) * 0x400 + (m - 0xDC00)) :
      Escapes c (117 :: (s ++ backslash :: 117 :: t))

/-- The ways to write a character inside a string. -/
inductive SpellsChar : Char → Bytes → Prop where
  | plain {c : Char} (h : 32 ≤ c.toNat ∧ c.toNat ≠ 34 ∧ c.toNat ≠ 92) :
      SpellsChar c (String.utf8EncodeChar c)
  | escaped {c : Char} {s : Bytes} (h : Escapes c s) : SpellsChar c (backslash :: s)

inductive Spells : List Char → Bytes → Prop where
  | nil : Spells [] []
  | cons {c : Char} {cs : List Char} {s t : Bytes} (first : SpellsChar c s) (others : Spells cs t) :
      Spells (c :: cs) (s ++ t)

def Quotes (text : String) (s : Bytes) : Prop :=
  ∃ body, Spells text.toList body ∧ s = quotationMark :: (body ++ [quotationMark])

/-- What may stand between the marks of a string, whether or not it spells a text. -/
inductive IsBody : Bytes → Prop where
  | nil : IsBody []
  | plain {b : UInt8} {s : Bytes} (h : IsPlain b) (others : IsBody s) : IsBody (b :: s)
  | letter {l b : UInt8} {s : Bytes} (h : (l, b) ∈ letterEscapes) (others : IsBody s) :
      IsBody (backslash :: l :: s)
  | number {n : Nat} {s t : Bytes} (h : IsHex n s) (others : IsBody t) :
      IsBody (backslash :: 117 :: (s ++ t))

def IsLiteral (s : Bytes) : Prop :=
  ∃ body, IsBody body ∧ s = quotationMark :: (body ++ [quotationMark])

/-! ### Numbers -/

def IsDigits (s : Bytes) : Prop := s ≠ [] ∧ ∀ b ∈ s, Decimal.isDigit b = true

/-- The digits before the point, without a zero before another digit. -/
def IsWhole (s : Bytes) : Prop := s = [48] ∨ IsDigits s ∧ s.head? ≠ some 48

inductive IsFraction : Bytes → Bytes → Prop where
  | none : IsFraction [] []
  | some {digits : Bytes} (h : IsDigits digits) : IsFraction digits (46 :: digits)

inductive IsSign : Bool → Bytes → Prop where
  | none : IsSign false []
  | plus : IsSign false [43]
  | minus : IsSign true [45]

inductive IsExponent : Option (Bool × Bytes) → Bytes → Prop where
  | none : IsExponent none []
  | some {mark : UInt8} {below : Bool} {sign digits : Bytes} (hmark : mark = 101 ∨ mark = 69)
      (hsign : IsSign below sign) (hdigits : IsDigits digits) :
      IsExponent (some (below, digits)) (mark :: (sign ++ digits))

structure Numeral.Writes (n : Numeral) (s : Bytes) : Prop where
  whole : IsWhole n.whole
  parts : ∃ fraction exponent, IsFraction n.fraction fraction ∧ IsExponent n.exponent exponent ∧
    s = (if n.negative then [45] else []) ++ (n.whole ++ (fraction ++ exponent))

/-! ### Values -/

def words : List Bytes := [110 :: nullTail, 116 :: trueTail, 102 :: falseTail]

def Bracket.opening : Bracket → UInt8
  | .array => 91
  | .object => 123

/-- A value, or what is inside a bracket, up to its closing: from the start, or from behind an
item. -/
inductive Part where
  | value
  | inside (bracket : Bracket) (isFirst : Bool)

/-- What comes before an item: a comma, unless it is the first. -/
inductive Lead : Bool → Bytes → Prop where
  | first : Lead true []
  | later {w : Bytes} (h : Blanks w) : Lead false (w ++ [44])

/-- What an item has before its value: in an object, a name and a colon. -/
inductive Label : Bracket → Bytes → Prop where
  | element : Label .array []
  | member {w name u : Bytes} (hw : Blanks w) (hname : IsLiteral name) (hu : Blanks u) :
      Label .object (w ++ (name ++ (u ++ [58])))

inductive IsPart : Part → Bytes → Prop where
  | word {s : Bytes} (h : s ∈ words) : IsPart .value s
  | number {n : Numeral} {s : Bytes} (h : n.Writes s) : IsPart .value s
  | literal {s : Bytes} (h : IsLiteral s) : IsPart .value s
  | bracket (bracket : Bracket) {s : Bytes} (inside : IsPart (.inside bracket true) s) :
      IsPart .value (bracket.opening :: s)
  | close {bracket : Bracket} {isFirst : Bool} {w : Bytes} (hw : Blanks w) :
      IsPart (.inside bracket isFirst) (w ++ [bracket.closing])
  | item {bracket : Bracket} {isFirst : Bool} {lead label w v t : Bytes} (hlead : Lead isFirst lead)
      (hlabel : Label bracket label) (hw : Blanks w) (value : IsPart .value v)
      (others : IsPart (.inside bracket false) t) :
      IsPart (.inside bracket isFirst) (lead ++ (label ++ (w ++ (v ++ t))))

def IsValue (s : Bytes) : Prop := IsPart .value s

/-! ### Values with named parts -/

/-- Items up to the closing bracket: from the start, or from behind an item. -/
inductive Items {ι : Type} (item : ι → Bytes → Prop) (closing : UInt8) :
    Bool → List ι → Bytes → Prop where
  | close {isFirst : Bool} {w : Bytes} (hw : Blanks w) :
      Items item closing isFirst [] (w ++ [closing])
  | item {isFirst : Bool} {i : ι} {is : List ι} {lead s t : Bytes} (hlead : Lead isFirst lead)
      (first : item i s) (others : Items item closing false is t) :
      Items item closing isFirst (i :: is) (lead ++ (s ++ t))

/-- A member: what its name spells and the octets of its value, with blanks between them. -/
inductive IsMember : String × Bytes → Bytes → Prop where
  | intro {name : String} {w q u x v : Bytes} (hw : Blanks w) (hname : Quotes name q)
      (hu : Blanks u) (hx : Blanks x) (hvalue : IsValue v) :
      IsMember (name, v) (w ++ (q ++ (u ++ 58 :: (x ++ v))))

inductive IsElement : Bytes → Bytes → Prop where
  | intro {w v : Bytes} (hw : Blanks w) (hvalue : IsValue v) : IsElement v (w ++ v)

def IsObject (members : List (String × Bytes)) (s : Bytes) : Prop :=
  ∃ t, Items IsMember 125 true members t ∧ s = 123 :: t

def IsArray (elements : List Bytes) (s : Bytes) : Prop :=
  ∃ t, Items IsElement 93 true elements t ∧ s = 91 :: t

end ClusterLicense.Json
