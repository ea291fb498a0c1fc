/-
  ClusterLicense/Json/Value.lean
  ==============================
  **Writing JSON**, compactly or over several lines.

  Members are written in the order in which they are given.
-/
import ClusterLicense.Decimal.Digits
import ClusterLicense.Json.Text

namespace ClusterLicense.Json

inductive Value where
  | null
  | boolean (value : Bool)
  | integer (value : Int)
  | string (value : String)
  | object (members : List (String × Value))

namespace Value

def ofOption : Option String → Value
  | some text => .string text
  | none => .null

def booleanBytes (value : Bool) : Bytes := if value then 116 :: trueTail else 102 :: falseTail

mutual

def compact : Value → Bytes
  | .null => 110 :: nullTail
  | .boolean value => booleanBytes value
  | .integer value => Decimal.ofInt value
  | .string value => quoted value
  | .object members => 123 :: compactMembers members ++ [125]

def compactMembers : List (String × Value) → Bytes
  | [] => []
  | [(name, value)] => quoted name ++ 58 :: value.compact
  | (name, value) :: members => quoted name ++ 58 :: value.compact ++ 44 :: compactMembers members

end

/-- The start of a line at a depth: two blanks for each level. -/
def newLine (depth : Nat) : Bytes := 10 :: List.replicate (2 * depth) 32

mutual

/-- The octets of a value at a depth, each member on a line of its own. -/
def pretty (depth : Nat) : Value → Bytes
  | .object [] => [123, 125]
  | .object members => 123 :: prettyMembers (depth + 1) members ++ newLine depth ++ [125]
  | .null => 110 :: nullTail
  | .boolean value => booleanBytes value
  | .integer value => Decimal.ofInt value
  | .string value => quoted value

def prettyMembers (depth : Nat) : List (String × Value) → Bytes
  | [] => []
  | [(name, value)] => newLine depth ++ quoted name ++ [58, 32] ++ value.pretty depth
  | (name, value) :: members =>
    newLine depth ++ quoted name ++ [58, 32] ++ value.pretty depth ++ 44 ::
      prettyMembers depth members

end

end Value

end ClusterLicense.Json
