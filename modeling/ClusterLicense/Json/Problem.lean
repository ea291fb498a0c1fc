/-
  ClusterLicense/Json/Problem.lean
  ================================
  **What a reader of JSON complains about, and where.**

  A `Problem` is a cause, a `Fault` a cause with the place where reading
  stopped.  The place is kept as the number of octets that are left: readers
  know what they have left, and lines and columns only matter once the fault is
  shown beside the whole input.
-/
import ClusterLicense.Bytes.BigEndian
import ClusterLicense.Text.Quoted

namespace ClusterLicense.Json

/-! ### Problems -/

/-- What was found where something else was wanted. -/
inductive Found where
  | null
  | boolean (value : Bool)
  | integer (value : Int)
  /-- A number with a fraction or an exponent, or too large to be an integer, as text. -/
  | float (text : String)
  | string (value : String)
  | sequence
  | map
  deriving DecidableEq

def Found.describe : Found → String
  | .null => "null"
  | .boolean value => s!"boolean `{value}`"
  | .integer value => s!"integer `{value}`"
  | .float text => s!"floating point `{text}`"
  | .string value => "string " ++ Text.quote value
  | .sequence => "sequence"
  | .map => "map"

inductive Problem where
  | endInValue
  | endInList
  | endInObject
  | endInString
  | expectedColon
  | expectedCommaOrBracket
  | expectedCommaOrBrace
  | expectedIdent
  | expectedValue
  | invalidEscape
  | invalidNumber
  | numberOutOfRange
  | invalidCodePoint
  | controlCharacter
  | keyNotString
  | loneSurrogate
  | endOfHexEscape
  | trailingComma
  | trailingCharacters
  /-- A value of the wrong type. -/
  | invalidType (found : Found) (wanted : String)
  /-- A value of the right type that is out of range. -/
  | invalidValue (found : Found) (wanted : String)
  /-- An array with too few elements. -/
  | invalidLength (count : Nat) (form : String) (fields : Nat)
  | unknownField (name : String) (known : List String)
  | duplicateField (name : String)
  | missingField (name : String)
  | unknownVariant (name : String) (known : List String)
  deriving DecidableEq

def oneOf : List String → String
  | [] => "nothing"
  | [a] => s!"`{a}`"
  | [a, b] => s!"`{a}` or `{b}`"
  | names => "one of " ++ ", ".intercalate (names.map fun name => s!"`{name}`")

def Problem.message : Problem → String
  | .endInValue => "EOF while parsing a value"
  | .endInList => "EOF while parsing a list"
  | .endInObject => "EOF while parsing an object"
  | .endInString => "EOF while parsing a string"
  | .expectedColon => "expected `:`"
  | .expectedCommaOrBracket => "expected `,` or `]`"
  | .expectedCommaOrBrace => "expected `,` or `\x7d`"
  | .expectedIdent => "expected ident"
  | .expectedValue => "expected value"
  | .invalidEscape => "invalid escape"
  | .invalidNumber => "invalid number"
  | .numberOutOfRange => "number out of range"
  | .invalidCodePoint => "invalid unicode code point"
  | .controlCharacter => "control character (\\u0000-\\u001F) found while parsing a string"
  | .keyNotString => "key must be a string"
  | .loneSurrogate => "lone leading surrogate in hex escape"
  | .endOfHexEscape => "unexpected end of hex escape"
  | .trailingComma => "trailing comma"
  | .trailingCharacters => "trailing characters"
  | .invalidType found wanted => s!"invalid type: {found.describe}, expected {wanted}"
  | .invalidValue found wanted => s!"invalid value: {found.describe}, expected {wanted}"
  | .invalidLength count name fields =>
    let elements := if fields = 1 then "1 element" else s!"{fields} elements"
    s!"invalid length {count}, expected struct {name} with {elements}"
  | .unknownField name known => s!"unknown field `{name}`, expected {oneOf known}"
  | .duplicateField name => s!"duplicate field `{name}`"
  | .missingField name => s!"missing field `{name}`"
  | .unknownVariant name known => s!"unknown variant `{name}`, expected {oneOf known}"

/-! ### Places -/

/-- A place in a text: lines count from one, columns count octets. -/
structure Place where
  line : Nat
  column : Nat
  deriving DecidableEq

def lineFeed : UInt8 := 10

/-- The place after the given octets: one line more than they have line feeds, and as many
columns as there are octets after the last one. -/
def Place.after (bytes : Bytes) : Place where
  line := 1 + bytes.count lineFeed
  column := (bytes.reverse.takeWhile (· != lineFeed)).length

/-- A problem, and how many octets of the input were left when it was met. -/
structure Fault where
  problem : Problem
  remaining : Nat
  deriving DecidableEq

def Fault.place (fault : Fault) (input : Bytes) : Place :=
  Place.after (input.take (input.length - fault.remaining))

def Fault.message (fault : Fault) (input : Bytes) : String :=
  let place := fault.place input
  s!"{fault.problem.message} at line {place.line} column {place.column}"

end ClusterLicense.Json
