/-
  ClusterLicense/Json/Skipped.lean
  ================================
  **Values that nobody asked for.**

  A member with an unknown name still has to hold well-formed JSON.  Its value is
  run through without being kept: the open brackets are the only memory, so it
  may be nested as deep as it likes.  Strings are checked less closely than
  those that are kept: an escape by number needs four hexadecimal digits and
  nothing more.
-/
import ClusterLicense.Json.Numeral
import ClusterLicense.Json.Text

namespace ClusterLicense.Json

/-! ### Strings -/

/-- What follows the closing mark of a string whose opening mark has been taken away. -/
def afterText : Bytes → Except Fault Bytes
  | [] => .error ⟨.endInString, 0⟩
  | b :: rest =>
    if b = quotationMark then .ok rest
    else if b = backslash then
      match rest with
      | [] => .error ⟨.endInString, 0⟩
      | c :: rest =>
        if c = 117 then
          match hexUnit rest with
          | .error fault => .error fault
          | .ok _ => afterText (rest.drop 4)
        else if [quotationMark, backslash, 47, 98, 102, 110, 114, 116].contains c then
          afterText rest
        else .error ⟨.invalidEscape, rest.length⟩
    else if b < 32 then .error ⟨.controlCharacter, rest.length + 1⟩
    else afterText rest
  termination_by s => s.length
  decreasing_by all_goals simp only [List.length_cons, List.length_drop]; omega

/-- Runs through a string after its opening mark. -/
def skipText : Reader Unit := fun s => (((), ·)) <$> afterText s

/-! ### Nested values -/

/-- What is open: an array or an object. -/
inductive Bracket where
  | array
  | object
  deriving DecidableEq

namespace Bracket

def closing : Bracket → UInt8
  | .array => 93
  | .object => 125

/-- The problem with an input that ends before it is closed. -/
def unclosed : Bracket → Problem
  | .array => .endInList
  | .object => .endInObject

/-- The problem with an octet that neither closes it nor separates its values. -/
def unseparated : Bracket → Problem
  | .array => .expectedCommaOrBracket
  | .object => .expectedCommaOrBrace

end Bracket

/-- Where in a value reading stands, with the open brackets, the innermost first. -/
inductive SkipState where
  | before (inside : List Bracket)
  | behind (inside : List Bracket)

def colon : Reader Unit := do
  match ← Reader.next with
  | some 58 => Reader.advance
  | some _ => Reader.failNext .expectedColon
  | none => Reader.failNext .endInObject

/-- Runs through the name of a member and its colon, where there is a member at all. -/
def skipName : Bracket → Reader Unit
  | .array => pure ()
  | .object => do
    match ← Reader.next with
    | some 34 =>
      Reader.advance
      skipText
      colon
    | some _ => Reader.failNext .keyNotString
    | none => Reader.failNext .endInObject

/-- Opens a bracket, which may be closed again at once. -/
def openBracket (bracket : Bracket) (inside : List Bracket) : Reader SkipState := do
  Reader.advance
  match ← Reader.next with
  | none => Reader.failNext bracket.unclosed
  | some b =>
    if b = bracket.closing then
      Reader.advance
      return .behind inside
    else
      skipName bracket
      return .before (bracket :: inside)

def skipOne (inside : List Bracket) : Reader SkipState := do
  match ← Reader.next with
  | none => Reader.failNext .endInValue
  | some b =>
    if b = 91 then openBracket .array inside
    else if b = 123 then openBracket .object inside
    else
      if b = 110 then
        Reader.advance
        keyword nullTail
      else if b = 116 then
        Reader.advance
        keyword trueTail
      else if b = 102 then
        Reader.advance
        keyword falseTail
      else if b = quotationMark then
        Reader.advance
        skipText
      else if startsNumber b then
        let _ ← Numeral.read .invalidNumber
      else Reader.failNext .expectedValue
      return .behind inside

def skipStep : SkipState → Reader (SkipState ⊕ Unit)
  | .before inside => .inl <$> skipOne inside
  | .behind [] => pure (.inr ())
  | .behind (bracket :: inside) => do
    match ← Reader.next with
    | none => Reader.failNext bracket.unclosed
    | some b =>
      if b = 44 then
        Reader.advance
        skipName bracket
        return .inl (.before (bracket :: inside))
      else if b = bracket.closing then
        Reader.advance
        return .inl (.behind inside)
      else Reader.failNext bracket.unseparated

def skipValue : Reader Unit := Reader.iterate skipStep (.before [])

end ClusterLicense.Json
