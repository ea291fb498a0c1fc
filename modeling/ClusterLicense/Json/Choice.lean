/-
  ClusterLicense/Json/Choice.lean
  ===============================
  **One of a few names**: a string, or an object whose only member has the name
  and the value null.
-/
import ClusterLicense.Json.Scalar
import ClusterLicense.Json.Skipped

namespace ClusterLicense.Json

/-- The value with a name, where the names of all values are known. -/
def choose {α : Type} (choices : List (String × α)) (name : String) : Reader α :=
  match choices.lookup name with
  | some a => pure a
  | none => Reader.fail (.unknownVariant name (choices.map (·.1)))

/-- The name of the first member of an object that has been opened and may not be empty. -/
def firstName : Reader String := do
  match ← Reader.next with
  | some 34 =>
    Reader.advance
    textAfterMark
  | some 125 => Reader.failNext .expectedValue
  | some _ => Reader.failNext .keyNotString
  | none => Reader.failNext .endInObject

def choice {α : Type} (choices : List (String × α)) : Reader α := do
  match ← Reader.next with
  | none => Reader.failNext .endInValue
  | some 34 =>
    Reader.advance
    choose choices (← textAfterMark)
  | some 123 =>
    Reader.advance
    let a ← choose choices (← firstName)
    colon
    unit
    match ← Reader.next with
    | some 125 =>
      Reader.advance
      return a
    | some _ => Reader.fail .expectedValue
    | none => Reader.fail .endInObject
  | some _ => Reader.failNext .expectedValue

end ClusterLicense.Json
