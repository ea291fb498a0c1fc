/-
  ClusterLicense/Json/Form.lean
  =============================
  **Objects with known fields.**

  A `Form` says which fields a value has and how each is read.  While the value
  is read it is a draft, in which fields are still missing; at the end the form
  makes the value of its draft or says what is missing.

  A form is filled in from an object, with its members in any order, or from an
  array, with the fields in the form's order.  What is wrong with the fields
  themselves (one that is unknown, double or missing) is reported at the end of
  the value: the reader first tries to close the object or array, so that the
  place of the fault is behind it.
-/
import ClusterLicense.Json.Scalar
import ClusterLicense.Json.Skipped

namespace ClusterLicense.Json

/-- A field of drafts of type `δ`. -/
structure Field (δ : Type) where
  name : String
  /-- Whether the draft has the field already. -/
  isFilled : δ → Bool
  /-- Reads the field's value and puts it into the draft. -/
  read : Reader (δ → δ)
  /-- What an array that ends before the field leaves in the draft; a field without one has to
  be there. -/
  absent : Option (δ → δ)

/-- A kind of value that is written as an object. -/
structure Form (δ α : Type) where
  /-- How faults name the value. -/
  name : String
  /-- The fields, in the order of an array's elements. -/
  fields : List (Field δ)
  /-- Whether a member with another name is a fault; otherwise its value is run through. -/
  refusesOthers : Bool
  /-- The draft without any field. -/
  blank : δ
  /-- The value of a draft. -/
  finish : δ → Except Problem α

namespace Form

variable {δ α : Type}

/-! ### Members of an object -/

/-- The name of the next member, or none where the object is closed. -/
def memberName? (isFirst : Bool) : Reader (Option String) := do
  let wantName : Option UInt8 → Reader (Option String)
    | some 34 => do
      Reader.advance
      some <$> textAfterMark
    | some 125 => Reader.failNext .trailingComma
    | some _ => Reader.failNext .keyNotString
    | none => Reader.failNext .endInValue
  match ← Reader.next with
  | none => Reader.failNext .endInObject
  | some 125 => return none
  | some b =>
    if isFirst then wantName (some b)
    else if b = 44 then
      Reader.advance
      wantName (← Reader.next)
    else Reader.failNext .expectedCommaOrBrace

/-- Reads one member into the draft; what is wrong with its name ends the reading of members. -/
def memberStep (form : Form δ α) (state : Bool × δ) :
    Reader ((Bool × δ) ⊕ Except Problem δ) := do
  let (isFirst, draft) := state
  match ← memberName? isFirst with
  | none => return .inr (.ok draft)
  | some name =>
    match form.fields.find? (·.name == name) with
    | some field =>
      if field.isFilled draft then return .inr (.error (.duplicateField name))
      else
        colon
        let fill ← field.read
        return .inl (false, fill draft)
    | none =>
      if form.refusesOthers then
        return .inr (.error (.unknownField name (form.fields.map (·.name))))
      else
        colon
        skipValue
        return .inl (false, draft)

def members (form : Form δ α) : Reader (Except Problem δ) :=
  Reader.iterate form.memberStep (true, form.blank)

/-! ### Elements of an array -/

/-- Whether there is another element, which then is next. -/
def hasElement (isFirst : Bool) : Reader Bool := do
  match ← Reader.next with
  | none => Reader.failNext .endInList
  | some b =>
    if b = 93 then return false
    else if isFirst then return true
    else if b = 44 then
      Reader.advance
      match ← Reader.next with
      | some 93 => Reader.failNext .trailingComma
      | some _ => return true
      | none => Reader.failNext .endInValue
    else Reader.failNext .expectedCommaOrBracket

/-- Reads the elements for the given fields, of which `count` went before. -/
def elements (form : Form δ α) (count : Nat) (draft : δ) :
    List (Field δ) → Reader (Except Problem δ)
  | [] => return .ok draft
  | field :: fields => do
    if ← hasElement (count = 0) then
      let fill ← field.read
      elements form (count + 1) (fill draft) fields
    else
      match field.absent with
      | some fill => elements form (count + 1) (fill draft) fields
      | none => return .error (.invalidLength count form.name form.fields.length)

/-! ### Closing -/

/-- Closes an object or array whose fields are in order. -/
def close : Bracket → Reader Unit
  | .object => do
    match ← Reader.next with
    | some 125 => Reader.advance
    | some 44 => Reader.failNext .trailingComma
    | some _ => Reader.failNext .trailingCharacters
    | none => Reader.failNext .endInObject
  | .array => do
    match ← Reader.next with
    | some 93 => Reader.advance
    | some 44 =>
      Reader.advance
      match ← Reader.next with
      | some 93 => Reader.failNext .trailingComma
      | _ => Reader.failNext .trailingCharacters
    | some _ => Reader.failNext .trailingCharacters
    | none => Reader.failNext .endInList

/-- Goes as far as closing would, whether or not there is anything to close. -/
def closeAnyway : Bracket → Reader Unit
  | .object => do
    Reader.blanks
    let _ ← Reader.skip? 125
  | .array => do
    Reader.blanks
    unless ← Reader.skip? 93 do
      if ← Reader.skip? 44 then Reader.blanks

/-- The value of a draft, once the bracket around it has been dealt with. -/
def conclude (form : Form δ α) (bracket : Bracket) (draft : Except Problem δ) : Reader α := do
  match draft >>= form.finish with
  | .ok value =>
    close bracket
    return value
  | .error problem =>
    closeAnyway bracket
    Reader.fail problem

/-! ### The whole value -/

/-- Reads a value from an object or an array. -/
def read (form : Form δ α) : Reader α := do
  match ← Reader.next with
  | none => Reader.failNext .endInValue
  | some 123 =>
    Reader.advance
    form.conclude .object (← form.members)
  | some 91 =>
    Reader.advance
    form.conclude .array (← form.elements 0 form.blank form.fields)
  | some _ => mismatch s!"struct {form.name}"

end Form

end ClusterLicense.Json
