/-
  ClusterLicense/License/Record.lean
  ==================================
  **License records**: to whom a license is issued, until when, and by which
  signature.

  A record is stored as compact JSON with its members in a fixed order.  A
  signature covers the form without the signature member, so signing a record
  again gives the same octets to sign.
-/
import ClusterLicense.Calendar.Timestamp
import ClusterLicense.Json.Form
import ClusterLicense.Json.Value
import ClusterLicense.License.Error

namespace ClusterLicense

/-- What a license says. -/
structure LicenseRecord where
  /-- The last millisecond, counted from 1970, at which the license is valid. -/
  expiration : Int64
  /-- The holder. -/
  issuedTo : String
  /-- The authority's signature in base64, if there is one. -/
  signature : Option String
  deriving DecidableEq

namespace LicenseRecord

/-- The record that a cluster issues to itself: it never expires. -/
def selfGenerated (clusterName : String) : LicenseRecord :=
  ⟨Int64.maxValue, clusterName, none⟩

/-- Whether the record carries a signature, be it empty. -/
def isSigned (record : LicenseRecord) : Bool := record.signature.isSome

/-- Two records agree if they differ at most in whether a missing signature is written. -/
def agrees (a b : LicenseRecord) : Bool :=
  a.expiration = b.expiration && a.issuedTo = b.issuedTo &&
    a.signature.getD "" = b.signature.getD ""

/-! ### Time -/

/-- Whether the expiration lies before an instant. -/
def isExpired (record : LicenseRecord) (now : Int64) : Bool := record.expiration < now

/-- The number of 64 bits that is nearest to an integer. -/
def clamp (n : Int) : Int64 :=
  if n < Int64.minValue.toInt then Int64.minValue
  else if Int64.maxValue.toInt < n then Int64.maxValue
  else Int64.ofInt n

/-- The milliseconds from an instant to the expiration, below zero once it has passed. -/
def millisUntilExpiry (record : LicenseRecord) (now : Int64) : Int64 :=
  clamp (record.expiration.toInt - now.toInt)

def expirationDate? (record : LicenseRecord) : Option String :=
  Calendar.timestamp? record.expiration

/-! ### Written forms -/

def expirationMember : String := "expirationDateInMs"

def issuedToMember : String := "issuedTo"

def signatureMember : String := "signature"

/-- The record in JSON; with the signature member, a missing signature is written as an empty
one. -/
def canonical (record : LicenseRecord) (withSignature : Bool) : Bytes :=
  let unsigned : List (String × Json.Value) :=
    [(expirationMember, .integer record.expiration.toInt),
      (issuedToMember, .string record.issuedTo)]
  let signature : List (String × Json.Value) :=
    if withSignature then [(signatureMember, .string (record.signature.getD ""))] else []
  (Json.Value.object (unsigned ++ signature)).compact

def stored (record : LicenseRecord) : Bytes := record.canonical record.isSigned

def signingBytes (record : LicenseRecord) : Bytes := record.canonical false

/-! ### Reading -/

structure Draft where
  expiration : Option Int64
  issuedTo : Option String
  /-- The signature, once its member has been read; the member may be null. -/
  signature : Option (Option String)

/-- How a record is read: other members are ignored, and the signature may be missing. -/
def form : Json.Form Draft LicenseRecord where
  name := "LicenseRecord"
  fields := [
    { name := expirationMember
      isFilled := (·.expiration.isSome)
      read := do
        let expiration ← Json.int64
        return fun draft => { draft with expiration := some expiration }
      absent := none },
    { name := issuedToMember
      isFilled := (·.issuedTo.isSome)
      read := do
        let issuedTo ← Json.text "a string"
        return fun draft => { draft with issuedTo := some issuedTo }
      absent := none },
    { name := signatureMember
      isFilled := (·.signature.isSome)
      read := do
        let signature ← Json.optional (Json.text "a string")
        return fun draft => { draft with signature := some signature }
      absent := some id }]
  refusesOthers := false
  blank := ⟨none, none, none⟩
  finish := fun draft =>
    match draft.expiration, draft.issuedTo with
    | none, _ => .error (.missingField expirationMember)
    | some _, none => .error (.missingField issuedToMember)
    | some expiration, some issuedTo => .ok ⟨expiration, issuedTo, draft.signature.join⟩

def parse (payload : Bytes) : Except LicenseError LicenseRecord :=
  match form.read.whole payload with
  | .ok record => .ok record
  | .error fault => .error (.parse (fault.message payload))

end LicenseRecord

end ClusterLicense
