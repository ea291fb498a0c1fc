/-
  ClusterLicense/License/Kind.lean
  ================================
  **The two kinds of license**, their codes in an envelope and their names in
  JSON.
-/
import ClusterLicense.Json.Choice
import ClusterLicense.License.Error

namespace ClusterLicense

inductive LicenseKind where
  /-- The cluster itself; such a license is trusted without a signature. -/
  | selfGenerated
  /-- The licensing authority; such a license carries its signature. -/
  | enterprise
  deriving DecidableEq

namespace LicenseKind

def code : LicenseKind → Int32
  | .selfGenerated => 0
  | .enterprise => 1

def ofCode? (code : Int32) : Option LicenseKind :=
  if code = 0 then some .selfGenerated
  else if code = 1 then some .enterprise
  else none

/-- The kind with a code, or the failure that there is none. -/
def ofCode (code : Int32) : Except LicenseError LicenseKind :=
  match ofCode? code with
  | some kind => .ok kind
  | none => .error (.invalidLicenseType code)

def name : LicenseKind → String
  | .selfGenerated => "SELF_GENERATED"
  | .enterprise => "ENTERPRISE"

def choices : List (String × LicenseKind) :=
  [.selfGenerated, .enterprise].map fun kind => (kind.name, kind)

def ofJson (json : Bytes) : Except LicenseError LicenseKind :=
  match (Json.choice choices).whole json with
  | .ok kind => .ok kind
  | .error fault => .error (.serialization (fault.message json))

@[simp] theorem ofCode?_code (kind : LicenseKind) : ofCode? kind.code = some kind := by
  cases kind <;> rfl

end LicenseKind

end ClusterLicense
