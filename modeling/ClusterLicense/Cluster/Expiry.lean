/-
  ClusterLicense/Cluster/Expiry.lean
  ==================================
  **The health check on the license's expiration.**

  The time that is left decides the window a license is in; the window decides
  how urgent the check's failure is.  A node without a license passes.
-/
import ClusterLicense.Cluster.Config

namespace ClusterLicense

/-- How urgently a failed health check needs attention. -/
inductive Severity where
  | none
  | medium
  | high
  deriving DecidableEq

namespace Severity

def rank : Severity → Nat
  | .none => 0
  | .medium => 1
  | .high => 2

def name : Severity → String
  | .none => "NONE"
  | .medium => "MEDIUM"
  | .high => "HIGH"

def choices : List (String × Severity) :=
  [.none, .medium, .high].map fun severity => (severity.name, severity)

def ofJson (json : Bytes) : Except LicenseError Severity :=
  match (Json.choice choices).whole json with
  | .ok severity => .ok severity
  | .error fault => .error (.serialization (fault.message json))

end Severity

/-- The windows before an expiration that are worth a warning. -/
inductive ExpiryNotification where
  /-- Inside the moderate window and outside the severe one. -/
  | moderate
  /-- Inside the severe window, or expired. -/
  | severe
  deriving DecidableEq

namespace ExpiryNotification

/-- The window that a record is in at an instant, if it is in any. -/
def classify (record : LicenseRecord) (now : Int64) (thresholds : ExpiryThresholds) :
    Option ExpiryNotification :=
  let left := record.millisUntilExpiry now
  if left ≤ thresholds.severe then some .severe
  else if left ≤ thresholds.moderate then some .moderate
  else none

/-- How urgent a window is. -/
def severity : ExpiryNotification → Severity
  | .moderate => .medium
  | .severe => .high

end ExpiryNotification

/-- The check of a node's license at an instant. -/
structure ExpiryCheck where
  license : Option LicenseRecord
  thresholds : ExpiryThresholds
  now : Int64

namespace ExpiryCheck

/-- The number of this check among a node's health checks. -/
def id : Int32 := 5

def notification (check : ExpiryCheck) : Option ExpiryNotification :=
  check.license.bind fun record =>
    ExpiryNotification.classify record check.now check.thresholds

def passes (check : ExpiryCheck) : Bool := check.notification.isNone

/-- How urgent the failure is; there is no urgency in a check that passes. -/
def severity (check : ExpiryCheck) : Severity :=
  (check.notification.map ExpiryNotification.severity).getD .none

def description (check : ExpiryCheck) : String :=
  let date := (check.license.bind (·.expirationDate?)).getD "an unknown date"
  s!"Your license will expire on {date}. " ++
    "Request a new license key to keep enterprise features enabled."

end ExpiryCheck

end ClusterLicense
