/-
  ClusterLicense/License/Registration.lean
  ========================================
  **Committing licenses to cluster metadata.**

  Only a valid key is handed to the cluster, and a write that fails is reported
  once and not tried again.  `Ledger` is the write path as registration sees
  it: it remembers every write that it was asked for and what became of it, and
  whether writes work now.
-/
import ClusterLicense.License.Verifier

namespace ClusterLicense

/-- A key that a cluster was asked to commit. -/
structure WriteRequest where
  key : LicenseKey
  /-- Why the write failed, if it did. -/
  failure : Option String
  deriving DecidableEq

/-- The writes that a cluster was asked for. -/
structure Ledger where
  /-- All of them, whatever became of them, the oldest first. -/
  requests : List WriteRequest
  /-- Why writes fail at present, if they do. -/
  outage : Option String

namespace Ledger

def empty : Ledger := ⟨[], none⟩

/-- The keys that it was asked to commit, in order. -/
def asked (ledger : Ledger) : List LicenseKey := ledger.requests.map (·.key)

/-- The keys that it has committed, in order. -/
def committed (ledger : Ledger) : List LicenseKey :=
  (ledger.requests.filter (·.failure.isNone)).map (·.key)

def put (ledger : Ledger) (key : LicenseKey) : Except LicenseError Unit × Ledger :=
  let outcome : Except LicenseError Unit :=
    match ledger.outage with
    | some reason => .error (.registration reason)
    | none => .ok ()
  (outcome, { ledger with requests := ledger.requests ++ [⟨key, ledger.outage⟩] })

end Ledger

/-- Commits a key if it is valid now. -/
def Verifier.register (verifier : Verifier) (now : Int64) (key : LicenseKey) (ledger : Ledger) :
    Except LicenseError Unit × Ledger :=
  if verifier.accepts key now then ledger.put key
  else (.error (.invalidLicense "Unable to register the provided license key"), ledger)

end ClusterLicense
