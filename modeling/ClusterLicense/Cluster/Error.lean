/-
  ClusterLicense/Cluster/Error.lean
  =================================
  **What can go wrong when a node sets up licensing.**
-/
import ClusterLicense.License.Error

namespace ClusterLicense

inductive ClusterError where
  /-- A configured value is out of range. -/
  | config (detail : String)
  /-- A failure of licensing. -/
  | license (cause : LicenseError)
  /-- The configuration cannot be read from storage. -/
  | io (cause : StorageError)
  /-- The configuration is no JSON of the right form. -/
  | serialization (detail : String)
  deriving DecidableEq

def ClusterError.message : ClusterError → String
  | .config detail => s!"invalid licensing configuration: {detail}"
  | .license cause => cause.message
  | .io cause => s!"i/o error: {cause.message}"
  | .serialization detail => s!"serialization error: {detail}"

end ClusterLicense
