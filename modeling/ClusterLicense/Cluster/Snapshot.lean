/-
  ClusterLicense/Cluster/Snapshot.lean
  ====================================
  **Cluster states as licensing sees them**, and the steps between them.
-/
import ClusterLicense.License.Key

namespace ClusterLicense

/-- A cluster state as one node sees it. -/
structure Snapshot where
  clusterName : String
  /-- Whether the node leads the cluster. -/
  isLeader : Bool
  /-- Whether the metadata that was persisted before a restart is back. -/
  isRecovered : Bool
  /-- The license in the metadata. -/
  license : Option LicenseKey
  deriving DecidableEq

/-- The step from one state to the next. -/
structure Transition where
  previous : Snapshot
  current : Snapshot
  deriving DecidableEq

def Transition.licenseChanged (transition : Transition) : Bool :=
  transition.previous.license != transition.current.license

end ClusterLicense
