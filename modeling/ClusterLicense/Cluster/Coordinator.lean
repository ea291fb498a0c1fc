/-
  ClusterLicense/Cluster/Coordinator.lean
  =======================================
  **Keeping a node's license in step with cluster metadata.**

  A step of the cluster state is handled in two parts.  `plan` decides what the
  step asks of this node and changes nothing; `perform` puts a record into the
  cache and, when a leader finds a fresh cluster, queues a self-generated key for
  registration.  The queue holds a few keys and drops what does not fit: a
  cluster that stays without a license leads to the same plan again.
-/
import ClusterLicense.Cluster.Source
import ClusterLicense.License.Registration

namespace ClusterLicense

inductive LicenseAction where
  /-- Nothing. -/
  | none
  /-- A fresh cluster needs its first license: cache the record and register the key. -/
  | bootstrap (key : LicenseKey) (record : LicenseRecord)
  /-- The metadata has a new license: cache its record. -/
  | replace (record : LicenseRecord)
  deriving DecidableEq

/-! ### The registration queue -/

/-- Keys that wait to be registered. -/
structure RegistrationQueue where
  /-- The keys, the oldest first. -/
  waiting : List LicenseKey
  /-- Whether keys may still be added. -/
  isOpen : Bool
  /-- Whether there is anybody to take them out. -/
  hasWorker : Bool
  deriving DecidableEq

namespace RegistrationQueue

def capacity : Nat := 16

def empty : RegistrationQueue := ⟨[], true, true⟩

/-- Adds a key, if the queue is in use and has room. -/
def offer (queue : RegistrationQueue) (key : LicenseKey) : RegistrationQueue :=
  if queue.isOpen ∧ queue.hasWorker ∧ queue.waiting.length < capacity then
    { queue with waiting := queue.waiting ++ [key] }
  else queue

def close (queue : RegistrationQueue) : RegistrationQueue := { queue with isOpen := false }

/-- Nobody takes keys out any more, and those that wait are lost. -/
def abandon (queue : RegistrationQueue) : RegistrationQueue :=
  { queue with waiting := [], hasWorker := false }

end RegistrationQueue

/-! ### The coordinator -/

/-- The licensing state of a node. -/
structure Coordinator where
  verifier : Verifier
  /-- The record of the license that is in force. -/
  cached : Option LicenseRecord
  queue : RegistrationQueue
  /-- The number under which the node is subscribed to its source. -/
  subscription : Option SubscriptionId

namespace Coordinator

def fresh (verifier : Verifier) : Coordinator := ⟨verifier, none, .empty, none⟩

/-- What a step asks of the node.  A changed license is decrypted but not checked: the cluster
has accepted it. -/
def plan (coordinator : Coordinator) (transition : Transition) :
    Except LicenseError LicenseAction :=
  let current := transition.current
  if !current.isRecovered then .ok .none
  else if transition.licenseChanged then
    match current.license with
    | none => .ok .none
    | some key =>
      match coordinator.verifier.licenseData key with
      | .ok record => .ok (.replace record)
      | .error e => .error (.clusterLicenseCorruption e.message)
  else if current.license.isSome || !current.isLeader then .ok .none
  else
    let record := LicenseRecord.selfGenerated current.clusterName
    match coordinator.verifier.createKey .selfGenerated LicenseKey.currentVersion record with
    | .ok key => .ok (.bootstrap key record)
    | .error e => .error e

def perform (coordinator : Coordinator) : LicenseAction → Coordinator
  | .none => coordinator
  | .bootstrap key record =>
    { coordinator with cached := some record, queue := coordinator.queue.offer key }
  | .replace record => { coordinator with cached := some record }

/-- Plans and carries out; a failed plan changes nothing. -/
def handle (coordinator : Coordinator) (transition : Transition) :
    Except LicenseError Unit × Coordinator :=
  match coordinator.plan transition with
  | .ok action => (.ok (), coordinator.perform action)
  | .error e => (.error e, coordinator)

/-- Subscribes to a source under a new number, and then gives up on it the number it had. -/
def start {β : Type} (coordinator : Coordinator) (self : β) (source : Source β) :
    Coordinator × Source β :=
  let (id, source) := source.subscribe self
  let source := match coordinator.subscription with
    | some previous => source.unsubscribe previous
    | none => source
  ({ coordinator with subscription := some id }, source)

/-- Gives up the subscription on a source, forgets the license and closes the queue. -/
def close {β : Type} (coordinator : Coordinator) (source : Source β) :
    Coordinator × Source β :=
  let source := match coordinator.subscription with
    | some id => source.unsubscribe id
    | none => source
  ({ coordinator with
      cached := none
      queue := coordinator.queue.close
      subscription := none }, source)

end Coordinator

end ClusterLicense
