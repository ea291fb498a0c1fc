/-
  ClusterLicense/Cluster/Worker.lean
  ==================================
  **Registering queued keys**, one at a time and in order.

  A worker takes the oldest key out of its coordinator's queue and then tries
  once to commit it; a key that is refused is dropped.  The two are separate
  steps, since the cluster may move on in between.  The worker ends when the
  queue has been closed and is empty.
-/
import ClusterLicense.Cluster.Coordinator

namespace ClusterLicense

/-- A coordinator and its worker. -/
structure Registrar where
  coordinator : Coordinator
  /-- The key that the worker has taken out and not yet tried to commit. -/
  inHand : Option LicenseKey

namespace Registrar

def fresh (verifier : Verifier) : Registrar := ⟨.fresh verifier, none⟩

/-- Takes the oldest key out of the queue, unless the worker has one in hand. -/
def receive (registrar : Registrar) : Registrar :=
  match registrar.inHand, registrar.coordinator.queue.waiting with
  | none, key :: keys =>
    let queue := { registrar.coordinator.queue with waiting := keys }
    ⟨{ registrar.coordinator with queue := queue }, some key⟩
  | _, _ => registrar

/-- Tries to commit the key in hand. -/
def commit (now : Int64) (registrar : Registrar) (ledger : Ledger) : Registrar × Ledger :=
  match registrar.inHand with
  | none => (registrar, ledger)
  | some key =>
    ({ registrar with inHand := none },
      (registrar.coordinator.verifier.register now key ledger).2)

/-- Receives and commits `count` keys, if there are that many. -/
def work (now : Int64) : (count : Nat) → Registrar → Ledger → Registrar × Ledger
  | 0, registrar, ledger => (registrar, ledger)
  | count + 1, registrar, ledger =>
    let (registrar, ledger) := registrar.receive.commit now ledger
    work now count registrar ledger

def drain (now : Int64) (registrar : Registrar) (ledger : Ledger) : Registrar × Ledger :=
  work now registrar.coordinator.queue.waiting.length registrar ledger

/-- Whether the worker has nothing left to do, now and later. -/
def hasEnded (registrar : Registrar) : Bool :=
  registrar.inHand.isNone && registrar.coordinator.queue.waiting.isEmpty &&
    !registrar.coordinator.queue.isOpen

end Registrar

end ClusterLicense
