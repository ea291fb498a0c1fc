/-
  ClusterLicense/Cluster/Fleet.lean
  =================================
  **Several nodes, several sources and one cluster behind them.**

  Every node has a coordinator with a worker of its own; all workers commit to
  the same ledger.  Sources tell nodes and observers, and observers write down
  what they are told.  Workers take turns in the order in which they got
  something to do, and each empties its queue before the next one begins.
-/
import ClusterLicense.Cluster.Expiry
import ClusterLicense.Cluster.Worker

namespace ClusterLicense

/-- What has become of a node's worker. -/
inductive WorkerStatus where
  /-- It has not been started yet. -/
  | waiting
  /-- It runs, and its node can wait for it. -/
  | running
  /-- It runs, and nobody waits for it any more. -/
  | unattended
  /-- It was given up before it was started. -/
  | gone
  deriving DecidableEq

namespace WorkerStatus

/-- Whether the worker takes keys. -/
def isRunning (status : WorkerStatus) : Bool := status = .running || status = .unattended

/-- Whether the node can still learn of its worker's end. -/
def isAttended (status : WorkerStatus) : Bool := status = .waiting || status = .running

end WorkerStatus

structure Node where
  registrar : Registrar
  status : WorkerStatus

/-- Who is told by a source. -/
inductive Subscriber where
  /-- The node at an index. -/
  | node (index : Nat)
  /-- An observer with a name, who refuses every step if there is a reason given. -/
  | observer (label : String) (refusal : Option String)

/-- What an observer has written down. -/
structure Sighting where
  observer : String
  transition : Transition
  /-- The state of the source at that time. -/
  sourceState : Snapshot

structure Fleet where
  nodes : List Node
  sources : List (Source Subscriber)
  ledger : Ledger
  /-- The nodes whose workers have something to do, in the order of their turns. -/
  turns : List Nat
  /-- What observers have written down, the oldest first. -/
  sightings : List Sighting

namespace Fleet

/-- Nodes that share a verifier, and sources in their initial states. -/
def fresh (verifier : Verifier) (nodes : Nat) (states : List Snapshot) : Fleet where
  nodes := List.replicate nodes ⟨.fresh verifier, .waiting⟩
  sources := states.map Source.start
  ledger := .empty
  turns := []
  sightings := []

/-! ### Nodes -/

/-- Gives a running worker with keys a turn, unless it has one already. -/
def wake (fleet : Fleet) (index : Nat) : Fleet :=
  match fleet.nodes[index]? with
  | some node =>
    if node.status.isRunning ∧ ¬ node.registrar.coordinator.queue.waiting.isEmpty ∧
        ¬ fleet.turns.contains index then
      { fleet with turns := fleet.turns ++ [index] }
    else fleet
  | none => fleet

def setCoordinator (fleet : Fleet) (index : Nat) (coordinator : Coordinator) : Fleet :=
  let change (node : Node) : Node :=
    { node with registrar := { node.registrar with coordinator := coordinator } }
  ({ fleet with nodes := fleet.nodes.modify index change } : Fleet).wake index

def coordinator? (fleet : Fleet) (index : Nat) : Option Coordinator :=
  fleet.nodes[index]?.map (·.registrar.coordinator)

def handle (fleet : Fleet) (index : Nat) (transition : Transition) :
    Except LicenseError Unit × Fleet :=
  match fleet.coordinator? index with
  | some coordinator =>
    let (outcome, coordinator) := coordinator.handle transition
    (outcome, fleet.setCoordinator index coordinator)
  | none => (.ok (), fleet)

def perform (fleet : Fleet) (index : Nat) (action : LicenseAction) : Fleet :=
  match fleet.coordinator? index with
  | some coordinator => fleet.setCoordinator index (coordinator.perform action)
  | none => fleet

/-! ### Sources -/

def start (fleet : Fleet) (index source : Nat) : Fleet :=
  match fleet.coordinator? index, fleet.sources[source]? with
  | some coordinator, some s =>
    let (coordinator, s) := coordinator.start (.node index) s
    ({ fleet with sources := fleet.sources.set source s } : Fleet).setCoordinator index coordinator
  | _, _ => fleet

def close (fleet : Fleet) (index source : Nat) : Fleet :=
  match fleet.coordinator? index, fleet.sources[source]? with
  | some coordinator, some s =>
    let (coordinator, s) := coordinator.close s
    ({ fleet with sources := fleet.sources.set source s } : Fleet).setCoordinator index coordinator
  | _, _ => fleet

def observe (fleet : Fleet) (source : Nat) (label : String) (refusal : Option String) :
    SubscriptionId × Fleet :=
  match fleet.sources[source]? with
  | some s =>
    let (id, s) := s.subscribe (.observer label refusal)
    (id, { fleet with sources := fleet.sources.set source s })
  | none => (0, fleet)

def unsubscribe (fleet : Fleet) (source : Nat) (id : SubscriptionId) : Fleet :=
  { fleet with sources := fleet.sources.modify source (·.unsubscribe id) }

def tell (source : Nat) (subscriber : Subscriber) (transition : Transition) (fleet : Fleet) :
    Except LicenseError Unit × Fleet :=
  match subscriber with
  | .node index => fleet.handle index transition
  | .observer label refusal =>
    let state := (fleet.sources[source]?.map (·.current)).getD transition.current
    let fleet := { fleet with sightings := fleet.sightings ++ [⟨label, transition, state⟩] }
    match refusal with
    | some reason => (.error (.clusterLicenseCorruption reason), fleet)
    | none => (.ok (), fleet)

def publish (fleet : Fleet) (source : Nat) (next : Snapshot) :
    Except LicenseError Unit × Fleet :=
  match fleet.sources[source]? with
  | some s =>
    s.publish (tell source) next fun s => { fleet with sources := fleet.sources.set source s }
  | none => (.ok (), fleet)

/-! ### Workers -/

/-- Lets one node's worker empty its queue. -/
def takeTurn (now : Int64) (fleet : Fleet) (index : Nat) : Fleet :=
  match fleet.nodes[index]? with
  | some node =>
    let (registrar, ledger) := node.registrar.drain now fleet.ledger
    { fleet with
      nodes := fleet.nodes.set index { node with registrar := registrar }
      ledger := ledger }
  | none => fleet

def runWorkers (now : Int64) (fleet : Fleet) : Fleet :=
  { fleet.turns.foldl (takeTurn now) fleet with turns := [] }

def startWorker (fleet : Fleet) (index : Nat) : Fleet :=
  match fleet.nodes[index]? with
  | some node =>
    if node.status = .waiting then
      ({ fleet with nodes := fleet.nodes.set index { node with status := .running } }
        : Fleet).wake index
    else fleet
  | none => fleet

/-- Starts a node's worker and lets all workers run until they have nothing to do; tells
whether the node's worker has ended or cannot be waited for. -/
def drain (now : Int64) (fleet : Fleet) (index : Nat) : Bool × Fleet :=
  let fleet := (fleet.startWorker index).runWorkers now
  let finished := fleet.nodes[index]?.any fun node =>
    !node.status.isAttended || node.registrar.hasEnded
  (finished, fleet)

/-- Gives up a node's worker: one that runs goes on unattended, one that does not takes its
queue with it. -/
def dropWorker (fleet : Fleet) (index : Nat) : Fleet :=
  let drop (node : Node) : Node :=
    match node.status with
    | .waiting =>
      let coordinator := node.registrar.coordinator
      { registrar := { node.registrar with
          coordinator := { coordinator with queue := coordinator.queue.abandon } }
        status := .gone }
    | .running => { node with status := .unattended }
    | _ => node
  { fleet with nodes := fleet.nodes.modify index drop }

end Fleet

end ClusterLicense
