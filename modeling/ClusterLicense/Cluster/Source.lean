/-
  ClusterLicense/Cluster/Source.lean
  ==================================
  **A source of cluster states and its subscriptions.**

  Subscriptions are numbered from one and keep their order.  A state that is
  published becomes the current one before anybody is told; then each
  subscriber that was there at the start is told of the step, in order, and the
  first failure among them is the result.

  What a subscriber is stays open: the source carries a description of it, and
  telling it is a function of the world that it lives in.
-/
import ClusterLicense.Cluster.Snapshot

namespace ClusterLicense

abbrev SubscriptionId := Nat

/-- A source whose subscribers are described by values of type `β`. -/
structure Source (β : Type) where
  /-- The subscriptions, the oldest first. -/
  subscriptions : List (SubscriptionId × β)
  nextId : SubscriptionId
  /-- The state that was published last. -/
  current : Snapshot

namespace Source

variable {β ω : Type}

def start (initial : Snapshot) : Source β := ⟨[], 1, initial⟩

/-- Adds a subscription under the next number. -/
def subscribe (source : Source β) (subscriber : β) : SubscriptionId × Source β :=
  (source.nextId,
    { source with
      subscriptions := source.subscriptions ++ [(source.nextId, subscriber)]
      nextId := source.nextId + 1 })

def unsubscribe (source : Source β) (id : SubscriptionId) : Source β :=
  { source with subscriptions := source.subscriptions.filter (·.1 != id) }

/-- Makes a state the current one, and gives the step to it. -/
def install (source : Source β) (next : Snapshot) : Transition × Source β :=
  (⟨source.current, next⟩, { source with current := next })

/-- The first of two outcomes that is a failure. -/
def firstFailure : Except LicenseError Unit → Except LicenseError Unit → Except LicenseError Unit
  | .error e, _ => .error e
  | .ok (), outcome => outcome

/-- Tells subscribers of a step, one after the other, whatever they answer. -/
def deliver (tell : β → Transition → ω → Except LicenseError Unit × ω) (transition : Transition) :
    List (SubscriptionId × β) → ω → Except LicenseError Unit × ω
  | [], world => (.ok (), world)
  | (_, subscriber) :: others, world =>
    let (outcome, world) := tell subscriber transition world
    let (rest, world) := deliver tell transition others world
    (firstFailure outcome rest, world)

/-- Makes a state the current one, and tells every subscription of the step.  Subscribers act in
a world that may hold the source itself; `place` gives the world with the source in its new
state. -/
def publish (tell : β → Transition → ω → Except LicenseError Unit × ω) (source : Source β)
    (next : Snapshot) (place : Source β → ω) : Except LicenseError Unit × ω :=
  let (transition, source) := source.install next
  deliver tell transition source.subscriptions (place source)

end Source

end ClusterLicense
