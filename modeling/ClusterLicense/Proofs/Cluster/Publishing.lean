/-
  ClusterLicense/Proofs/Cluster/Publishing.lean
  =============================================
  **A node on a source keeps in step with it, except for what arrives too early.**

  A node that alone is subscribed to a source handles the step to each published
  state (`Follows.publish`), so its cache is what the history of the source has
  taught it (`cached?_publishAll`).  A license that the last state holds is in the
  cache if and only if its arrival was noticed: a state that is not recovered is
  skipped, and the step after it does not show the license as new.
-/
import ClusterLicense.Cluster.Fleet
import ClusterLicense.Proofs.Cluster.Learning
import ClusterLicense.Proofs.License.SelfIssued

namespace ClusterLicense.Fleet

def publishAll (fleet : Fleet) (source : Nat) (states : List Snapshot) : Fleet :=
  states.foldl (fun fleet next => (fleet.publish source next).2) fleet

def cached? (fleet : Fleet) (index : Nat) : Option LicenseRecord :=
  (fleet.coordinator? index).bind (·.cached)

/-- A node is subscribed to a source, and nobody else is. -/
structure Follows (fleet : Fleet) (index source : Nat) (c : Coordinator) (state : Snapshot) :
    Prop where
  coordinator : fleet.coordinator? index = some c
  source : ∃ id s, fleet.sources[source]? = some s ∧
    s.subscriptions = [(id, .node index)] ∧ s.current = state

/-! ### One step -/

variable {fleet : Fleet} {index source : Nat} {c c' : Coordinator} {state next : Snapshot}

theorem wake_nodes (fleet : Fleet) (index : Nat) : (fleet.wake index).nodes = fleet.nodes := by
  unfold wake
  split
  · split <;> rfl
  · rfl

theorem wake_sources (fleet : Fleet) (index : Nat) :
    (fleet.wake index).sources = fleet.sources := by
  unfold wake
  split
  · split <;> rfl
  · rfl

theorem setCoordinator_sources (fleet : Fleet) (index : Nat) (c : Coordinator) :
    (fleet.setCoordinator index c).sources = fleet.sources :=
  wake_sources _ index

/-- A node's coordinator is the one that it was given last; waking its worker changes nothing about
it. -/
theorem coordinator?_setCoordinator (h : fleet.coordinator? index = some c) :
    (fleet.setCoordinator index c').coordinator? index = some c' := by
  unfold coordinator? at h ⊢
  unfold setCoordinator
  rw [wake_nodes]
  cases hnode : fleet.nodes[index]? with
  | none => simp [hnode] at h
  | some node => simp [hnode]

theorem handle_eq (h : fleet.coordinator? index = some c) (t : Transition) :
    fleet.handle index t = ((c.handle t).1, fleet.setCoordinator index (c.handle t).2) := by
  simp only [handle, h]

/-- The fleet once a state has become the current one of a source, and nobody has been told. -/
def install (fleet : Fleet) (source : Nat) (s : Source Subscriber) (next : Snapshot) : Fleet :=
  { fleet with sources := fleet.sources.set source { s with current := next } }

/-- Publishing on a source with one node tells the node of the step.  By the time it is told, the
state is the current one already. -/
theorem publish_eq {s : Source Subscriber} {id : SubscriptionId}
    (hs : fleet.sources[source]? = some s) (hsubscriptions : s.subscriptions = [(id, .node index)])
    (next : Snapshot) :
    (fleet.publish source next).2 =
      ((fleet.install source s next).handle index ⟨s.current, next⟩).2 := by
  simp only [Fleet.publish, hs, Source.publish, Source.install, hsubscriptions, Source.deliver,
    tell, install]

/-- A node that is the only one on a source handles every step of it, and is still the only one
after that. -/
theorem Follows.publish (h : fleet.Follows index source c state) (next : Snapshot) :
    (fleet.publish source next).2.Follows index source (c.handle ⟨state, next⟩).2 next := by
  obtain ⟨hcoordinator, id, s, hs, hsubscriptions, rfl⟩ := h
  have hinstalled : (fleet.install source s next).coordinator? index = some c := hcoordinator
  have hlt : source < fleet.sources.length := (List.getElem?_eq_some_iff.mp hs).1
  rw [publish_eq hs hsubscriptions, handle_eq hinstalled]
  refine ⟨coordinator?_setCoordinator hinstalled, id, { s with current := next }, ?_,
    hsubscriptions, rfl⟩
  rw [setCoordinator_sources, install, List.getElem?_set_self hlt]

/-! ### A whole run -/

theorem Follows.publishAll (states : List Snapshot) (h : fleet.Follows index source c state) :
    ∃ last, (fleet.publishAll source states).Follows index source (c.follow state states) last := by
  induction states generalizing fleet c state with
  | nil => exact ⟨state, h⟩
  | cons next states ih => exact ih (h.publish next)

theorem follows_start (verifier : Verifier) (initial : Snapshot) :
    ∃ c, ((fresh verifier 1 [initial]).start 0 0).Follows 0 0 c initial ∧
      c.verifier = verifier ∧ c.cached = none :=
  ⟨{ Coordinator.fresh verifier with subscription := some 1 }, ⟨rfl, 1, _, rfl, rfl, rfl⟩, rfl, rfl⟩

/-- So the cache of a node that was started first is what the published states have taught it last.
-/
theorem cached?_publishAll (verifier : Verifier) (initial : Snapshot) (states : List Snapshot) :
    (((fresh verifier 1 [initial]).start 0 0).publishAll 0 states).cached? 0 =
      verifier.lastLearned? (initial :: states) := by
  obtain ⟨c, hfollows, hverifier, hcached⟩ := follows_start verifier initial
  obtain ⟨last, hrun⟩ := hfollows.publishAll states
  rw [cached?, hrun.coordinator, Option.bind_some, Coordinator.follow_cached, hverifier, hcached,
    Option.or_none]

/-- **In step if and only if the arrival was noticed.** After a state with a license has been
published, its record is in the cache exactly if the state that the license came in with was
recovered, or the record had been there before.  Later states with the same license do not make up
for an arrival that was missed, recovered or not. -/
theorem cached_iff_noticed (verifier : Verifier) (initial : Snapshot) (states : List Snapshot)
    (last : Snapshot) (key : LicenseKey) (record : LicenseRecord)
    (hlicense : last.license = some key) (hdata : verifier.licenseData key = .ok record) :
    (((fresh verifier 1 [initial]).start 0 0).publishAll 0 (states ++ [last])).cached? 0 =
        some record ↔
      ∃ before previous arrival since,
        Arrived key (initial :: (states ++ [last])) before previous arrival since ∧
          (arrival.isRecovered = true ∨
            verifier.lastLearned? (before ++ [previous]) = some record) := by
  rw [cached?_publishAll, ← List.cons_append]
  constructor
  · intro h
    rcases held_or_arrived (initial :: states) hlicense with hall |
        ⟨before, previous, arrival, since, harrived⟩
    · -- A license that was there from the start has never been noticed.
      cases h.symm.trans (Verifier.lastLearned?_of_held hall)
    · refine ⟨before, previous, arrival, since, harrived, ?_⟩
      rw [harrived.lastLearned? hdata] at h
      cases hrecovered : arrival.isRecovered with
      | true => exact .inl rfl
      | false =>
        rw [hrecovered] at h
        exact .inr h
  · rintro ⟨before, previous, arrival, since, harrived, hnoticed⟩
    rw [harrived.lastLearned? hdata]
    rcases hnoticed with hrecovered | hbefore
    · rw [if_pos hrecovered]
    · rw [hbefore, ite_self]

/-! ### A license that comes in before the metadata is recovered -/

open Verifier (shipped crateKey licenseData_crateKey)

def unlicensed : Snapshot := ⟨"crate", false, true, none⟩

def licensed (isRecovered : Bool) : Snapshot := ⟨"crate", false, isRecovered, some crateKey⟩

/-- The license of the cluster arrives with the recovered state that is published, and so it was
noticed. -/
theorem cached_iff_noticed_crate :
    shipped.licenseData crateKey = .ok (.selfGenerated "crate") ∧
      ((((fresh shipped 1 [unlicensed]).start 0 0).publishAll 0 ([] ++ [licensed true])).cached? 0 =
          some (.selfGenerated "crate") ↔
        ∃ before previous arrival since,
          Arrived crateKey (unlicensed :: ([] ++ [licensed true])) before previous arrival since ∧
            (arrival.isRecovered = true ∨
              shipped.lastLearned? (before ++ [previous]) = some (.selfGenerated "crate"))) :=
  ⟨licenseData_crateKey, cached_iff_noticed shipped unlicensed [] (licensed true) crateKey
    (.selfGenerated "crate") rfl licenseData_crateKey⟩

/-- A license that comes in with a state that is not recovered stays unnoticed when it is
published again with a recovered state. -/
theorem crateKey_unnoticed :
    (licensed true).isRecovered = true ∧ (licensed true).license = some crateKey ∧
      shipped.licenseData crateKey = .ok (.selfGenerated "crate") ∧
      (((fresh shipped 1 [unlicensed]).start 0 0).publishAll 0
        [licensed false, licensed true]).cached? 0 ≠ some (.selfGenerated "crate") := by
  refine ⟨rfl, rfl, licenseData_crateKey, ?_⟩
  have harrived : Arrived crateKey [unlicensed, licensed false, licensed true] [] unlicensed
      (licensed false) [licensed true] :=
    ⟨rfl, by simp [unlicensed], by simp [licensed]⟩
  rw [cached?_publishAll, harrived.lastLearned? licenseData_crateKey]
  simp [licensed, Verifier.lastLearned?, steps]

end ClusterLicense.Fleet
