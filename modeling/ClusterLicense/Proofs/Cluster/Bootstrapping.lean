/-
  ClusterLicense/Proofs/Cluster/Bootstrapping.lean
  ================================================
  **All nodes agree on the license that a cluster issues to itself.**

  The key is a function of the passphrase and the cluster's name, so every leader
  makes the same one.  A leader caches the record before anybody has read the key;
  the others read it out of the key, and what they read is that record
  (`licenseData_ofCluster`).  So as long as a cluster has no other license, no step
  teaches any other record (`learned?_of_issuesToItself`) and no two caches differ.
-/
import ClusterLicense.License.Metadata
import ClusterLicense.Proofs.Cluster.Learning
import ClusterLicense.Proofs.License.SelfIssued

namespace ClusterLicense

def LicenseKey.ofCluster (symmetricKey : SymmetricKey) (name : String) : LicenseKey :=
  .selfIssued symmetricKey (LicenseRecord.selfGenerated name).stored

/-- A leader finds its cluster recovered and without a license. -/
structure Transition.IsFresh (t : Transition) : Prop where
  recovered : t.current.isRecovered = true
  leads : t.current.isLeader = true
  unlicensed_before : t.previous.license = none
  unlicensed : t.current.license = none

/-- A license comes in with a recovered state. -/
structure Transition.Brings (t : Transition) (key : LicenseKey) : Prop where
  recovered : t.current.isRecovered = true
  lacked : t.previous.license ≠ some key
  brought : t.current.license = some key

/-! ### The key -/

theorem LicenseRecord.suits_selfGenerated (name : String) :
    (LicenseRecord.selfGenerated name).Suits .selfGenerated := by
  constructor
  · intro hsigned
    cases hsigned
  · intro henterprise
    cases henterprise

namespace Verifier

variable {verifier : Verifier} {name : String}

theorem createKey_ofCluster
    (hfits : LicenseKey.Fits (LicenseRecord.selfGenerated name).stored) :
    verifier.createKey .selfGenerated LicenseKey.currentVersion (.selfGenerated name) =
      .ok (.ofCluster verifier.symmetricKey name) :=
  createKey_enclose (LicenseRecord.suits_selfGenerated name) hfits

theorem licenseData_ofCluster
    (hfits : LicenseKey.Fits (LicenseRecord.selfGenerated name).stored) :
    verifier.licenseData (.ofCluster verifier.symmetricKey name) = .ok (.selfGenerated name) :=
  licenseData_enclose verifier hfits (LicenseRecord.parse_stored _)

/-- The license of a cluster is valid at every instant, as its record expires at the last one there
is. -/
theorem accepts_ofCluster (hfits : LicenseKey.Fits (LicenseRecord.selfGenerated name).stored)
    (now : Int64) : verifier.accepts (.ofCluster verifier.symmetricKey name) now = true := by
  refine accepts_selfIssued hfits (LicenseRecord.parse_stored _) ?_
  -- No instant comes after the expiration of such a record.
  rw [Int64.le_iff_toInt_le]
  exact now.toInt_le

end Verifier

/-! ### One step -/

namespace Coordinator

variable {c : Coordinator} {t : Transition} {key : LicenseKey} {record : LicenseRecord}

/-- A leader that finds its cluster fresh plans the license of the cluster, provided that its name
fits into a key.  What was cached before and who the authority is do not matter. -/
theorem plan_of_isFresh (ht : t.IsFresh)
    (hfits : LicenseKey.Fits (LicenseRecord.selfGenerated t.current.clusterName).stored) :
    c.plan t = .ok (.bootstrap (.ofCluster c.verifier.symmetricKey t.current.clusterName)
      (.selfGenerated t.current.clusterName)) :=
  plan_of_fresh ht.recovered ht.unlicensed_before ht.unlicensed ht.leads
    (Verifier.createKey_ofCluster hfits)

/-- A license that comes in and can be read is cached, and nothing else about the node changes. -/
theorem handle_of_brings (ht : t.Brings key) (hdata : c.verifier.licenseData key = .ok record) :
    c.handle t = (.ok (), { c with cached := some record }) := by
  rw [handle, plan_of_arrived ht.recovered ht.lacked ht.brought hdata]
  rfl

/-- **All nodes agree on the bootstrap license.**  A leader that finds its cluster fresh makes a
key that is valid at every instant and caches its record.  Every node with the passphrase, whoever
its authority is, caches the same record when the key comes in; and every other leader of the
cluster makes the same key, whose registration changes nothing. -/
theorem nodes_agree_on_bootstrap (leader : Coordinator) (t : Transition) (ht : t.IsFresh)
    (hfits : LicenseKey.Fits (LicenseRecord.selfGenerated t.current.clusterName).stored) :
    ∃ key record, record = LicenseRecord.selfGenerated t.current.clusterName ∧
      leader.plan t = .ok (.bootstrap key record) ∧
      (∃ content, key.decode = .ok ⟨.selfGenerated, LicenseKey.currentVersion, content⟩) ∧
      (∀ reader : Verifier, reader.symmetricKey = leader.verifier.symmetricKey →
        ∀ now, reader.accepts key now = true) ∧
      (leader.handle t).2.cached = some record ∧
      (∀ (follower : Coordinator) (step : Transition),
        follower.verifier.symmetricKey = leader.verifier.symmetricKey → step.Brings key →
        follower.handle step = (.ok (), { follower with cached := some record })) ∧
      (∀ (other : Coordinator) (again : Transition),
        other.verifier.symmetricKey = leader.verifier.symmetricKey → again.IsFresh →
        again.current.clusterName = t.current.clusterName →
        ∃ second, other.plan again = .ok (.bootstrap second record) ∧ second = key ∧
          LicenseDiff.between (some key) second = .same) := by
  have hplan := plan_of_isFresh (c := leader) ht hfits
  refine ⟨_, _, rfl, hplan, ⟨_, LicenseKey.decode_enclose _ hfits⟩, ?_, ?_, ?_, ?_⟩
  · intro reader hpassphrase now
    rw [← hpassphrase]
    exact Verifier.accepts_ofCluster hfits now
  · rw [handle, hplan]
    rfl
  · intro follower step hpassphrase hstep
    refine handle_of_brings hstep ?_
    rw [← hpassphrase]
    exact Verifier.licenseData_ofCluster hfits
  · intro other again hpassphrase hagain hname
    refine ⟨_, ?_, rfl, if_pos rfl⟩
    rw [← hname] at hfits ⊢
    rw [← hpassphrase]
    exact plan_of_isFresh hagain hfits

/-! ### A name that has to be escaped -/

def escapedState : Snapshot := ⟨"Küche \"7\"\n\x07\\", true, true, none⟩

def escapedStart : Transition := ⟨escapedState, escapedState⟩

theorem nodes_agree_on_escapedState :
    escapedStart.IsFresh ∧
      LicenseKey.Fits (LicenseRecord.selfGenerated escapedState.clusterName).stored ∧
      ∃ key record, record = LicenseRecord.selfGenerated escapedState.clusterName ∧
        (fresh Verifier.shipped).plan escapedStart = .ok (.bootstrap key record) ∧
        (fresh ⟨.shipped, ⟨35, 5⟩⟩).handle
            ⟨escapedState, { escapedState with isLeader := false, license := some key }⟩ =
          (.ok (), { fresh ⟨.shipped, ⟨35, 5⟩⟩ with cached := some record }) ∧
        (fresh ⟨.shipped, ⟨35, 5⟩⟩).plan escapedStart = .ok (.bootstrap key record) := by
  have hstart : escapedStart.IsFresh := ⟨rfl, rfl, rfl, rfl⟩
  have hfits : LicenseKey.Fits (LicenseRecord.selfGenerated escapedState.clusterName).stored := by
    decide +kernel
  obtain ⟨key, record, hrecord, hplan, -, -, -, hfollower, hother⟩ :=
    nodes_agree_on_bootstrap (fresh Verifier.shipped) escapedStart hstart hfits
  obtain ⟨second, hsecond, rfl, -⟩ := hother (fresh ⟨.shipped, ⟨35, 5⟩⟩) escapedStart rfl hstart rfl
  refine ⟨hstart, hfits, second, record, hrecord, hplan, ?_, hsecond⟩
  exact hfollower _ _ rfl ⟨rfl, (Option.some_ne_none second).symm, rfl⟩

end Coordinator

/-! ### Histories -/

/-- A state of a cluster whose only license is the one that it issues to itself. -/
structure Snapshot.IssuesToItself (state : Snapshot) (symmetricKey : SymmetricKey)
    (name : String) : Prop where
  clusterName : state.clusterName = name
  license : ∀ key, state.license = some key → key = .ofCluster symmetricKey name

variable {name : String}

/-- Whatever a node learns from a state whose only license is the cluster's own is the record of
that license, be it from the key or because it makes the key itself. -/
theorem Verifier.learned?_of_issuesToItself {verifier : Verifier} {t : Transition}
    {record : LicenseRecord} (hfits : LicenseKey.Fits (LicenseRecord.selfGenerated name).stored)
    (hcurrent : t.current.IssuesToItself verifier.symmetricKey name)
    (h : verifier.learned? t = some record) : record = .selfGenerated name := by
  obtain ⟨-, ⟨key, -, hbrought, hdata⟩ | ⟨-, -, -, hrecord, -⟩⟩ := learned?_eq_some_iff.mp h
  · rw [hcurrent.license key hbrought, licenseData_ofCluster hfits] at hdata
    exact (Except.ok.inj hdata).symm
  · rw [hrecord, hcurrent.clusterName]

namespace Coordinator

/-- So through any number of such states, the node has the cluster's record in its cache or what it
had at first.  The induction is along the states. -/
theorem follow_of_issuesToItself (c : Coordinator) (state : Snapshot) (states : List Snapshot)
    (hfits : LicenseKey.Fits (LicenseRecord.selfGenerated name).stored)
    (h : ∀ s ∈ states, s.IssuesToItself c.verifier.symmetricKey name) :
    (c.follow state states).cached = some (.selfGenerated name) ∨
      (c.follow state states).cached = c.cached := by
  induction states generalizing c state with
  | nil => exact .inr rfl
  | cons next states ih =>
    have hrest : ∀ s ∈ states,
        s.IssuesToItself (c.handle ⟨state, next⟩).2.verifier.symmetricKey name := by
      intro s hs
      rw [handle_verifier]
      exact h s (List.mem_cons_of_mem next hs)
    rcases ih (c.handle ⟨state, next⟩).2 next hrest with hcached | hkept
    · exact .inl hcached
    · rw [follow, hkept, handle_cached]
      cases hlearned : c.verifier.learned? ⟨state, next⟩ with
      | none => exact .inr rfl
      | some record =>
        have hrecord := Verifier.learned?_of_issuesToItself (t := ⟨state, next⟩) hfits
          (h next List.mem_cons_self) hlearned
        rw [hrecord]
        exact .inl rfl

/-- Two nodes may have seen different states of the cluster, and one of them may have led it.  As
soon as both have learned anything from states of this kind, their caches are the same. -/
theorem caches_agree {a b : Coordinator} {first second : LicenseRecord}
    (hfits : LicenseKey.Fits (LicenseRecord.selfGenerated name).stored)
    (hempty : a.cached = none ∧ b.cached = none) {s t : Snapshot} {seen others : List Snapshot}
    (hseen : ∀ state ∈ seen, state.IssuesToItself a.verifier.symmetricKey name)
    (hothers : ∀ state ∈ others, state.IssuesToItself b.verifier.symmetricKey name)
    (hfirst : (a.follow s seen).cached = some first)
    (hsecond : (b.follow t others).cached = some second) : first = second := by
  have hone {c : Coordinator} {state : Snapshot} {states : List Snapshot} {record : LicenseRecord}
      (hnone : c.cached = none)
      (h : ∀ s ∈ states, s.IssuesToItself c.verifier.symmetricKey name)
      (hcached : (c.follow state states).cached = some record) : record = .selfGenerated name := by
    rcases follow_of_issuesToItself c state states hfits h with hsome | hkept
    · exact Option.some.inj (hcached.symm.trans hsome)
    · rw [hkept, hnone] at hcached
      cases hcached
  rw [hone hempty.1 hseen hfirst, hone hempty.2 hothers hsecond]

end Coordinator

end ClusterLicense
