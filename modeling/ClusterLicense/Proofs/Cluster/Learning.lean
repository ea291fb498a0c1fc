/-
  ClusterLicense/Proofs/Cluster/Learning.lean
  ===========================================
  **What a node learns from a history of cluster states.**

  A coordinator sees steps, not states: `plan` compares two consecutive states and
  nothing else.  So its cache is what the last step that taught it something has
  left there (`follow_cached`).  A license that stays teaches nothing after the
  state that brought it (`lastLearned?_of_held`); whether it is in the cache was
  decided when it arrived (`lastLearned?_of_arrived`).
-/
import ClusterLicense.Cluster.Coordinator

namespace ClusterLicense

/-! ### Plans -/

theorem Transition.licenseChanged_eq_true_iff {t : Transition} :
    t.licenseChanged = true ↔ t.previous.license ≠ t.current.license := by
  rw [licenseChanged, bne_iff_ne]

theorem Transition.licenseChanged_eq_false_iff {t : Transition} :
    t.licenseChanged = false ↔ t.previous.license = t.current.license := by
  rw [← Bool.not_eq_true, licenseChanged_eq_true_iff, Decidable.not_not]

namespace Coordinator

variable {c : Coordinator} {t : Transition} {key : LicenseKey} {record : LicenseRecord}

theorem plan_of_not_recovered (h : t.current.isRecovered = false) : c.plan t = .ok .none := by
  simp only [plan, h, Bool.not_false, if_true]

theorem plan_of_removed (hprevious : t.previous.license ≠ none)
    (hcurrent : t.current.license = none) : c.plan t = .ok .none := by
  have hchanged : t.licenseChanged = true := by
    rwa [Transition.licenseChanged_eq_true_iff, hcurrent]
  simp only [plan, hchanged, hcurrent, if_true, ite_self]

/-- A license that was not there before is read, and its record is put in place of the one before.
Whether it is valid is not asked. -/
theorem plan_of_arrived (hrecovered : t.current.isRecovered = true)
    (hprevious : t.previous.license ≠ some key) (hcurrent : t.current.license = some key)
    (hdata : c.verifier.licenseData key = .ok record) : c.plan t = .ok (.replace record) := by
  have hchanged : t.licenseChanged = true := by
    rwa [Transition.licenseChanged_eq_true_iff, hcurrent]
  simp only [plan, hrecovered, hchanged, hcurrent, hdata, Bool.not_true, Bool.false_eq_true,
    if_false, if_true]

theorem plan_of_corrupt {e : LicenseError} (hrecovered : t.current.isRecovered = true)
    (hprevious : t.previous.license ≠ some key) (hcurrent : t.current.license = some key)
    (hdata : c.verifier.licenseData key = .error e) :
    c.plan t = .error (.clusterLicenseCorruption e.message) := by
  have hchanged : t.licenseChanged = true := by
    rwa [Transition.licenseChanged_eq_true_iff, hcurrent]
  simp only [plan, hrecovered, hchanged, hcurrent, hdata, Bool.not_true, Bool.false_eq_true,
    if_false, if_true]

theorem plan_of_idle (hsame : t.previous.license = t.current.license)
    (hidle : t.current.license ≠ none ∨ t.current.isLeader = false) : c.plan t = .ok .none := by
  have hchanged := Transition.licenseChanged_eq_false_iff.mpr hsame
  have hnothing : (t.current.license.isSome || !t.current.isLeader) = true := by
    rw [Bool.or_eq_true, Option.isSome_iff_ne_none, Bool.not_eq_true']
    exact hidle
  simp only [plan, hchanged, hnothing, Bool.false_eq_true, if_false, if_true, ite_self]

/-- A leader makes a license for its cluster if there is none before or after the step.  Only the
name of the cluster goes into it. -/
theorem plan_of_fresh (hrecovered : t.current.isRecovered = true)
    (hprevious : t.previous.license = none) (hcurrent : t.current.license = none)
    (hleader : t.current.isLeader = true)
    (hcreate : c.verifier.createKey .selfGenerated LicenseKey.currentVersion
      (.selfGenerated t.current.clusterName) = .ok key) :
    c.plan t = .ok (.bootstrap key (.selfGenerated t.current.clusterName)) := by
  have hchanged := Transition.licenseChanged_eq_false_iff.mpr (hprevious.trans hcurrent.symm)
  simp only [plan, hrecovered, hchanged, hcurrent, hleader, hcreate, Option.isSome_none,
    Bool.not_true, Bool.or_self, Bool.false_eq_true, if_false]

theorem plan_of_oversized {e : LicenseError} (hrecovered : t.current.isRecovered = true)
    (hprevious : t.previous.license = none) (hcurrent : t.current.license = none)
    (hleader : t.current.isLeader = true)
    (hcreate : c.verifier.createKey .selfGenerated LicenseKey.currentVersion
      (.selfGenerated t.current.clusterName) = .error e) : c.plan t = .error e := by
  have hchanged := Transition.licenseChanged_eq_false_iff.mpr (hprevious.trans hcurrent.symm)
  simp only [plan, hrecovered, hchanged, hcurrent, hleader, hcreate, Option.isSome_none,
    Bool.not_true, Bool.or_self, Bool.false_eq_true, if_false]

/-- A step asks nothing of a node, brings it a license, or finds that it leads a fresh cluster. -/
theorem plan_eq_none_or (c : Coordinator) (t : Transition) :
    c.plan t = .ok .none ∨
      (t.current.isRecovered = true ∧ ∃ key, t.previous.license ≠ some key ∧
        t.current.license = some key) ∨
      (t.current.isRecovered = true ∧ t.previous.license = none ∧ t.current.license = none ∧
        t.current.isLeader = true) := by
  cases hrecovered : t.current.isRecovered with
  | false => exact .inl (plan_of_not_recovered hrecovered)
  | true =>
    by_cases hsame : t.previous.license = t.current.license
    · by_cases hidle : t.current.license ≠ none ∨ t.current.isLeader = false
      · exact .inl (plan_of_idle hsame hidle)
      · rw [not_or, Decidable.not_not, Bool.not_eq_false] at hidle
        obtain ⟨hcurrent, hleader⟩ := hidle
        exact .inr (.inr ⟨rfl, hsame.trans hcurrent, hcurrent, hleader⟩)
    · cases hcurrent : t.current.license with
      | none =>
        rw [hcurrent] at hsame
        exact .inl (plan_of_removed hsame hcurrent)
      | some key =>
        rw [hcurrent] at hsame
        exact .inr (.inl ⟨rfl, key, hsame, rfl⟩)

/-- Everything that a step can ask of a node, with the condition for each.  What a node does is
decided from this, and no later proof looks at the branches of planning again. -/
theorem plan_cases (c : Coordinator) (t : Transition) :
    c.plan t = .ok .none ∨ (∃ e, c.plan t = .error e) ∨
      (∃ key record, t.current.isRecovered = true ∧ t.previous.license ≠ some key ∧
        t.current.license = some key ∧ c.verifier.licenseData key = .ok record ∧
        c.plan t = .ok (.replace record)) ∨
      (∃ key, t.current.isRecovered = true ∧ t.previous.license = none ∧
        t.current.license = none ∧ t.current.isLeader = true ∧
        c.verifier.createKey .selfGenerated LicenseKey.currentVersion
          (.selfGenerated t.current.clusterName) = .ok key ∧
        c.plan t = .ok (.bootstrap key (.selfGenerated t.current.clusterName))) := by
  rcases plan_eq_none_or c t with hnone | ⟨hrecovered, key, hprevious, hcurrent⟩ |
    ⟨hrecovered, hprevious, hcurrent, hleader⟩
  · exact .inl hnone
  · cases hdata : c.verifier.licenseData key with
    | error e => exact .inr (.inl ⟨_, plan_of_corrupt hrecovered hprevious hcurrent hdata⟩)
    | ok record =>
      exact .inr (.inr (.inl ⟨key, record, hrecovered, hprevious, hcurrent, hdata,
        plan_of_arrived hrecovered hprevious hcurrent hdata⟩))
  · cases hcreate : c.verifier.createKey .selfGenerated LicenseKey.currentVersion
        (.selfGenerated t.current.clusterName) with
    | error e =>
      exact .inr (.inl ⟨e, plan_of_oversized hrecovered hprevious hcurrent hleader hcreate⟩)
    | ok key =>
      exact .inr (.inr (.inr ⟨key, hrecovered, hprevious, hcurrent, hleader, rfl,
        plan_of_fresh hrecovered hprevious hcurrent hleader hcreate⟩))

/-- Only a step between states of a leader without any license, of which the later is recovered, is
a bootstrap; and the key of the cluster has to fit. -/
theorem plan_eq_bootstrap_iff :
    c.plan t = .ok (.bootstrap key record) ↔
      t.current.isRecovered = true ∧ t.previous.license = none ∧ t.current.license = none ∧
        t.current.isLeader = true ∧ record = .selfGenerated t.current.clusterName ∧
        c.verifier.createKey .selfGenerated LicenseKey.currentVersion record = .ok key := by
  constructor
  · intro h
    rcases plan_cases c t with hplan | ⟨e, hplan⟩ | ⟨other, found, -, -, -, -, hplan⟩ |
      ⟨other, hrecovered, hprevious, hcurrent, hleader, hcreate, hplan⟩
    · cases h.symm.trans hplan
    · cases h.symm.trans hplan
    · cases h.symm.trans hplan
    · cases h.symm.trans hplan
      exact ⟨hrecovered, hprevious, hcurrent, hleader, rfl, hcreate⟩
  · rintro ⟨hrecovered, hprevious, hcurrent, hleader, rfl, hcreate⟩
    exact plan_of_fresh hrecovered hprevious hcurrent hleader hcreate

/-- Only a license that comes in with a recovered state is put in place of the one before.  It has
to be readable, and it has to be another than the previous state had. -/
theorem plan_eq_replace_iff :
    c.plan t = .ok (.replace record) ↔
      t.current.isRecovered = true ∧ ∃ key, t.previous.license ≠ some key ∧
        t.current.license = some key ∧ c.verifier.licenseData key = .ok record := by
  constructor
  · intro h
    rcases plan_cases c t with hplan | ⟨e, hplan⟩ |
      ⟨key, found, hrecovered, hprevious, hcurrent, hdata, hplan⟩ |
      ⟨key, -, -, -, -, -, hplan⟩
    · cases h.symm.trans hplan
    · cases h.symm.trans hplan
    · cases h.symm.trans hplan
      exact ⟨hrecovered, key, hprevious, hcurrent, hdata⟩
    · cases h.symm.trans hplan
  · rintro ⟨hrecovered, key, hprevious, hcurrent, hdata⟩
    exact plan_of_arrived hrecovered hprevious hcurrent hdata

end Coordinator

/-! ### What a step teaches -/

def LicenseAction.learned? : LicenseAction → Option LicenseRecord
  | .none => Option.none
  | .bootstrap _ record => some record
  | .replace record => some record

/-- The record that a step puts into the cache of a node with the verifier. -/
def Verifier.learned? (verifier : Verifier) (t : Transition) : Option LicenseRecord :=
  match (Coordinator.fresh verifier).plan t with
  | .ok action => action.learned?
  | .error _ => none

namespace Coordinator

variable (c : Coordinator) (t : Transition)

/-- What a step asks of a node depends on its verifier alone, not on what it has cached or queued.
-/
theorem plan_congr : c.plan t = (fresh c.verifier).plan t := by
  unfold plan
  rfl

theorem perform_cached (action : LicenseAction) :
    (c.perform action).cached = action.learned?.or c.cached := by
  cases action <;> rfl

@[simp] theorem perform_verifier (action : LicenseAction) :
    (c.perform action).verifier = c.verifier := by
  cases action <;> rfl

@[simp] theorem handle_verifier : (c.handle t).2.verifier = c.verifier := by
  unfold handle
  cases c.plan t with
  | ok action => exact perform_verifier c action
  | error cause => rfl

/-- After handling a step the cache holds what the step has taught, or what was in it before.  A
failure teaches nothing. -/
theorem handle_cached : (c.handle t).2.cached = (c.verifier.learned? t).or c.cached := by
  unfold handle Verifier.learned?
  rw [plan_congr]
  cases (fresh c.verifier).plan t with
  | ok action => exact perform_cached c action
  | error cause => rfl

end Coordinator

namespace Verifier

variable {verifier : Verifier} {t : Transition} {key : LicenseKey} {record : LicenseRecord}

/-- A step teaches the license that it brings, or that the cluster issues one to itself. -/
theorem learned?_eq_some_iff :
    verifier.learned? t = some record ↔
      t.current.isRecovered = true ∧
        ((∃ key, t.previous.license ≠ some key ∧ t.current.license = some key ∧
            verifier.licenseData key = .ok record) ∨
          (t.previous.license = none ∧ t.current.license = none ∧ t.current.isLeader = true ∧
            record = .selfGenerated t.current.clusterName ∧
            ∃ key, verifier.createKey .selfGenerated LicenseKey.currentVersion record =
              .ok key)) := by
  have hplan : verifier.learned? t = some record ↔
      (∃ key, (Coordinator.fresh verifier).plan t = .ok (.bootstrap key record)) ∨
        (Coordinator.fresh verifier).plan t = .ok (.replace record) := by
    unfold learned?
    cases (Coordinator.fresh verifier).plan t with
    | error cause => simp
    | ok action => cases action <;> simp [LicenseAction.learned?]
  rw [hplan, Coordinator.plan_eq_replace_iff]
  simp only [Coordinator.plan_eq_bootstrap_iff]
  constructor
  · rintro (⟨key, hrecovered, hprevious, hcurrent, hleader, hrecord, hcreate⟩ |
      ⟨hrecovered, hbrought⟩)
    · exact ⟨hrecovered, .inr ⟨hprevious, hcurrent, hleader, hrecord, key, hcreate⟩⟩
    · exact ⟨hrecovered, .inl hbrought⟩
  · rintro ⟨hrecovered, hbrought | ⟨hprevious, hcurrent, hleader, hrecord, key, hcreate⟩⟩
    · exact .inr ⟨hrecovered, hbrought⟩
    · exact .inl ⟨key, hrecovered, hprevious, hcurrent, hleader, hrecord, hcreate⟩

/-- A license that stays teaches nothing, even if the state before was not recovered. -/
theorem learned?_of_held (hprevious : t.previous.license = some key)
    (hcurrent : t.current.license = some key) : verifier.learned? t = none := by
  rw [Option.eq_none_iff_forall_ne_some]
  intro record hlearned
  obtain ⟨-, ⟨other, hne, heq, -⟩ | ⟨hnone, -⟩⟩ := learned?_eq_some_iff.mp hlearned
  · exact hne (hprevious.trans (hcurrent.symm.trans heq))
  · rw [hprevious] at hnone
    cases hnone

theorem learned?_of_arrived (hprevious : t.previous.license ≠ some key)
    (hcurrent : t.current.license = some key) (hdata : verifier.licenseData key = .ok record) :
    verifier.learned? t = if t.current.isRecovered then some record else none := by
  cases hrecovered : t.current.isRecovered with
  | true =>
    exact learned?_eq_some_iff.mpr ⟨hrecovered, .inl ⟨key, hprevious, hcurrent, hdata⟩⟩
  | false =>
    rw [if_neg Bool.false_ne_true, Option.eq_none_iff_forall_ne_some]
    intro other hlearned
    obtain ⟨htrue, -⟩ := learned?_eq_some_iff.mp hlearned
    rw [hrecovered] at htrue
    cases htrue

end Verifier

/-! ### Histories -/

def steps : List Snapshot → List Transition
  | previous :: current :: states => ⟨previous, current⟩ :: steps (current :: states)
  | _ => []

theorem steps_append (before : List Snapshot) (state : Snapshot) (after : List Snapshot) :
    steps (before ++ state :: after) = steps (before ++ [state]) ++ steps (state :: after) := by
  induction before with
  | nil => rfl
  | cons first before ih =>
    cases before with
    | nil => rfl
    | cons second before =>
      simp only [List.cons_append, steps] at ih ⊢
      rw [ih]

/-- The record of the last step of a history that taught anything. -/
def Verifier.lastLearned? (verifier : Verifier) (history : List Snapshot) :
    Option LicenseRecord :=
  ((steps history).filterMap verifier.learned?).getLast?

/-- A coordinator after it has handled the steps from a state through later ones. -/
def Coordinator.follow (c : Coordinator) (state : Snapshot) : List Snapshot → Coordinator
  | [] => c
  | next :: states => (c.handle ⟨state, next⟩).2.follow next states

namespace Verifier

variable {verifier : Verifier} {key : LicenseKey} {record : LicenseRecord}

/-- A history is cut at a state, which belongs to both parts: what was learned last was learned in
the second part, or else in the first. -/
theorem lastLearned?_append (before : List Snapshot) (state : Snapshot) (after : List Snapshot) :
    verifier.lastLearned? (before ++ state :: after) =
      (verifier.lastLearned? (state :: after)).or (verifier.lastLearned? (before ++ [state])) := by
  rw [lastLearned?, steps_append, List.filterMap_append, List.getLast?_append]
  rfl

theorem lastLearned?_pair (previous current : Snapshot) :
    verifier.lastLearned? [previous, current] = verifier.learned? ⟨previous, current⟩ := by
  rw [lastLearned?, steps, List.filterMap_cons]
  cases verifier.learned? ⟨previous, current⟩ <;> rfl

theorem lastLearned?_of_held {state : Snapshot} {states : List Snapshot}
    (h : ∀ s ∈ state :: states, s.license = some key) :
    verifier.lastLearned? (state :: states) = none := by
  induction states generalizing state with
  | nil => rfl
  | cons next states ih =>
    have hrest := ih fun s hs => h s (List.mem_cons_of_mem state hs)
    have hstep : verifier.learned? ⟨state, next⟩ = none :=
      learned?_of_held (h state (by simp)) (h next (by simp))
    rw [show state :: next :: states = [state] ++ next :: states from rfl, lastLearned?_append,
      hrest, Option.none_or]
    exact (lastLearned?_pair state next).trans hstep

end Verifier

/-- The license of the last state of a history came in with the state `arrival`: it has been
there since, and the state before did not have it. -/
structure Arrived (key : LicenseKey) (history before : List Snapshot)
    (previous arrival : Snapshot) (since : List Snapshot) : Prop where
  history_eq : history = before ++ previous :: arrival :: since
  lacking : previous.license ≠ some key
  held : ∀ state ∈ arrival :: since, state.license = some key

/-- A license that is there has come in, unless it has been there from the start.  One looks for the
last state that did not have it; the next one is where it came in. -/
theorem held_or_arrived {key : LicenseKey} (states : List Snapshot) {last : Snapshot}
    (h : last.license = some key) :
    (∀ state ∈ states ++ [last], state.license = some key) ∨
      ∃ before previous arrival since,
        Arrived key (states ++ [last]) before previous arrival since := by
  induction states with
  | nil => exact .inl fun state hstate => by rwa [List.mem_singleton.mp hstate]
  | cons first states ih =>
    rcases ih with hall | ⟨before, previous, arrival, since, harrived⟩
    · by_cases hfirst : first.license = some key
      · exact .inl fun state hstate => by
          rcases List.mem_cons.mp hstate with rfl | hrest
          · exact hfirst
          · exact hall state hrest
      · -- The first state is the only one without the license.
        obtain ⟨arrival, since, hrest⟩ : ∃ arrival since, states ++ [last] = arrival :: since := by
          cases states with
          | nil => exact ⟨last, [], rfl⟩
          | cons second states => exact ⟨second, states ++ [last], rfl⟩
        refine .inr ⟨[], first, arrival, since, ?_, hfirst, ?_⟩
        · rw [List.cons_append, hrest]; rfl
        · rwa [← hrest]
    · refine .inr ⟨first :: before, previous, arrival, since, ?_, harrived.lacking, harrived.held⟩
      rw [List.cons_append, harrived.history_eq]; rfl

/-- What is in the cache of a node is decided when the license arrives.  If that state was
recovered, the record was learned with it; if not, no later state brings it again, and the node
still has what it had. -/
theorem Arrived.lastLearned? {verifier : Verifier} {key : LicenseKey} {record : LicenseRecord}
    {history before since : List Snapshot} {previous arrival : Snapshot}
    (h : Arrived key history before previous arrival since)
    (hdata : verifier.licenseData key = .ok record) :
    verifier.lastLearned? history =
      if arrival.isRecovered then some record
      else verifier.lastLearned? (before ++ [previous]) := by
  have hstep : verifier.learned? ⟨previous, arrival⟩ =
      if arrival.isRecovered then some record else none :=
    Verifier.learned?_of_arrived h.lacking (h.held arrival (by simp)) hdata
  have hsince : verifier.lastLearned? (arrival :: since) = none :=
    Verifier.lastLearned?_of_held h.held
  have hjoin : verifier.lastLearned? (previous :: arrival :: since) =
      verifier.learned? ⟨previous, arrival⟩ := by
    rw [show previous :: arrival :: since = [previous] ++ arrival :: since from rfl,
      Verifier.lastLearned?_append, hsince, Option.none_or]
    exact Verifier.lastLearned?_pair previous arrival
  rw [h.history_eq, Verifier.lastLearned?_append, hjoin, hstep]
  cases arrival.isRecovered <;> rfl

namespace Coordinator

/-- **The cache is what was learned last.** The induction is on the states that are followed, with
the cache at the start standing for everything before them. -/
theorem follow_cached (c : Coordinator) (state : Snapshot) (states : List Snapshot) :
    (c.follow state states).cached =
      (c.verifier.lastLearned? (state :: states)).or c.cached := by
  induction states generalizing c state with
  | nil => rfl
  | cons next states ih =>
    rw [follow, ih, handle_verifier, handle_cached, ← Option.or_assoc,
      show state :: next :: states = [state] ++ next :: states from rfl,
      Verifier.lastLearned?_append]
    congr 2
    exact (Verifier.lastLearned?_pair state next).symm

end Coordinator

end ClusterLicense
