/-
  ClusterLicense/Proofs/Cluster/Caching.lean
  ==========================================
  **Where a cached record comes from**, and what an error changes.

  A step of the cluster state gives a node a record if it brings a license that the
  node can read, or if the node leads the cluster and finds it fresh
  (`Verifier.Gives`).  Every other step keeps the cache, apart from a close, which
  empties it; so what is in the cache was put there by the last step of a run that
  did not keep it (`Run.keeps_or_last`).

  A license that comes in and cannot be read is the one thing that handling reports,
  unless a cluster has a name that is too long for a key
  (`Coordinator.handle_eq_error_iff`).  An error leaves the coordinator as it was.
-/
import ClusterLicense.Proofs.Cluster.Bootstrapping
import ClusterLicense.Proofs.Cluster.Registering

namespace ClusterLicense

/-- The record that a step of the cluster state gives to a node with the verifier. -/
inductive Verifier.Gives (verifier : Verifier) (t : Transition) : LicenseRecord → Prop where
  /-- It is in the license that comes in. -/
  | brought {key : LicenseKey} {record : LicenseRecord} (h : t.Brings key)
      (hdata : verifier.licenseData key = .ok record) : Gives verifier t record
  /-- The cluster issues it to itself. -/
  | issued (h : t.IsFresh)
      (hfits : LicenseKey.Fits (LicenseRecord.selfGenerated t.current.clusterName).stored) :
      Gives verifier t (.selfGenerated t.current.clusterName)

namespace Verifier

variable {verifier : Verifier} {t : Transition} {record : LicenseRecord}

/-- What a step teaches, told by cases: it brings a license with the record, or the node leads a
fresh cluster and issues the license itself. -/
theorem learned?_eq_some_iff_gives :
    verifier.learned? t = some record ↔ verifier.Gives t record := by
  rw [learned?_eq_some_iff]
  constructor
  · rintro ⟨hrecovered, ⟨key, hlacked, hbrought, hdata⟩ |
      ⟨hbefore, hlicense, hleader, rfl, key, hcreate⟩⟩
    · exact .brought ⟨hrecovered, hlacked, hbrought⟩ hdata
    · obtain ⟨-, hfits, -⟩ := createKey_eq_ok_iff.mp hcreate
      exact .issued ⟨hrecovered, hleader, hbefore, hlicense⟩ hfits
  · intro h
    cases h with
    | @brought key record h hdata => exact ⟨h.recovered, .inl ⟨key, h.lacked, h.brought, hdata⟩⟩
    | issued h hfits =>
      exact ⟨h.recovered, .inr ⟨h.unlicensed_before, h.unlicensed, h.leads, rfl, _,
        createKey_ofCluster hfits⟩⟩

theorem learned?_eq_none_iff_gives :
    verifier.learned? t = none ↔ ∀ record, ¬ verifier.Gives t record := by
  rw [Option.eq_none_iff_forall_ne_some]
  exact forall_congr' fun record => not_congr learned?_eq_some_iff_gives

end Verifier

/-! ### Errors -/

namespace Coordinator

variable {c : Coordinator} {t : Transition} {key : LicenseKey} {e : LicenseError}

/-- A license that comes in and cannot be read is reported as a corruption of the cluster's license,
and the coordinator is as it was, with the record that it had. -/
theorem handle_of_corrupt {cause : LicenseError} (h : t.Brings key)
    (hdata : c.verifier.licenseData key = .error cause) :
    c.handle t = (.error (.clusterLicenseCorruption cause.message), c) := by
  rw [handle, plan_of_corrupt h.recovered h.lacked h.brought hdata]

/-- A fresh cluster whose name does not fit into a key gets no license, and the failure is that of
making the key. -/
theorem handle_of_oversized (h : t.IsFresh)
    (hlarge : ¬ LicenseKey.Fits (LicenseRecord.selfGenerated t.current.clusterName).stored) :
    c.handle t = (.error (.malformedKey (.oversized (c.verifier.symmetricKey.encrypt
      (LicenseRecord.selfGenerated t.current.clusterName).stored).length)), c) := by
  have hcreate := @Verifier.createKey_of_suits c.verifier _ _
    (LicenseRecord.suits_selfGenerated t.current.clusterName) LicenseKey.currentVersion
  rw [LicenseKey.encode_oversized c.verifier.symmetricKey hlarge] at hcreate
  rw [handle, plan_of_oversized h.recovered h.unlicensed_before h.unlicensed h.leads hcreate]

/-- Handling fails if the license that comes in cannot be read, or if no key is large enough for
the name of a fresh cluster. -/
theorem handle_eq_error_iff :
    (c.handle t).1 = .error e ↔
      (∃ key cause, t.Brings key ∧ c.verifier.licenseData key = .error cause ∧
        e = .clusterLicenseCorruption cause.message) ∨
      (t.IsFresh ∧
        ¬ LicenseKey.Fits (LicenseRecord.selfGenerated t.current.clusterName).stored ∧
        e = .malformedKey (.oversized (c.verifier.symmetricKey.encrypt
          (LicenseRecord.selfGenerated t.current.clusterName).stored).length)) := by
  constructor
  · intro h
    rcases plan_eq_none_or c t with hidle | ⟨hrecovered, key, hlacked, hbrought⟩ |
      ⟨hrecovered, hbefore, hlicense, hleader⟩
    · rw [handle, hidle] at h
      cases h
    · have hbrings : t.Brings key := ⟨hrecovered, hlacked, hbrought⟩
      cases hdata : c.verifier.licenseData key with
      | ok record =>
        rw [handle_of_brings hbrings hdata] at h
        cases h
      | error cause =>
        rw [handle_of_corrupt hbrings hdata] at h
        cases h
        exact .inl ⟨key, cause, hbrings, hdata, rfl⟩
    · have hfresh : t.IsFresh := ⟨hrecovered, hleader, hbefore, hlicense⟩
      by_cases hfits : LicenseKey.Fits (LicenseRecord.selfGenerated t.current.clusterName).stored
      · rw [handle, plan_of_isFresh hfresh hfits] at h
        cases h
      · rw [handle_of_oversized hfresh hfits] at h
        cases h
        exact .inr ⟨hfresh, hfits, rfl⟩
  · rintro (⟨key, cause, hbrings, hdata, rfl⟩ | ⟨hfresh, hlarge, rfl⟩)
    · rw [handle_of_corrupt hbrings hdata]
    · rw [handle_of_oversized hfresh hlarge]

/-- What fails has not begun.  Planning comes before performing, and only planning can fail. -/
theorem handle_of_error (h : (c.handle t).1 = .error e) : (c.handle t).2 = c := by
  unfold handle at h ⊢
  cases hplan : c.plan t with
  | ok action =>
    rw [hplan] at h
    cases h
  | error cause => rfl

end Coordinator

/-! ### The cache -/

namespace Registrar

def Step.Keeps (verifier : Verifier) : Step → Prop
  | .handle t => ∀ record, ¬ verifier.Gives t record
  | .receive => True
  | .commit _ _ => True
  | .close _ => False

namespace Run

variable {verifier : Verifier} {run : Run} {past before after steps : List Step}
  {t : Transition} {record : LicenseRecord}

def cached (run : Run) : Option LicenseRecord := run.registrar.coordinator.cached

theorem steps_append_cons (run : Run) (before : List Step) (step : Step) (after : List Step) :
    run.steps (before ++ step :: after) = ((run.steps before).step step).steps after :=
  List.foldl_append

/-! #### One step -/

theorem Invariant.cached_handle (h : Invariant verifier past run)
    (hgives : verifier.Gives t record) : (run.step (.handle t)).cached = some record := by
  have hlearned := Verifier.learned?_eq_some_iff_gives.mpr hgives
  rw [cached, Run.step, Coordinator.handle_cached, h.verifier_eq, hlearned]
  rfl

theorem Invariant.cached_step (h : Invariant verifier past run) {step : Step}
    (hkeeps : step.Keeps verifier) : (run.step step).cached = run.cached := by
  cases step with
  | handle t =>
    have hlearned := Verifier.learned?_eq_none_iff_gives.mpr hkeeps
    rw [cached, Run.step, Coordinator.handle_cached, h.verifier_eq, hlearned]
    rfl
  | receive =>
    obtain ⟨waiting, -, hreceived⟩ := run.registrar.receive_keeps
    simp only [cached, Run.step, hreceived]
  | commit now outage => simp only [cached, Run.step, commit_eq]
  | close source => cases hkeeps

theorem not_keeps_iff {step : Step} :
    ¬ step.Keeps verifier ↔
      (∃ source, step = .close source) ∨
        ∃ t record, step = .handle t ∧ verifier.Gives t record := by
  cases step with
  | handle t => simp [Step.Keeps]
  | receive => simp [Step.Keeps]
  | commit now outage => simp [Step.Keeps]
  | close source => simp [Step.Keeps]

/-! #### Many steps -/

theorem Invariant.cached_steps (h : Invariant verifier past run)
    (hkeeps : ∀ step ∈ steps, step.Keeps verifier) : (run.steps steps).cached = run.cached := by
  induction steps generalizing past run with
  | nil => rfl
  | cons step steps ih =>
    obtain ⟨hfirst, hrest⟩ := List.forall_mem_cons.mp hkeeps
    rw [← h.cached_step hfirst]
    exact ih (h.step step) hrest

/-- If any step does not keep the cache, there is a last one that does not.  The induction is on the
steps from the back, as the last is what counts. -/
theorem keeps_or_last (verifier : Verifier) (steps : List Step) :
    (∀ step ∈ steps, step.Keeps verifier) ∨
      ∃ before step after, steps = before ++ step :: after ∧ ¬ step.Keeps verifier ∧
        ∀ later ∈ after, later.Keeps verifier := by
  induction steps with
  | nil => exact .inl fun step hstep => by cases hstep
  | cons first steps ih =>
    rcases ih with hkeeps | ⟨before, step, after, rfl, hchanges, hafter⟩
    · by_cases hfirst : first.Keeps verifier
      · exact .inl (List.forall_mem_cons.mpr ⟨hfirst, hkeeps⟩)
      · exact .inr ⟨[], first, steps, rfl, hfirst, hkeeps⟩
    · exact .inr ⟨first :: before, step, after, rfl, hchanges, hafter⟩

theorem Invariant.cached_of_given (h : Invariant verifier past run)
    (hgives : verifier.Gives t record) (hafter : ∀ step ∈ after, step.Keeps verifier) :
    (run.steps (before ++ .handle t :: after)).cached = some record := by
  have hbefore : Invariant verifier (past ++ before) (run.steps before) := h.steps
  rw [steps_append_cons, (hbefore.step (.handle t)).cached_steps hafter]
  exact hbefore.cached_handle hgives

theorem Invariant.cached_of_closed (h : Invariant verifier past run) {source : Source Unit}
    (hafter : ∀ step ∈ after, step.Keeps verifier) :
    (run.steps (before ++ .close source :: after)).cached = none := by
  have hbefore : Invariant verifier (past ++ before) (run.steps before) := h.steps
  rw [steps_append_cons, (hbefore.step (.close source)).cached_steps hafter]
  rfl

/-- A record is in the cache exactly if some step gave it and every later one kept the cache.  For
the direction from the cache to the step, the last step that did not keep it is looked at. -/
theorem Invariant.cached_eq_some_iff (h : Invariant verifier past run)
    (hempty : run.cached = none) :
    (run.steps steps).cached = some record ↔
      ∃ before t after, steps = before ++ .handle t :: after ∧ verifier.Gives t record ∧
        ∀ step ∈ after, step.Keeps verifier := by
  constructor
  · intro hcached
    rcases keeps_or_last verifier steps with hkeeps | ⟨before, step, after, rfl, hchanges, hafter⟩
    · rw [h.cached_steps hkeeps, hempty] at hcached
      cases hcached
    · rcases not_keeps_iff.mp hchanges with ⟨source, rfl⟩ | ⟨t, given, rfl, hgives⟩
      · rw [h.cached_of_closed hafter] at hcached
        cases hcached
      · rw [h.cached_of_given hgives hafter] at hcached
        cases hcached
        exact ⟨before, t, after, rfl, hgives, hafter⟩
  · rintro ⟨before, t, after, rfl, hgives, hafter⟩
    exact h.cached_of_given hgives hafter

/-- The cache is empty exactly if no step since the last close gave a record. -/
theorem Invariant.cached_eq_none_iff (h : Invariant verifier past run)
    (hempty : run.cached = none) :
    (run.steps steps).cached = none ↔
      ∀ before t after, steps = before ++ .handle t :: after →
        (∀ source, Step.close source ∉ after) → ∀ record, ¬ verifier.Gives t record := by
  constructor
  · rintro hcached before t after rfl hopen record hgives
    -- No close came later, so a later step that did not keep the record gave another one.
    rcases keeps_or_last verifier after with hkeeps | ⟨between, step, later, rfl, hchanges, hlater⟩
    · rw [h.cached_of_given hgives hkeeps] at hcached
      cases hcached
    · rcases not_keeps_iff.mp hchanges with ⟨source, rfl⟩ | ⟨next, given, rfl, hgiven⟩
      · exact hopen source (List.mem_append_right between List.mem_cons_self)
      · rw [← List.cons_append, ← List.append_assoc, h.cached_of_given hgiven hlater] at hcached
        cases hcached
  · intro hnone
    rcases keeps_or_last verifier steps with hkeeps | ⟨before, step, after, rfl, hchanges, hafter⟩
    · exact (h.cached_steps hkeeps).trans hempty
    · rcases not_keeps_iff.mp hchanges with ⟨source, rfl⟩ | ⟨t, record, rfl, hgives⟩
      · exact h.cached_of_closed hafter
      · refine absurd hgives (hnone before t after rfl ?_ record)
        intro source hclose
        exact hafter _ hclose

/-- **Where a cached record comes from, and what an error changes.**  After any steps the cache
is empty if nothing that was handled since the start or the last close gave a record; otherwise
it holds what the latest gave that gave one.  Handling reports that a license comes in that
cannot be read, and nothing else as long as the names of fresh clusters fit into keys; and what
it reports has changed nothing. -/
theorem cached_record_was_given (verifier : Verifier) (ledger : Ledger) (steps : List Step) :
    let c := ((start verifier ledger).steps steps).registrar.coordinator
    (c.cached = none ↔ ∀ before t after, steps = before ++ .handle t :: after →
        (∀ source, Step.close source ∉ after) → ∀ record, ¬ verifier.Gives t record) ∧
      (∀ record, c.cached = some record ↔
        ∃ before t after, steps = before ++ .handle t :: after ∧ verifier.Gives t record ∧
          ∀ step ∈ after, step.Keeps verifier) ∧
      (∀ t e, (t.IsFresh →
          LicenseKey.Fits (LicenseRecord.selfGenerated t.current.clusterName).stored) →
        ((c.handle t).1 = .error e ↔
          ∃ key cause, t.Brings key ∧ verifier.licenseData key = .error cause ∧
            e = .clusterLicenseCorruption cause.message)) ∧
      ∀ t e, (c.handle t).1 = .error e → (c.handle t).2 = c := by
  intro c
  have hstart := Invariant.start verifier ledger
  have hverifier : c.verifier = verifier := hstart.steps.verifier_eq
  refine ⟨hstart.cached_eq_none_iff rfl, fun record => hstart.cached_eq_some_iff rfl, ?_, ?_⟩
  · intro t e hfits
    rw [Coordinator.handle_eq_error_iff, hverifier]
    refine or_iff_left ?_
    rintro ⟨hfresh, hlarge, -⟩
    exact hlarge (hfits hfresh)
  · intro t e h
    exact Coordinator.handle_of_error h

open Verifier (shipped)

/-- Octets that begin like a license of another version. -/
def unreadKey : LicenseKey := ⟨[0, 0, 0, 9]⟩

theorem licenseData_unreadKey :
    shipped.licenseData unreadKey = .error (.malformedKey (.unsupportedVersion 9)) := by
  rfl

/-- A fresh cluster's record stays in the cache when a license comes in that cannot be read. -/
theorem cached_record_was_given_crate :
    let c := ((Run.start shipped .empty).steps [.handle ⟨led none, led none⟩]).registrar.coordinator
    let t : Transition := ⟨led none, led (some unreadKey)⟩
    (∃ e, (c.handle t).1 = .error e) ∧ (c.handle t).2.cached = some (.selfGenerated "crate") := by
  intro c t
  obtain ⟨-, hcached, herror, hkept⟩ :=
    cached_record_was_given shipped .empty [.handle ⟨led none, led none⟩]
  have hgiven : c.cached = some (.selfGenerated "crate") :=
    (hcached _).mpr ⟨[], ⟨led none, led none⟩, [], rfl,
      .issued ⟨rfl, rfl, rfl, rfl⟩ Verifier.fits_stored_crate, fun step h => by cases h⟩
  have hbrings : t.Brings unreadKey := ⟨rfl, (Option.some_ne_none _).symm, rfl⟩
  have hfails : (c.handle t).1 = .error _ :=
    (herror t _ fun hfresh => absurd hfresh.unlicensed (Option.some_ne_none _)).mpr
      ⟨unreadKey, _, hbrings, licenseData_unreadKey, rfl⟩
  refine ⟨⟨_, hfails⟩, ?_⟩
  rw [hkept t _ hfails]
  exact hgiven

end Run

end Registrar

end ClusterLicense
