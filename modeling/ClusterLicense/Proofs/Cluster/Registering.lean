/-
  ClusterLicense/Proofs/Cluster/Registering.lean
  ==============================================
  **What a worker may still pass on once a license is there.**

  A coordinator and its worker take turns in any order, and a key that has been
  queued is not looked at again before it is passed to the cluster.  So a license
  does not hold back the keys that were pending when it came in.  It does hold
  back every other: as long as no recovered state without a license is handled,
  keys only leave what is pending (`Run.conserves`), in order and one by one, and
  there are at most seventeen of them (`Run.Invariant`).
-/
import ClusterLicense.Cluster.Worker
import ClusterLicense.Proofs.Cluster.Learning
import ClusterLicense.Proofs.License.SelfIssued

namespace ClusterLicense

/-! ### Runs -/

/-- Writing keys one after the other asks for each of them once, in order, and all fare alike as
long as nothing changes about the outage. -/
theorem Ledger.requests_foldl_put (keys : List LicenseKey) (ledger : Ledger) :
    (keys.foldl (fun ledger key => (ledger.put key).2) ledger).requests =
      ledger.requests ++ keys.map (⟨·, ledger.outage⟩) := by
  induction keys generalizing ledger with
  | nil => exact (List.append_nil _).symm
  | cons key keys ih =>
    rw [List.foldl_cons, ih, put, List.map_cons, List.append_assoc, List.singleton_append]

namespace Registrar

/-- The keys that the next commit passes to the cluster: the one in hand, if it is valid. -/
def passes (now : Int64) (registrar : Registrar) : List LicenseKey :=
  registrar.inHand.toList.filter (registrar.coordinator.verifier.accepts · now)

/-- A commit changes the ledger by what it passes to it, and by nothing else.  The worker's hand is
empty afterwards, whatever came of it, so nothing is tried twice. -/
theorem commit_eq (now : Int64) (registrar : Registrar) (ledger : Ledger) :
    registrar.commit now ledger = ({ registrar with inHand := none },
      (registrar.passes now).foldl (fun ledger key => (ledger.put key).2) ledger) := by
  obtain ⟨coordinator, inHand⟩ := registrar
  cases inHand with
  | none => rfl
  | some key =>
    simp only [commit, passes, Verifier.register, Option.toList_some]
    cases haccepts : coordinator.verifier.accepts key now with
    | true => simp [haccepts]
    | false => simp [haccepts]

/-- The keys that have been queued and not yet dealt with, the oldest first. -/
def pending (registrar : Registrar) : List LicenseKey :=
  registrar.inHand.toList ++ registrar.coordinator.queue.waiting

/-- Taking a key out of the queue does not change what is pending: it goes from the front of the
queue into the worker's hand, which comes before the queue. -/
theorem pending_receive (registrar : Registrar) :
    registrar.receive.pending = registrar.pending := by
  obtain ⟨⟨verifier, cached, ⟨waiting, isOpen, hasWorker⟩, subscription⟩, inHand⟩ := registrar
  cases inHand with
  | some key => rfl
  | none =>
    cases waiting with
    | nil => rfl
    | cons key keys => rfl

/-- The worker takes keys out of the queue, and changes nothing else.  In particular it neither
opens nor closes the queue, and leaves the subscription alone. -/
theorem receive_keeps (registrar : Registrar) :
    ∃ waiting, waiting.length ≤ registrar.coordinator.queue.waiting.length ∧
      registrar.receive.coordinator =
        { registrar.coordinator with queue := { registrar.coordinator.queue with waiting } } := by
  unfold receive
  split
  · rename_i key keys _ hwaiting
    refine ⟨keys, ?_, rfl⟩
    rw [hwaiting]
    exact Nat.le_succ _
  · exact ⟨registrar.coordinator.queue.waiting, Nat.le_refl _, rfl⟩

inductive Step where
  /-- The coordinator handles a step of the cluster state. -/
  | handle (t : Transition)
  /-- The worker takes a key out of the queue. -/
  | receive
  /-- The worker registers the key that it has taken; the outage is that of the write. -/
  | commit (now : Int64) (outage : Option String)
  /-- The coordinator is closed on a source. -/
  | close (source : Source Unit)

/-- The step may add a key: a recovered state without a license is handled. -/
def Step.MayQueue : Step → Prop
  | .handle t => t.current.isRecovered = true ∧ t.current.license = none
  | _ => False

structure Run where
  registrar : Registrar
  ledger : Ledger

def Run.start (verifier : Verifier) (ledger : Ledger) : Run := ⟨.fresh verifier, ledger⟩

def Run.step (run : Run) : Step → Run
  | .handle t =>
    { run with registrar :=
        { run.registrar with coordinator := (run.registrar.coordinator.handle t).2 } }
  | .receive => { run with registrar := run.registrar.receive }
  | .commit now outage =>
    let (registrar, ledger) := run.registrar.commit now { run.ledger with outage }
    ⟨registrar, ledger⟩
  | .close source =>
    { run with registrar :=
        { run.registrar with coordinator := (run.registrar.coordinator.close source).1 } }

def Run.steps (run : Run) (steps : List Step) : Run := steps.foldl Run.step run

end Registrar

/-! ### Handling and the queue -/

namespace Coordinator

variable {c : Coordinator} {t : Transition}

/-- Handling leaves the queue alone or offers it a key that was planned.  There is no third way into
the queue. -/
theorem handle_queue_cases (c : Coordinator) (t : Transition) :
    (c.handle t).2.queue = c.queue ∨
      ∃ key record, (fresh c.verifier).plan t = .ok (.bootstrap key record) ∧
        (c.handle t).2.queue = c.queue.offer key := by
  unfold handle
  rw [← plan_congr]
  cases hplan : c.plan t with
  | error cause => exact .inl rfl
  | ok action =>
    cases action with
    | none => exact .inl rfl
    | replace record => exact .inl rfl
    | bootstrap key record => exact .inr ⟨key, record, rfl, rfl⟩

theorem handle_queue_of_not_mayQueue (h : ¬ (Registrar.Step.handle t).MayQueue) :
    (c.handle t).2.queue = c.queue := by
  rcases handle_queue_cases c t with hsame | ⟨key, record, hplan, -⟩
  · exact hsame
  · obtain ⟨hrecovered, -, hlicense, -⟩ := plan_eq_bootstrap_iff.mp hplan
    exact absurd ⟨hrecovered, hlicense⟩ h

end Coordinator

theorem RegistrationQueue.waiting_offer (queue : RegistrationQueue) (key : LicenseKey) :
    (queue.offer key).waiting = queue.waiting ∨
      queue.waiting.length < capacity ∧ (queue.offer key).waiting = queue.waiting ++ [key] := by
  unfold offer
  split
  · rename_i h
    exact .inr ⟨h.2.2, rfl⟩
  · exact .inl rfl

namespace Registrar.Run

variable {run : Run}

theorem steps_cons (run : Run) (step : Step) (later : List Step) :
    run.steps (step :: later) = (run.step step).steps later := rfl

/-! ### What the ledger is asked -/

/-- A commit asks the ledger for the keys that it passes on, and what becomes of them is what
becomes of every write at that time. -/
theorem requests_commit (run : Run) (now : Int64) (outage : Option String) :
    (run.step (.commit now outage)).ledger.requests =
      run.ledger.requests ++ (run.registrar.passes now).map (⟨·, outage⟩) := by
  simp only [Run.step, commit_eq, Ledger.requests_foldl_put]

theorem asked_commit (run : Run) (now : Int64) (outage : Option String) :
    (run.step (.commit now outage)).ledger.asked =
      run.ledger.asked ++ run.registrar.passes now := by
  rw [Ledger.asked, requests_commit, List.map_append, List.map_map, Ledger.asked]
  exact congrArg _ (List.map_id _)

/-! ### Between two queuings -/

/-- From one run to a later one, pending keys were only taken away from the front, and of those
that were taken away the ledger was asked to commit some, in order, and was asked nothing else. -/
def Conserves (run later : Run) : Prop :=
  ∃ gone late, run.registrar.pending = gone ++ later.registrar.pending ∧ late.Sublist gone ∧
    later.ledger.asked = run.ledger.asked ++ late

theorem Conserves.refl (run : Run) : run.Conserves run :=
  ⟨[], [], rfl, .slnil, (List.append_nil _).symm⟩

/-- What was taken away in two stretches was taken away from the front in both, so the parts can be
joined, and so can what the ledger was asked. -/
theorem Conserves.trans {first second third : Run} (h : first.Conserves second)
    (h' : second.Conserves third) : first.Conserves third := by
  obtain ⟨gone, late, hpending, hlate, hasked⟩ := h
  obtain ⟨gone', late', hpending', hlate', hasked'⟩ := h'
  refine ⟨gone ++ gone', late ++ late', ?_, hlate.append hlate', ?_⟩
  · rw [hpending, hpending', List.append_assoc]
  · rw [hasked', hasked, List.append_assoc]

/-- A step that may not queue anything only ever takes keys away.  Of the four steps, only a commit
does so, and the ledger is asked for its key or, were it invalid, for none. -/
theorem conserves_step {step : Step} (h : ¬ step.MayQueue) : run.Conserves (run.step step) := by
  cases step with
  | handle t =>
    have hpending : (run.step (.handle t)).registrar.pending = run.registrar.pending := by
      simp only [Run.step, pending, Coordinator.handle_queue_of_not_mayQueue h]
    exact ⟨[], [], hpending.symm, .slnil, (List.append_nil _).symm⟩
  | receive =>
    exact ⟨[], [], (pending_receive run.registrar).symm, .slnil, (List.append_nil _).symm⟩
  | commit now outage =>
    refine ⟨run.registrar.inHand.toList, run.registrar.passes now, ?_, List.filter_sublist,
      asked_commit run now outage⟩
    simp only [Run.step, commit_eq, pending, Option.toList_none, List.nil_append]
  | close source =>
    exact ⟨[], [], rfl, .slnil, (List.append_nil _).symm⟩

theorem conserves_steps (steps : List Step) (h : ∀ step ∈ steps, ¬ step.MayQueue) :
    run.Conserves (run.steps steps) := by
  induction steps generalizing run with
  | nil => exact .refl run
  | cons step steps ih =>
    have hstep : run.Conserves (run.step step) := conserves_step (h step List.mem_cons_self)
    exact hstep.trans (ih fun later hlater => h later (List.mem_cons_of_mem step hlater))

/-! ### What can be pending -/

/-- A key that was queued for a recovered state without a license, by the leader. -/
def Planned (verifier : Verifier) (steps : List Step) (key : LicenseKey) : Prop :=
  ∃ t record, Step.handle t ∈ steps ∧ t.current.isRecovered = true ∧ t.current.isLeader = true ∧
    t.current.license = none ∧
    (Coordinator.fresh verifier).plan t = .ok (.bootstrap key record)

/-- What holds after any steps of a new coordinator and its worker.  The worker has no way to put a
key into the queue, so what is pending was planned by the coordinator at some point of the past. -/
structure Invariant (verifier : Verifier) (steps : List Step) (run : Run) : Prop where
  verifier_eq : run.registrar.coordinator.verifier = verifier
  waiting_le : run.registrar.coordinator.queue.waiting.length ≤ RegistrationQueue.capacity
  planned : ∀ key ∈ run.registrar.pending, Planned verifier steps key

variable {verifier : Verifier} {past : List Step}

theorem Planned.mono {more : List Step} {key : LicenseKey} (h : Planned verifier past key) :
    Planned verifier (past ++ more) key := by
  obtain ⟨t, record, hmem, hrest⟩ := h
  exact ⟨t, record, List.mem_append_left more hmem, hrest⟩

theorem Invariant.start (verifier : Verifier) (ledger : Ledger) :
    Invariant verifier [] (Run.start verifier ledger) :=
  ⟨rfl, Nat.zero_le _, fun key hkey => by cases hkey⟩

theorem Invariant.of_pending_subset {later : Run} {step : Step} (h : Invariant verifier past run)
    (hverifier : later.registrar.coordinator.verifier = run.registrar.coordinator.verifier)
    (hwaiting : later.registrar.coordinator.queue.waiting.length ≤
      run.registrar.coordinator.queue.waiting.length)
    (hpending : later.registrar.pending ⊆ run.registrar.pending) :
    Invariant verifier (past ++ [step]) later :=
  ⟨hverifier.trans h.verifier_eq, hwaiting.trans h.waiting_le,
    fun key hkey => (h.planned key (hpending hkey)).mono⟩

/-- Handling may queue a key, and then it was planned in this very step; in every other case the
queue is a part of what it was. -/
theorem Invariant.handle (h : Invariant verifier past run) (t : Transition) :
    Invariant verifier (past ++ [.handle t]) (run.step (.handle t)) := by
  rcases Coordinator.handle_queue_cases run.registrar.coordinator t with
    hsame | ⟨key, record, hplan, hoffer⟩
  · refine h.of_pending_subset (Coordinator.handle_verifier _ t) ?_ ?_
    · simp only [Run.step, hsame, Nat.le_refl]
    · simp only [Run.step, pending, hsame, List.Subset.refl]
  · rw [h.verifier_eq] at hplan
    have hnew : Planned verifier (past ++ [.handle t]) key := by
      obtain ⟨hrecovered, -, hlicense, hleader, -⟩ := Coordinator.plan_eq_bootstrap_iff.mp hplan
      exact ⟨t, record, by simp, hrecovered, hleader, hlicense, hplan⟩
    rcases RegistrationQueue.waiting_offer run.registrar.coordinator.queue key with
      hfull | ⟨hroom, hadded⟩
    · refine h.of_pending_subset (Coordinator.handle_verifier _ t) ?_ ?_
      · simp only [Run.step, hoffer, hfull, Nat.le_refl]
      · simp only [Run.step, pending, hoffer, hfull, List.Subset.refl]
    · refine ⟨(Coordinator.handle_verifier _ t).trans h.verifier_eq, ?_, ?_⟩
      · simp only [Run.step, hoffer, hadded, List.length_append, List.length_singleton]
        omega
      · intro other hother
        simp only [Run.step, pending, hoffer, hadded, ← List.append_assoc] at hother
        rcases List.mem_append.mp hother with hold | hkey
        · exact (h.planned other hold).mono
        · rw [List.mem_singleton.mp hkey]
          exact hnew

theorem Invariant.step (h : Invariant verifier past run) (step : Step) :
    Invariant verifier (past ++ [step]) (run.step step) := by
  cases step with
  | handle t => exact h.handle t
  | receive =>
    obtain ⟨waiting, hle, hreceived⟩ := run.registrar.receive_keeps
    refine h.of_pending_subset ?_ ?_ ?_
    · simp only [Run.step, hreceived]
    · simpa only [Run.step, hreceived] using hle
    · simp only [Run.step, pending_receive, List.Subset.refl]
  | commit now outage =>
    refine h.of_pending_subset ?_ ?_ ?_
    · simp only [Run.step, commit_eq]
    · simp only [Run.step, commit_eq, Nat.le_refl]
    · simp only [Run.step, commit_eq, pending, Option.toList_none, List.nil_append]
      exact List.subset_append_right _ _
  | close source => exact h.of_pending_subset rfl (Nat.le_refl _) (List.Subset.refl _)

theorem Invariant.steps {more : List Step} (h : Invariant verifier past run) :
    Invariant verifier (past ++ more) (run.steps more) := by
  induction more generalizing past run with
  | nil => rwa [List.append_nil]
  | cons step more ih =>
    rw [List.append_cons]
    exact ih (h.step step)

/-- Sixteen keys may wait and one may be in the worker's hand. -/
theorem Invariant.pending_le (h : Invariant verifier past run) :
    run.registrar.pending.length ≤ RegistrationQueue.capacity + 1 := by
  have hhand : run.registrar.inHand.toList.length ≤ 1 := by
    cases run.registrar.inHand <;> simp
  rw [pending, List.length_append]
  have hwaiting := h.waiting_le
  omega

/-- **A license holds back every key that is not pending yet.** From the moment when a state with a
license has been handled, and until a recovered one without a license is, the ledger is asked to
commit, in order, some of the keys that were pending then: at most seventeen, all of them planned
before that.  Nothing is said about which of them, since the worker goes at its own pace and may be
interrupted at any point. -/
theorem only_pending_keys_pass (verifier : Verifier) (ledger : Ledger) (before after : List Step)
    (t : Transition) (hlicense : t.current.license ≠ none)
    (hafter : ∀ step ∈ after, ¬ step.MayQueue) :
    let installed := (Run.start verifier ledger).steps (before ++ [.handle t])
    installed.Conserves (installed.steps after) ∧
      installed.registrar.pending.length ≤ RegistrationQueue.capacity + 1 ∧
      ∀ key ∈ installed.registrar.pending, Planned verifier before key := by
  intro installed
  have hbefore : Invariant verifier before ((Run.start verifier ledger).steps before) :=
    (Invariant.start verifier ledger).steps
  have hinstalled : installed = ((Run.start verifier ledger).steps before).step (.handle t) := by
    simp only [installed, Run.steps, List.foldl_append, List.foldl_cons, List.foldl_nil]
  have hquiet : ¬ (Step.handle t).MayQueue := fun h => hlicense h.2
  have hpending : installed.registrar.pending =
      ((Run.start verifier ledger).steps before).registrar.pending := by
    rw [hinstalled]
    simp only [Run.step, pending, Coordinator.handle_queue_of_not_mayQueue hquiet]
  refine ⟨conserves_steps after hafter, ?_, ?_⟩
  · rw [hpending]
    exact hbefore.pending_le
  · rw [hpending]
    exact hbefore.planned

/-- The ledger is asked for the next key in two steps, once. -/
theorem steps_receive_commit {key : LicenseKey} {keys : List LicenseKey} {now : Int64}
    (hhand : run.registrar.inHand = none)
    (hwaiting : run.registrar.coordinator.queue.waiting = key :: keys)
    (haccepts : run.registrar.coordinator.verifier.accepts key now = true)
    (outage : Option String) :
    (run.steps [.receive, .commit now outage]).ledger =
      (Ledger.put { run.ledger with outage } key).2 := by
  have hpasses : run.registrar.receive.passes now = [key] := by
    simp [receive, hhand, hwaiting, passes, haccepts]
  simp only [Run.steps, List.foldl_cons, List.foldl_nil, Run.step, commit_eq, hpasses]

/-- What is queued after two steps of the cluster state can be committed after them.  The worker
looks at the key and at the time, and at nothing that has happened to the cluster since. -/
theorem requests_of_waiting (verifier : Verifier) (ledger : Ledger) {t t' : Transition}
    {key : LicenseKey} {now : Int64} (outage : Option String)
    (hwaiting : (((Coordinator.fresh verifier).handle t).2.handle t').2.queue.waiting = [key])
    (haccepts : verifier.accepts key now = true) :
    (((Run.start verifier ledger).steps [.handle t, .handle t']).steps
      [.receive, .commit now outage]).ledger.requests = ledger.requests ++ [⟨key, outage⟩] := by
  rw [@steps_receive_commit _ key [] now rfl hwaiting ?_ outage]
  · rfl
  · simp only [Run.steps, List.foldl_cons, List.foldl_nil, Run.step, Coordinator.handle_verifier]
    exact haccepts

/-! ### A key that is pending when a license comes in -/

open Verifier (shipped crateKey)

def led (license : Option LicenseKey) : Snapshot := ⟨"crate", true, true, license⟩

def otherKey : LicenseKey := .selfIssued .shipped (LicenseRecord.selfGenerated "test").stored

theorem plan_led : (Coordinator.fresh shipped).plan ⟨led none, led none⟩ =
    .ok (.bootstrap crateKey (.selfGenerated "crate")) :=
  Coordinator.plan_eq_bootstrap_iff.mpr ⟨rfl, rfl, rfl, rfl, rfl, Verifier.createKey_crate⟩

theorem accepts_crateKey : shipped.accepts crateKey 0 = true :=
  Verifier.accepts_selfIssued Verifier.fits_stored_crate Verifier.parse_stored_crate (by decide)

/-- The key that was queued before the other license came in is the only one that can be passed on
after it. -/
theorem only_pending_keys_pass_crateKey :
    let installed := (Run.start shipped .empty).steps
      ([.handle ⟨led none, led none⟩] ++ [.handle ⟨led none, led (some otherKey)⟩])
    installed.Conserves (installed.steps [.receive, .commit 0 none]) ∧
      installed.registrar.pending.length ≤ RegistrationQueue.capacity + 1 ∧
      ∀ key ∈ installed.registrar.pending,
        Planned shipped [.handle ⟨led none, led none⟩] key := by
  refine only_pending_keys_pass shipped .empty [.handle ⟨led none, led none⟩]
    [.receive, .commit 0 none] ⟨led none, led (some otherKey)⟩ (by simp [led]) ?_
  intro step hstep
  rcases List.mem_cons.mp hstep with rfl | hlast
  · exact id
  · rw [List.mem_singleton.mp hlast]
    exact id

/-- The first license of a cluster is planned, another one comes in, and the worker still has the
first committed. -/
theorem crateKey_passes_late :
    (led (some otherKey)).isRecovered = true ∧ (led (some otherKey)).license = some otherKey ∧
      Planned shipped [.handle ⟨led none, led none⟩] crateKey ∧
      let ledger := (((Run.start shipped .empty).steps [.handle ⟨led none, led none⟩,
        .handle ⟨led none, led (some otherKey)⟩]).steps [.receive, .commit 0 none]).ledger
      ledger.asked = [crateKey] ∧ ledger.committed = [crateKey] := by
  have hplanned : Planned shipped [.handle ⟨led none, led none⟩] crateKey :=
    ⟨_, _, List.mem_singleton_self _, rfl, rfl, rfl, plan_led⟩
  have hquiet : ¬ (Step.handle ⟨led none, led (some otherKey)⟩).MayQueue := by
    simp [Step.MayQueue, led]
  have hwaiting : (((Coordinator.fresh shipped).handle ⟨led none, led none⟩).2.handle
      ⟨led none, led (some otherKey)⟩).2.queue.waiting = [crateKey] := by
    rw [Coordinator.handle_queue_of_not_mayQueue hquiet, Coordinator.handle, plan_led]
    rfl
  have hrequests := requests_of_waiting shipped .empty none hwaiting accepts_crateKey
  refine ⟨rfl, rfl, hplanned, ?_, ?_⟩
  · rw [Ledger.asked, hrequests]
    rfl
  · rw [Ledger.committed, hrequests]
    rfl

end Registrar.Run

end ClusterLicense
