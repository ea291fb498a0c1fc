/-
  ClusterLicense/Proofs/Cluster/Accounting.lean
  =============================================
  **The registration queue keeps what it accepts.**

  Handling a step of the cluster state puts the bootstrap key that it plans behind
  the keys that wait, or leaves the queue alone (`Run.handle_cases`).  Such a key is
  valid at every instant (`Verifier.accepts_bootstrapKey`), so the worker asks the
  ledger for whatever it has taken out, once, and does not look at what became of it
  (`Run.Accounts.requests_step`).  At any time the keys that the ledger was asked for, the
  one in hand and those that wait are therefore the accepted keys in their order
  (`Run.Accounts`).

  A worker ends when its queue is closed and nothing is left of what was accepted.
  It stays ended, and it gets there in as many rounds as there are keys
  (`Run.hasEnded_of_rounds`).
-/
import ClusterLicense.Proofs.Cluster.Bootstrapping
import ClusterLicense.Proofs.Cluster.Registering

namespace ClusterLicense

/-! ### Bootstrap keys -/

/-- The key that a step asks a node with the verifier to register. -/
def Verifier.bootstrapKey? (verifier : Verifier) (t : Transition) : Option LicenseKey :=
  match (Coordinator.fresh verifier).plan t with
  | .ok (.bootstrap key _) => some key
  | _ => none

namespace Verifier

variable {verifier : Verifier} {t : Transition} {key : LicenseKey}

theorem bootstrapKey?_eq_some_iff :
    verifier.bootstrapKey? t = some key ↔
      ∃ record, (Coordinator.fresh verifier).plan t = .ok (.bootstrap key record) := by
  unfold bootstrapKey?
  cases (Coordinator.fresh verifier).plan t with
  | error cause => simp
  | ok action => cases action <;> simp

theorem isFresh_of_bootstrapKey (h : verifier.bootstrapKey? t = some key) : t.IsFresh := by
  obtain ⟨record, hplan⟩ := bootstrapKey?_eq_some_iff.mp h
  obtain ⟨hrecovered, hbefore, hlicense, hleader, -⟩ := Coordinator.plan_eq_bootstrap_iff.mp hplan
  exact ⟨hrecovered, hleader, hbefore, hlicense⟩

/-- A bootstrap key is valid at every instant, since its record never expires and nobody has to sign
it.  So the worker never drops one for being invalid. -/
theorem accepts_bootstrapKey (h : verifier.bootstrapKey? t = some key) (now : Int64) :
    verifier.accepts key now = true := by
  obtain ⟨record, hplan⟩ := bootstrapKey?_eq_some_iff.mp h
  obtain ⟨-, -, -, -, rfl, hcreate⟩ := Coordinator.plan_eq_bootstrap_iff.mp hplan
  obtain ⟨-, hfits, rfl⟩ := createKey_eq_ok_iff.mp hcreate
  exact accepts_ofCluster hfits now

end Verifier

/-- Handling offers the bootstrap key of the step to the queue, if there is one, and otherwise
leaves the queue alone.  What the coordinator has cached plays no part. -/
theorem Coordinator.handle_queue (c : Coordinator) (t : Transition) :
    (c.handle t).2.queue = match c.verifier.bootstrapKey? t with
      | some key => c.queue.offer key
      | none => c.queue := by
  unfold handle Verifier.bootstrapKey?
  rw [plan_congr]
  cases (fresh c.verifier).plan t with
  | error cause => rfl
  | ok action => cases action <;> rfl

theorem RegistrationQueue.offer_of_room {queue : RegistrationQueue} {key : LicenseKey}
    (hopen : queue.isOpen = true) (hworker : queue.hasWorker = true)
    (hroom : queue.waiting.length < capacity) :
    queue.offer key = { queue with waiting := queue.waiting ++ [key] } :=
  if_pos ⟨hopen, hworker, hroom⟩

theorem RegistrationQueue.offer_of_refused {queue : RegistrationQueue} {key : LicenseKey}
    (h : queue.isOpen = false ∨ capacity ≤ queue.waiting.length) : queue.offer key = queue := by
  refine if_neg ?_
  rintro ⟨hopen, -, hroom⟩
  rcases h with hclosed | hfull
  · rw [hclosed] at hopen
    cases hopen
  · omega

namespace Registrar.Run

variable {run : Run}

/-! ### What a step puts into the queue -/

def queue (run : Run) : RegistrationQueue := run.registrar.coordinator.queue

def accepts (run : Run) (step : Step) : List LicenseKey :=
  (run.step step).queue.waiting.drop run.queue.waiting.length

/-- The keys that steps put into the queue, the oldest first.  This is read off the queue itself,
before and after each step. -/
def accepted (run : Run) : List Step → List LicenseKey
  | [] => []
  | step :: steps => run.accepts step ++ (run.step step).accepted steps

/-- What a step asks the ledger to commit: the key in hand, with the outage of the write. -/
def requests (run : Run) : Step → List WriteRequest
  | .commit _ outage => run.registrar.inHand.toList.map (⟨·, outage⟩)
  | _ => []

/-- Handling either puts the planned bootstrap key behind the others or changes no queue.  The
second case tells the three reasons for it; the queue being full and the queue being closed are two
of them. -/
theorem handle_cases (hworker : run.queue.hasWorker = true) (t : Transition) :
    (∃ key, run.registrar.coordinator.verifier.bootstrapKey? t = some key ∧
        run.queue.isOpen = true ∧ run.queue.waiting.length < RegistrationQueue.capacity ∧
        (run.step (.handle t)).queue =
          { run.queue with waiting := run.queue.waiting ++ [key] }) ∨
      ((run.registrar.coordinator.verifier.bootstrapKey? t = none ∨ run.queue.isOpen = false ∨
          RegistrationQueue.capacity ≤ run.queue.waiting.length) ∧
        (run.step (.handle t)).queue = run.queue) := by
  have hqueue : (run.step (.handle t)).queue =
      match run.registrar.coordinator.verifier.bootstrapKey? t with
        | some key => run.queue.offer key
        | none => run.queue := run.registrar.coordinator.handle_queue t
  rw [hqueue]
  cases hkey : run.registrar.coordinator.verifier.bootstrapKey? t with
  | none => exact .inr ⟨.inl rfl, rfl⟩
  | some key =>
    by_cases hrefused : run.queue.isOpen = false ∨
        RegistrationQueue.capacity ≤ run.queue.waiting.length
    · exact .inr ⟨.inr hrefused, RegistrationQueue.offer_of_refused hrefused⟩
    · rw [not_or, Bool.not_eq_false, Nat.not_le] at hrefused
      obtain ⟨hopen, hroom⟩ := hrefused
      exact .inl ⟨key, rfl, hopen, hroom, RegistrationQueue.offer_of_room hopen hworker hroom⟩

theorem accepts_of_queue_eq {step : Step} (h : (run.step step).queue = run.queue) :
    run.accepts step = [] := by
  rw [accepts, h, List.drop_length]

theorem accepts_of_appended {step : Step} {key : LicenseKey}
    (h : (run.step step).queue = { run.queue with waiting := run.queue.waiting ++ [key] }) :
    run.accepts step = [key] := by
  rw [accepts, h]
  exact List.drop_left

theorem accepts_receive (run : Run) : run.accepts .receive = [] := by
  obtain ⟨waiting, hle, hreceived⟩ := run.registrar.receive_keeps
  refine List.drop_eq_nil_of_le ?_
  simpa only [queue, Run.step, hreceived] using hle

theorem queue_commit (run : Run) (now : Int64) (outage : Option String) :
    (run.step (.commit now outage)).queue = run.queue := by
  simp only [queue, Run.step, commit_eq]

theorem accepts_commit (run : Run) (now : Int64) (outage : Option String) :
    run.accepts (.commit now outage) = [] :=
  accepts_of_queue_eq (queue_commit run now outage)

theorem accepts_close (run : Run) (source : Source Unit) : run.accepts (.close source) = [] :=
  List.drop_length

/-! ### What becomes of it -/

/-- What holds of a new coordinator and its worker after any steps, in which the queue has accepted
the given keys.  Beside the account itself this has what is needed to keep it: the worker is there,
and the queue is open as long as no step has closed it. -/
structure Accounts (verifier : Verifier) (ledger : Ledger) (past : List Step)
    (accepted : List LicenseKey) (run : Run) : Prop extends Invariant verifier past run where
  attended : run.queue.hasWorker = true
  isOpen_iff : run.queue.isOpen = true ↔ ∀ source, Step.close source ∉ past
  accepted_eq : ledger.asked ++ accepted = run.ledger.asked ++ run.registrar.pending

variable {verifier : Verifier} {ledger : Ledger} {past : List Step} {accepted : List LicenseKey}

theorem Planned.accepts {key : LicenseKey} (h : Planned verifier past key) (now : Int64) :
    verifier.accepts key now = true := by
  obtain ⟨t, record, -, -, -, -, hplan⟩ := h
  exact Verifier.accepts_bootstrapKey (Verifier.bootstrapKey?_eq_some_iff.mpr ⟨record, hplan⟩) now

/-- The key in hand is passed on, since every key that was queued is valid.  So a commit asks the
ledger for it, and the check before the write never gets in the way. -/
theorem Invariant.passes_eq (h : Invariant verifier past run) (now : Int64) :
    run.registrar.passes now = run.registrar.inHand.toList := by
  refine List.filter_eq_self.mpr ?_
  intro key hkey
  rw [h.verifier_eq]
  exact (h.planned key (List.mem_append_left _ hkey)).accepts now

theorem Accounts.start (verifier : Verifier) (ledger : Ledger) :
    Accounts verifier ledger [] [] (Run.start verifier ledger) where
  toInvariant := .start verifier ledger
  attended := rfl
  isOpen_iff := iff_of_true rfl fun _ => List.not_mem_nil
  accepted_eq := rfl

theorem Accounts.isOpen_iff_append (h : Accounts verifier ledger past accepted run) (step : Step)
    (hstep : ∀ source, step ≠ .close source) :
    run.queue.isOpen = true ↔ ∀ source, Step.close source ∉ past ++ [step] := by
  rw [h.isOpen_iff]
  refine forall_congr' fun source => ?_
  rw [List.mem_append, List.mem_singleton, not_or, and_iff_left (hstep source).symm]

/-- The coordinator's step.  It appends to what was accepted exactly what it appends to what is
pending, so both sides of the account grow alike. -/
theorem Accounts.handle (h : Accounts verifier ledger past accepted run) (t : Transition) :
    Accounts verifier ledger (past ++ [.handle t]) (accepted ++ run.accepts (.handle t))
      (run.step (.handle t)) := by
  have hopen := h.isOpen_iff_append (.handle t) fun source => Step.noConfusion
  have hpending : (run.step (.handle t)).registrar.pending =
      run.registrar.inHand.toList ++ (run.step (.handle t)).queue.waiting := rfl
  rcases handle_cases h.attended t with ⟨key, -, -, -, hqueue⟩ | ⟨-, hqueue⟩
  · refine ⟨h.toInvariant.step _, ?_, ?_, ?_⟩
    · rw [hqueue]
      exact h.attended
    · rw [hqueue]
      exact hopen
    · rw [accepts_of_appended hqueue, hpending, hqueue, ← List.append_assoc, h.accepted_eq]
      simp only [Run.step, pending, queue, List.append_assoc]
  · refine ⟨h.toInvariant.step _, ?_, ?_, ?_⟩
    · rw [hqueue]
      exact h.attended
    · rw [hqueue]
      exact hopen
    · rw [accepts_of_queue_eq hqueue, hpending, hqueue, List.append_nil, h.accepted_eq]
      rfl

theorem Accounts.receive (h : Accounts verifier ledger past accepted run) :
    Accounts verifier ledger (past ++ [.receive]) (accepted ++ run.accepts .receive)
      (run.step .receive) := by
  have hopen := h.isOpen_iff_append .receive fun source => Step.noConfusion
  have hkept : (run.step .receive).queue.hasWorker = run.queue.hasWorker ∧
      (run.step .receive).queue.isOpen = run.queue.isOpen := by
    obtain ⟨waiting, -, hreceived⟩ := run.registrar.receive_keeps
    simp only [queue, Run.step, hreceived, and_self]
  refine ⟨h.toInvariant.step _, ?_, ?_, ?_⟩
  · rw [hkept.1]
    exact h.attended
  · rw [hkept.2]
    exact hopen
  · rw [accepts_receive, List.append_nil, h.accepted_eq]
    exact congrArg (run.ledger.asked ++ ·) (pending_receive run.registrar).symm

/-- The worker's step that counts.  The key in hand leaves what is pending and comes in at the end
of what the ledger was asked, which is where it stood among the accepted keys. -/
theorem Accounts.commit (h : Accounts verifier ledger past accepted run) (now : Int64)
    (outage : Option String) :
    Accounts verifier ledger (past ++ [.commit now outage])
      (accepted ++ run.accepts (.commit now outage)) (run.step (.commit now outage)) := by
  have hopen := h.isOpen_iff_append (.commit now outage) fun source => Step.noConfusion
  have hqueue := queue_commit run now outage
  refine ⟨h.toInvariant.step _, ?_, ?_, ?_⟩
  · rw [hqueue]
    exact h.attended
  · rw [hqueue]
    exact hopen
  · -- The key in hand moves over to those that the ledger was asked for.
    rw [accepts_commit, List.append_nil, h.accepted_eq, asked_commit, h.toInvariant.passes_eq,
      List.append_assoc]
    simp only [Run.step, commit_eq, pending, Option.toList_none, List.nil_append]

theorem Accounts.close (h : Accounts verifier ledger past accepted run) (source : Source Unit) :
    Accounts verifier ledger (past ++ [.close source]) (accepted ++ run.accepts (.close source))
      (run.step (.close source)) := by
  refine ⟨h.toInvariant.step _, h.attended, ?_, ?_⟩
  · refine iff_of_false Bool.false_ne_true fun hnever => ?_
    exact hnever source (List.mem_append_right past (List.mem_singleton_self _))
  · rw [accepts_close, List.append_nil, h.accepted_eq]
    rfl

theorem Accounts.step (h : Accounts verifier ledger past accepted run) (step : Step) :
    Accounts verifier ledger (past ++ [step]) (accepted ++ run.accepts step) (run.step step) := by
  cases step with
  | handle t => exact h.handle t
  | receive => exact h.receive
  | commit now outage => exact h.commit now outage
  | close source => exact h.close source

/-- The account holds throughout a run.  Every step keeps it, and accepts what it accepts; the
induction is on the steps that are still to come, with the past and the accepted keys growing. -/
theorem Accounts.steps {more : List Step} (h : Accounts verifier ledger past accepted run) :
    Accounts verifier ledger (past ++ more) (accepted ++ run.accepted more) (run.steps more) := by
  induction more generalizing past accepted run with
  | nil =>
    rw [List.append_nil, Run.accepted, List.append_nil]
    exact h
  | cons step more ih =>
    rw [List.append_cons past step more, Run.accepted, ← List.append_assoc]
    exact ih (h.step step)

/-- The ledger is asked for the key in hand when that is committed, valid as it is, and for nothing
at any other step. -/
theorem Accounts.requests_step (h : Accounts verifier ledger past accepted run) (step : Step) :
    (run.step step).ledger.requests = run.ledger.requests ++ run.requests step := by
  cases step with
  | handle t => exact (List.append_nil _).symm
  | receive => exact (List.append_nil _).symm
  | commit now outage => rw [requests_commit, h.toInvariant.passes_eq, requests]
  | close source => exact (List.append_nil _).symm

/-! ### The end of the worker -/

/-- A worker has ended exactly if nothing is pending and nothing can come any more: it waits for a
key in a queue that is empty and closed. -/
theorem hasEnded_iff {registrar : Registrar} :
    registrar.hasEnded = true ↔
      registrar.pending = [] ∧ registrar.coordinator.queue.isOpen = false := by
  obtain ⟨coordinator, inHand⟩ := registrar
  cases inHand <;> simp [hasEnded, pending]

/-- A worker that has ended asks the ledger for nothing any more.  Whatever the coordinator still
handles, its queue takes no key. -/
theorem step_of_hasEnded (h : run.registrar.hasEnded = true) (step : Step) :
    (run.step step).registrar.hasEnded = true ∧
      (run.step step).ledger.requests = run.ledger.requests := by
  obtain ⟨hpending, hclosed⟩ := hasEnded_iff.mp h
  obtain ⟨hhand, hwaiting⟩ := List.append_eq_nil_iff.mp hpending
  rw [Option.toList_eq_nil_iff] at hhand
  cases step with
  | handle t =>
    have hqueue : (run.registrar.coordinator.handle t).2.queue =
        run.registrar.coordinator.queue := by
      rw [Coordinator.handle_queue]
      split
      · exact RegistrationQueue.offer_of_refused (.inl hclosed)
      · rfl
    refine ⟨hasEnded_iff.mpr ?_, rfl⟩
    simp only [Run.step, pending, hqueue]
    exact ⟨hpending, hclosed⟩
  | receive =>
    have hsame : run.registrar.receive = run.registrar := by
      simp only [receive, hhand, hwaiting]
    refine ⟨?_, rfl⟩
    simp only [Run.step, hsame]
    exact h
  | commit now outage =>
    have hpasses : run.registrar.passes now = [] := by
      rw [passes, hhand]
      rfl
    rw [requests_commit, hpasses, List.map_nil, List.append_nil]
    simp only [Run.step, commit_eq, and_true]
    exact hasEnded_iff.mpr ⟨hwaiting, hclosed⟩
  | close source => exact ⟨hasEnded_iff.mpr ⟨hpending, rfl⟩, rfl⟩

theorem steps_of_hasEnded (h : run.registrar.hasEnded = true) (more : List Step) :
    (run.steps more).registrar.hasEnded = true ∧
      (run.steps more).ledger.requests = run.ledger.requests := by
  induction more generalizing run with
  | nil => exact ⟨h, rfl⟩
  | cons step more ih =>
    obtain ⟨hended, hrequests⟩ := step_of_hasEnded h step
    obtain ⟨hlater, hsame⟩ := ih hended
    exact ⟨hlater, hsame.trans hrequests⟩

theorem pending_round (run : Run) (now : Int64) (outage : Option String) :
    ((run.step .receive).step (.commit now outage)).registrar.pending =
      run.registrar.pending.tail := by
  obtain ⟨⟨coordinator, inHand⟩, ledger⟩ := run
  obtain ⟨verifier, cached, ⟨waiting, isOpen, hasWorker⟩, subscription⟩ := coordinator
  simp only [Run.step, commit_eq]
  cases inHand with
  | some key => rfl
  | none =>
    cases waiting with
    | nil => rfl
    | cons key keys => rfl

/-- A closed worker ends in as many rounds as keys are pending, whatever becomes of the writes.
Each round, which takes a key and tries to commit it, makes what is pending shorter by one. -/
theorem hasEnded_of_rounds (hclosed : run.queue.isOpen = false)
    (rounds : List (Int64 × Option String))
    (hmany : run.registrar.pending.length ≤ rounds.length) :
    (run.steps (rounds.flatMap fun round => [.receive, .commit round.1 round.2])).registrar.hasEnded =
      true := by
  induction rounds generalizing run with
  | nil => exact hasEnded_iff.mpr ⟨List.eq_nil_of_length_eq_zero (Nat.le_zero.mp hmany), hclosed⟩
  | cons round rounds ih =>
    obtain ⟨now, outage⟩ := round
    have hstill : ((run.step .receive).step (.commit now outage)).queue.isOpen = false := by
      have hreceived : (run.step .receive).queue.isOpen = run.queue.isOpen := by
        obtain ⟨waiting, -, hreceived⟩ := run.registrar.receive_keeps
        simp only [queue, Run.step, hreceived]
      rw [queue_commit, hreceived, hclosed]
    refine ih hstill ?_
    rw [pending_round, List.length_tail]
    rw [List.length_cons] at hmany
    omega

/-! ### All accepted keys -/

/-- A planned key is queued, or there is one of two reasons why it is not: sixteen keys wait
already, or there was a close. -/
theorem Accounts.accepts_of_bootstrap (h : Accounts verifier ledger past accepted run)
    {t : Transition} {key : LicenseKey} {record : LicenseRecord}
    (hplan : run.registrar.coordinator.plan t = .ok (.bootstrap key record)) :
    run.accepts (.handle t) = [key] ∨
      (run.queue.waiting.length = RegistrationQueue.capacity ∨
        ∃ source, Step.close source ∈ past) ∧ run.accepts (.handle t) = [] := by
  have hkey : run.registrar.coordinator.verifier.bootstrapKey? t = some key :=
    Verifier.bootstrapKey?_eq_some_iff.mpr ⟨record, by rwa [← Coordinator.plan_congr]⟩
  rcases handle_cases h.attended t with ⟨other, hother, -, -, hqueue⟩ | ⟨hrefused, hqueue⟩
  · rw [hkey] at hother
    cases hother
    exact .inl (accepts_of_appended hqueue)
  · refine .inr ⟨?_, accepts_of_queue_eq hqueue⟩
    rcases hrefused with hnone | hclosed | hfull
    · rw [hkey] at hnone
      cases hnone
    · refine .inr ?_
      by_contra hnever
      rw [not_exists] at hnever
      rw [h.isOpen_iff.mpr hnever] at hclosed
      cases hclosed
    · exact .inl (Nat.le_antisymm h.waiting_le hfull)

theorem Accounts.accepts_only_bootstrap (h : Accounts verifier ledger past accepted run)
    {step : Step} (hsome : run.accepts step ≠ []) :
    ∃ t key record, step = .handle t ∧ t.IsFresh ∧ run.accepts step = [key] ∧
      run.registrar.coordinator.plan t = .ok (.bootstrap key record) := by
  cases step with
  | handle t =>
    rcases handle_cases h.attended t with ⟨key, hkey, -, -, hqueue⟩ | ⟨-, hqueue⟩
    · obtain ⟨record, hplan⟩ := Verifier.bootstrapKey?_eq_some_iff.mp hkey
      rw [← Coordinator.plan_congr] at hplan
      exact ⟨t, key, record, rfl, Verifier.isFresh_of_bootstrapKey hkey,
        accepts_of_appended hqueue, hplan⟩
    · exact absurd (accepts_of_queue_eq hqueue) hsome
  | receive => exact absurd (accepts_receive run) hsome
  | commit now outage => exact absurd (accepts_commit run now outage) hsome
  | close source => exact absurd (accepts_close run source) hsome

/-- At its end the worker has asked for everything that was accepted.  The converse needs the close:
a worker that has caught up with an open queue has not ended. -/
theorem Accounts.hasEnded_iff_asked (h : Accounts verifier ledger past accepted run) :
    run.registrar.hasEnded = true ↔
      (∃ source, Step.close source ∈ past) ∧ run.ledger.asked = ledger.asked ++ accepted := by
  have hpending : run.registrar.pending = [] ↔ run.ledger.asked = ledger.asked ++ accepted := by
    rw [h.accepted_eq, List.self_eq_append_right]
  have hclosed : run.registrar.coordinator.queue.isOpen = false ↔
      ∃ source, Step.close source ∈ past := by
    rw [← Bool.not_eq_true, ← not_forall_not]
    exact not_congr h.isOpen_iff
  rw [hasEnded_iff, hpending, hclosed, and_comm]

/-- **Nothing that the queue has accepted is lost, doubled or put out of order.**  At any time the
keys that the ledger has been asked to commit, whatever became of the writes, then the key in the
worker's hand and then those that wait are exactly the accepted keys, behind what the ledger had
been asked for before.  It is asked by commits alone: for the key in hand, once, and what it
remembers of the write is the outage of that moment.  Only bootstrap keys are accepted, and such a
key is refused only while the queue is full or after a close.  The worker has ended exactly if
there was a close and the ledger has been asked for every accepted key. -/
theorem accepted_keys_pass_in_order (verifier : Verifier) (ledger : Ledger) (steps : List Step) :
    let start := Run.start verifier ledger
    let run := start.steps steps
    let closed := ∃ source, Step.close source ∈ steps
    run.queue.waiting.length ≤ RegistrationQueue.capacity ∧
      run.ledger.asked ++ run.registrar.inHand.toList ++ run.queue.waiting =
        ledger.asked ++ start.accepted steps ∧
      (∀ key, run.ledger.asked.count key ≤
        ledger.asked.count key + (start.accepted steps).count key) ∧
      (∀ step, (run.step step).ledger.requests = run.ledger.requests ++ run.requests step) ∧
      (∀ step, run.accepts step ≠ [] → ∃ t key record, step = .handle t ∧
        run.accepts step = [key] ∧
        run.registrar.coordinator.plan t = .ok (.bootstrap key record)) ∧
      (∀ t key record, run.registrar.coordinator.plan t = .ok (.bootstrap key record) →
        run.accepts (.handle t) = [key] ∨
          (run.queue.waiting.length = RegistrationQueue.capacity ∨ closed) ∧
            run.accepts (.handle t) = []) ∧
      (∀ t : Transition, t.current.isRecovered = false ∨ t.current.isLeader = false ∨
        t.previous.license ≠ none ∨ t.current.license ≠ none → run.accepts (.handle t) = []) ∧
      (run.registrar.hasEnded = true ↔
        closed ∧ run.ledger.asked = ledger.asked ++ start.accepted steps) ∧
      (run.registrar.hasEnded = true → ∀ more, (run.steps more).registrar.hasEnded = true ∧
        (run.steps more).ledger.requests = run.ledger.requests) := by
  intro start run closed
  have haccounts : Accounts verifier ledger steps (start.accepted steps) run :=
    (Accounts.start verifier ledger).steps
  have haccepted : run.ledger.asked ++ run.registrar.inHand.toList ++ run.queue.waiting =
      ledger.asked ++ start.accepted steps := by
    rw [haccounts.accepted_eq, List.append_assoc]
    rfl
  refine ⟨haccounts.waiting_le, haccepted, ?_, haccounts.requests_step, ?_, ?_, ?_,
    haccounts.hasEnded_iff_asked, steps_of_hasEnded⟩
  · intro key
    rw [← List.count_append, ← haccepted, List.append_assoc, List.count_append]
    exact Nat.le_add_right _ _
  · intro step hsome
    obtain ⟨t, key, record, hstep, -, hkey, hplan⟩ := haccounts.accepts_only_bootstrap hsome
    exact ⟨t, key, record, hstep, hkey, hplan⟩
  · intro t key record hplan
    exact haccounts.accepts_of_bootstrap hplan
  · intro t hquiet
    by_contra hsome
    obtain ⟨other, -, -, heq, hfresh, -⟩ := haccounts.accepts_only_bootstrap hsome
    cases heq
    rcases hquiet with hrecovered | hleader | hbefore | hlicense
    · exact absurd hfresh.recovered (by simp [hrecovered])
    · exact absurd hfresh.leads (by simp [hleader])
    · exact hbefore hfresh.unlicensed_before
    · exact hlicense hfresh.unlicensed

open Verifier (shipped crateKey)

/-- A key whose write fails is not asked for again, and nothing waits for it.  The queue is closed
after the write, and with that the worker has ended. -/
theorem accepted_keys_pass_in_order_crateKey :
    let steps := [.handle ⟨led none, led none⟩, .receive, .commit 0 (some "no quorum"),
      .close (Source.start (led none))]
    (Run.start shipped .empty).accepted steps = [crateKey] ∧
      ((Run.start shipped .empty).steps steps).ledger.requests =
        [⟨crateKey, some "no quorum"⟩] ∧
      ((Run.start shipped .empty).steps steps).registrar.hasEnded = true := by
  intro steps
  have hqueued : ((Run.start shipped .empty).step (.handle ⟨led none, led none⟩)).queue =
      { RegistrationQueue.empty with waiting := [] ++ [crateKey] } := by
    change ((Coordinator.fresh shipped).handle ⟨led none, led none⟩).2.queue = _
    rw [Coordinator.handle, plan_led]
    rfl
  have haccepted : (Run.start shipped .empty).accepted steps = [crateKey] := by
    simp only [steps, Run.accepted, accepts_of_appended hqueued, accepts_receive, accepts_commit,
      accepts_close, List.append_nil]
  have hclose (run : Run) : (run.steps [.receive, .commit 0 (some "no quorum"),
      .close (Source.start (led none))]).ledger =
        (run.steps [.receive, .commit 0 (some "no quorum")]).ledger := rfl
  have hledger : ((Run.start shipped .empty).steps steps).ledger =
      (Ledger.put { Ledger.empty with outage := some "no quorum" } crateKey).2 := by
    rw [steps_cons, hclose]
    refine steps_receive_commit rfl (congrArg RegistrationQueue.waiting hqueued) ?_ _
    simp only [Run.step, Coordinator.handle_verifier]
    exact accepts_crateKey
  obtain ⟨-, -, -, -, -, -, -, hended, -⟩ := accepted_keys_pass_in_order shipped .empty steps
  have hclosed : Step.close (Source.start (led none)) ∈ steps := by simp [steps]
  refine ⟨haccepted, by rw [hledger]; rfl, hended.mpr ⟨⟨_, hclosed⟩, ?_⟩⟩
  rw [hledger, haccepted]
  rfl

end Registrar.Run

end ClusterLicense
