/-
  ClusterLicense/Proofs/Cluster/Restarting.lean
  =============================================
  **A node that is closed and started again caches its first license and registers none.**

  Subscription, cache and queue end in different ways.  Starting makes a new
  subscription, and handling fills the cache again, but a queue that has been closed
  stays closed.  So a leader that is told of a fresh cluster always caches the record;
  it queues the key only if it has never been closed, and if there is room
  (`queues_bootstrap_until_closed`).

  What is needed of a run is in `Serves`.  Whoever else is subscribed to the source
  does not matter: a publish tells the node of the step once if it is subscribed and
  not at all if it is not (`Serves.coordinator?_publish`).
-/
import ClusterLicense.Proofs.Cluster.Accounting
import ClusterLicense.Proofs.Cluster.Moving

namespace ClusterLicense

/-! ### What handling leaves alone -/

theorem RegistrationQueue.offer_keeps (queue : RegistrationQueue) (key : LicenseKey) :
    ∃ waiting, queue.offer key = { queue with waiting } := by
  unfold offer
  split
  · exact ⟨_, rfl⟩
  · exact ⟨queue.waiting, rfl⟩

theorem Coordinator.handle_keeps (c : Coordinator) (t : Transition) :
    ∃ cached waiting, (c.handle t).2 = { c with cached, queue := { c.queue with waiting } } := by
  unfold handle
  cases c.plan t with
  | error cause => exact ⟨c.cached, c.queue.waiting, rfl⟩
  | ok action =>
    cases action with
    | none => exact ⟨c.cached, c.queue.waiting, rfl⟩
    | replace record => exact ⟨some record, c.queue.waiting, rfl⟩
    | bootstrap key record =>
      obtain ⟨waiting, hoffer⟩ := c.queue.offer_keeps key
      exact ⟨some record, waiting, by simp only [perform, hoffer]⟩

namespace Fleet

/-! ### Steps of one node -/

inductive Step where
  | start
  | close
  | publish (next : Snapshot)
  /-- The node's worker takes a key out of the queue. -/
  | receive
  /-- The node's worker registers the key that it has taken; the outage is that of the write. -/
  | commit (now : Int64) (outage : Option String)

def work (fleet : Fleet) (index : Nat) (act : Registrar → Ledger → Registrar × Ledger) : Fleet :=
  match fleet.nodes[index]? with
  | some node =>
    let (registrar, ledger) := act node.registrar fleet.ledger
    { fleet with
      nodes := fleet.nodes.set index { node with registrar := registrar }
      ledger := ledger }
  | none => fleet

def step (fleet : Fleet) (index source : Nat) : Step → Fleet
  | .start => fleet.start index source
  | .close => fleet.close index source
  | .publish next => (fleet.publish source next).2
  | .receive => fleet.work index fun registrar ledger => (registrar.receive, ledger)
  | .commit now outage =>
    fleet.work index fun registrar ledger => registrar.commit now { ledger with outage }

def steps (fleet : Fleet) (index source : Nat) (steps : List Step) : Fleet :=
  steps.foldl (·.step index source) fleet

/-- What holds of a node after steps on a source: it is subscribed there as it remembers, its worker
is there, and whether its queue is open depends on whether the past has a close. -/
structure Serves (fleet : Fleet) (index source : Nat) (verifier : Verifier) (past : List Step)
    (c : Coordinator) : Prop where
  known : fleet.coordinator? index = some c
  placed : fleet.Placed index (c.subscription.map fun id => (source, id))
  range : source < fleet.sources.length
  verifier_eq : c.verifier = verifier
  attended : c.queue.hasWorker = true
  isOpen_iff : c.queue.isOpen = true ↔ .close ∉ past

variable {fleet : Fleet} {index source : Nat} {verifier : Verifier} {past : List Step}
  {c : Coordinator}

/-! ### Telling one node among others -/

theorem coordinator?_setCoordinator_of_ne {other : Nat} {c' : Coordinator} (hne : other ≠ index) :
    (fleet.setCoordinator other c').coordinator? index = fleet.coordinator? index := by
  unfold coordinator? setCoordinator
  rw [wake_nodes]
  simp only [List.getElem?_modify_ne _ _ hne]

theorem tell_sources (source : Nat) (subscriber : Subscriber) (t : Transition) (fleet : Fleet) :
    (tell source subscriber t fleet).2.sources = fleet.sources := by
  cases subscriber with
  | observer label refusal => cases refusal <;> rfl
  | node other =>
    simp only [tell, handle]
    cases fleet.coordinator? other with
    | none => rfl
    | some c => exact setCoordinator_sources fleet other _

/-- Telling a subscriber of a step makes a node handle it if the subscriber is this node, and does
nothing to it otherwise. -/
theorem coordinator?_tell (source : Nat) (subscriber : Subscriber) (t : Transition)
    (fleet : Fleet) (index : Nat) :
    (tell source subscriber t fleet).2.coordinator? index =
      if subscriber.isNode index then (fleet.coordinator? index).map fun c => (c.handle t).2
      else fleet.coordinator? index := by
  cases subscriber with
  | observer label refusal => cases refusal <;> rfl
  | node other =>
    simp only [tell, handle]
    by_cases hother : other = index
    · subst hother
      rw [Subscriber.isNode_node, if_pos rfl]
      cases hc : fleet.coordinator? other with
      | none => exact hc
      | some c => exact coordinator?_setCoordinator hc
    · have hforeign : (Subscriber.node other).isNode index = false := beq_false_of_ne hother
      rw [hforeign, if_neg Bool.false_ne_true]
      cases fleet.coordinator? other with
      | none => rfl
      | some c => exact coordinator?_setCoordinator_of_ne hother

/-- Telling all subscriptions of a step, whatever they answer, makes a node handle it once for
each subscription of its own. -/
theorem deliver_tell (source : Nat) (t : Transition)
    (subscriptions : List (SubscriptionId × Subscriber)) (fleet : Fleet) (index : Nat) :
    (Source.deliver (tell source) t subscriptions fleet).2.sources = fleet.sources ∧
      (Source.deliver (tell source) t subscriptions fleet).2.coordinator? index =
        (fleet.coordinator? index).map fun c =>
          (subscriptions.filter (·.2.isNode index)).foldl (fun c _ => (c.handle t).2) c := by
  induction subscriptions generalizing fleet with
  | nil => exact ⟨rfl, Option.map_id'.symm⟩
  | cons subscription others ih =>
    obtain ⟨id, subscriber⟩ := subscription
    obtain ⟨hsources, hcoordinator⟩ := ih (tell source subscriber t fleet).2
    refine ⟨hsources.trans (tell_sources source subscriber t fleet), hcoordinator.trans ?_⟩
    rw [coordinator?_tell]
    cases hown : subscriber.isNode index with
    | true => simp only [if_true, Option.map_map, List.filter_cons, hown, List.foldl_cons]; rfl
    | false => simp only [List.filter_cons, hown, Bool.false_eq_true, if_false]

/-- A publish changes the current state of its source and no subscription on any source, whatever
the subscribers do. -/
theorem publish_sources {s : Source Subscriber} (hs : fleet.sources[source]? = some s)
    (next : Snapshot) :
    (fleet.publish source next).2.sources = fleet.sources.set source { s with current := next } := by
  simp only [publish, hs, Source.publish, Source.install]
  exact (deliver_tell source _ s.subscriptions _ 0).1

/-! ### One step -/

theorem none_or_home (source : Nat) (subscription : Option SubscriptionId) :
    (subscription.map fun id => (source, id)).map (·.1) = none ∨
      (subscription.map fun id => (source, id)).map (·.1) = some source := by
  cases subscription with
  | none => exact .inl rfl
  | some id => exact .inr rfl

theorem Serves.agrees {s : Source Subscriber} (h : fleet.Serves index source verifier past c)
    (hs : fleet.sources[source]? = some s) : s.Agrees index c := by
  refine h.placed.agrees (none_or_home source c.subscription) hs ?_
  cases c.subscription <;> rfl

/-- A publish on its source makes the node handle the step if it is subscribed.  Other subscribers
are told as well, and whatever they answer, the node's own turn comes. -/
theorem Serves.coordinator?_publish {s : Source Subscriber}
    (h : fleet.Serves index source verifier past c) (hs : fleet.sources[source]? = some s)
    (next : Snapshot) :
    (fleet.publish source next).2.coordinator? index =
      some (c.subscription.toList.foldl (fun c _ => (c.handle ⟨s.current, next⟩).2) c) := by
  have hown := (h.agrees hs).own_eq
  rw [Source.own] at hown
  simp only [Fleet.publish, hs, Source.publish, Source.install]
  have hinstalled : ({ fleet with
      sources := fleet.sources.set source { s with current := next } } : Fleet).coordinator? index =
        some c := h.known
  rw [(deliver_tell source _ s.subscriptions _ index).2, hown, hinstalled, Option.map_some,
    List.foldl_map]

/-- A step keeps what is needed if it changes one source, and there leaves the node subscribed as
it remembers. -/
theorem Serves.of_set {later : Fleet} {c' : Coordinator} {s' : Source Subscriber} {step : Step}
    (h : fleet.Serves index source verifier past c)
    (hknown : later.coordinator? index = some c')
    (hsources : later.sources = fleet.sources.set source s') (hagrees : s'.Agrees index c')
    (hverifier : c'.verifier = c.verifier) (hattended : c'.queue.hasWorker = c.queue.hasWorker)
    (hopen : c'.queue.isOpen = true ↔ c.queue.isOpen = true ∧ step ≠ .close) :
    later.Serves index source verifier (past ++ [step]) c' where
  known := hknown
  placed := h.placed.of_set (none_or_home source c.subscription) h.range hknown hsources hagrees
  range := by
    rw [hsources, List.length_set]
    exact h.range
  verifier_eq := hverifier.trans h.verifier_eq
  attended := hattended.trans h.attended
  isOpen_iff := by
    rw [hopen, h.isOpen_iff, List.mem_append, List.mem_singleton, not_or, ne_comm]

/-- A start keeps a node serving.  Its queue is not opened again, which is the point of what
follows. -/
theorem Serves.start {s : Source Subscriber} (h : fleet.Serves index source verifier past c)
    (hs : fleet.sources[source]? = some s) :
    (fleet.start index source).Serves index source verifier (past ++ [.start])
      (c.start (.node index) s).1 := by
  obtain ⟨hagrees, -, -⟩ := Coordinator.start_of_agrees (h.agrees hs)
  obtain ⟨hknown, hsources⟩ := start_eq h.known hs
  refine h.of_set hknown hsources hagrees rfl rfl ?_
  exact (and_iff_left Step.noConfusion).symm

theorem Serves.close {s : Source Subscriber} (h : fleet.Serves index source verifier past c)
    (hs : fleet.sources[source]? = some s) :
    (fleet.close index source).Serves index source verifier (past ++ [.close]) (c.close s).1 := by
  obtain ⟨hagrees, -, -⟩ := Coordinator.close_of_agrees (h.agrees hs)
  obtain ⟨hknown, hsources⟩ := close_eq h.known hs
  refine h.of_set hknown hsources hagrees rfl rfl ?_
  exact iff_of_false Bool.false_ne_true fun hopen => hopen.2 rfl

/-- What handling changes of a coordinator is its cache and what waits in its queue.  Whether the
queue is open, the subscription and the verifier stay as they are. -/
theorem foldl_handle_keeps (c : Coordinator) (t : Transition) (told : List SubscriptionId) :
    ∃ cached waiting, told.foldl (fun c _ => (c.handle t).2) c =
      { c with cached, queue := { c.queue with waiting } } := by
  induction told generalizing c with
  | nil => exact ⟨c.cached, c.queue.waiting, rfl⟩
  | cons id told ih =>
    obtain ⟨cached, waiting, hhandle⟩ := c.handle_keeps t
    obtain ⟨cached', waiting', hrest⟩ := ih (c.handle t).2
    refine ⟨cached', waiting', hrest.trans ?_⟩
    rw [hhandle]

theorem Serves.publish {s : Source Subscriber} (h : fleet.Serves index source verifier past c)
    (hs : fleet.sources[source]? = some s) (next : Snapshot) :
    ∃ c', (fleet.publish source next).2.Serves index source verifier (past ++ [.publish next])
      c' := by
  have hknown := h.coordinator?_publish hs next
  obtain ⟨cached, waiting, hkeeps⟩ :=
    foldl_handle_keeps c ⟨s.current, next⟩ c.subscription.toList
  rw [hkeeps] at hknown
  have hagrees := h.agrees hs
  have hlater : ({ s with current := next } : Source Subscriber).Agrees index
      { c with cached, queue := { c.queue with waiting } } :=
    ⟨⟨hagrees.numbered.ascending, hagrees.numbered.below⟩, hagrees.own_eq⟩
  refine ⟨_, h.of_set hknown (publish_sources hs next) hlater rfl rfl ?_⟩
  exact (and_iff_left Step.noConfusion).symm

/-- The worker takes keys out of the queue, and changes nothing else of its node. -/
theorem Serves.work {step : Step} {act : Registrar → Ledger → Registrar × Ledger}
    (h : fleet.Serves index source verifier past c) (hstep : step ≠ .close)
    (hact : ∀ registrar ledger, ∃ waiting, (act registrar ledger).1.coordinator =
      { registrar.coordinator with queue := { registrar.coordinator.queue with waiting } }) :
    ∃ c', (fleet.work index act).Serves index source verifier (past ++ [step]) c' := by
  obtain ⟨node, hnode, hcoordinator⟩ := Option.map_eq_some_iff.mp h.known
  obtain ⟨waiting, hkeeps⟩ := hact node.registrar fleet.ledger
  rw [hcoordinator] at hkeeps
  obtain ⟨hindex, -⟩ := List.getElem?_eq_some_iff.mp hnode
  have hknown : (fleet.work index act).coordinator? index =
      some (act node.registrar fleet.ledger).1.coordinator := by
    simp only [Fleet.work, hnode, coordinator?, List.getElem?_set_self hindex, Option.map_some]
  rw [hkeeps] at hknown
  have hrange : source < fleet.sources.length := h.range
  have hs := List.getElem?_eq_getElem hrange
  have hsources : (fleet.work index act).sources =
      fleet.sources.set source fleet.sources[source] := by
    simp only [Fleet.work, hnode, List.set_getElem_self]
  have hagrees := h.agrees hs
  have hlater : fleet.sources[source].Agrees index { c with queue := { c.queue with waiting } } :=
    ⟨hagrees.numbered, hagrees.own_eq⟩
  refine ⟨_, h.of_set hknown hsources hlater rfl rfl ?_⟩
  exact (and_iff_left hstep).symm

theorem Serves.step (h : fleet.Serves index source verifier past c) (step : Step) :
    ∃ c', (fleet.step index source step).Serves index source verifier (past ++ [step]) c' := by
  have hs := List.getElem?_eq_getElem h.range
  cases step with
  | start => exact ⟨_, h.start hs⟩
  | close => exact ⟨_, h.close hs⟩
  | publish next => exact h.publish hs next
  | receive =>
    simp only [Fleet.step]
    refine h.work ?_ ?_
    · exact Step.noConfusion
    · intro registrar ledger
      obtain ⟨waiting, -, hreceived⟩ := registrar.receive_keeps
      exact ⟨waiting, hreceived⟩
  | commit now outage =>
    simp only [Fleet.step]
    refine h.work ?_ ?_
    · exact Step.noConfusion
    · intro registrar ledger
      exact ⟨registrar.coordinator.queue.waiting, by rw [Registrar.commit_eq]⟩

/-- Whatever happens to a new node on one source, it is subscribed there as it remembers, or not at
all, and its queue is open exactly if it has never been closed. -/
theorem Serves.steps (h : fleet.Serves index source verifier past c) (more : List Step) :
    ∃ c', (fleet.steps index source more).Serves index source verifier (past ++ more) c' := by
  induction more generalizing fleet past c with
  | nil =>
    rw [List.append_nil]
    exact ⟨c, h⟩
  | cons step more ih =>
    obtain ⟨c', hstep⟩ := h.step step
    rw [List.append_cons past step more]
    exact ih hstep

theorem Serves.of_fresh (h : fleet.Placed index none)
    (hfresh : fleet.coordinator? index = some (.fresh verifier))
    (hrange : source < fleet.sources.length) :
    fleet.Serves index source verifier [] (.fresh verifier) :=
  ⟨hfresh, h, hrange, rfl, rfl, iff_of_true rfl List.not_mem_nil⟩

/-! ### A fresh cluster -/

/-- What becomes of a bootstrap key that the node is told to queue.  Its worker is there, so whether
the key is taken depends on a close in the past and on the room. -/
theorem Serves.publish_fresh {s : Source Subscriber} {next : Snapshot} {key : LicenseKey}
    (h : fleet.Serves index source verifier past c) (hs : fleet.sources[source]? = some s)
    (hsubscribed : c.subscription ≠ none) (ht : Transition.IsFresh ⟨s.current, next⟩)
    (hkey : verifier.createKey .selfGenerated LicenseKey.currentVersion
      (.selfGenerated next.clusterName) = .ok key) :
    (fleet.publish source next).2.coordinator? index =
      some { c with cached := some (.selfGenerated next.clusterName), queue := c.queue.offer key } := by
  obtain ⟨id, hid⟩ := Option.ne_none_iff_exists'.mp hsubscribed
  have hplan : c.plan ⟨s.current, next⟩ =
      .ok (.bootstrap key (.selfGenerated next.clusterName)) := by
    rw [← h.verifier_eq] at hkey
    exact Coordinator.plan_eq_bootstrap_iff.mpr
      ⟨ht.recovered, ht.unlicensed_before, ht.unlicensed, ht.leads, rfl, hkey⟩
  have hhandle : (c.handle ⟨s.current, next⟩).2 =
      { c with cached := some (.selfGenerated next.clusterName), queue := c.queue.offer key } := by
    rw [Coordinator.handle, hplan]
    rfl
  rw [h.coordinator?_publish hs next, ← hhandle, hid]
  rfl

/-- **A leader that is subscribed queues its bootstrap key unless the queue is full or it has been
closed.**  After any steps of a new node on a source, whoever else is subscribed there: told of a
recovered cluster that it leads and that has no license before or after, the node caches the
record.  It puts the key behind those that wait if it has never been closed and fewer than
sixteen wait; otherwise its queue stays as it is. -/
theorem queues_bootstrap_until_closed (fleet : Fleet) (index source : Nat) (verifier : Verifier)
    (h : fleet.Placed index none) (hfresh : fleet.coordinator? index = some (.fresh verifier))
    (hrange : source < fleet.sources.length) (steps : List Step) :
    ∃ c s, (fleet.steps index source steps).coordinator? index = some c ∧
      (fleet.steps index source steps).sources[source]? = some s ∧
      ∀ next key, c.subscription ≠ none → Transition.IsFresh ⟨s.current, next⟩ →
        verifier.createKey .selfGenerated LicenseKey.currentVersion
          (.selfGenerated next.clusterName) = .ok key →
        ∃ c', ((fleet.steps index source steps).publish source next).2.coordinator? index =
            some c' ∧
          c'.cached = some (.selfGenerated next.clusterName) ∧
          (.close ∉ steps → c.queue.waiting.length < RegistrationQueue.capacity →
            c'.queue.waiting = c.queue.waiting ++ [key]) ∧
          (.close ∈ steps ∨ RegistrationQueue.capacity ≤ c.queue.waiting.length →
            c'.queue = c.queue) := by
  obtain ⟨c, hserves⟩ := (Serves.of_fresh h hfresh hrange).steps steps
  have hs := List.getElem?_eq_getElem hserves.range
  refine ⟨c, _, hserves.known, hs, ?_⟩
  intro next key hsubscribed ht hkey
  refine ⟨_, hserves.publish_fresh hs hsubscribed ht hkey, rfl, ?_, ?_⟩
  · intro hnever hroom
    exact congrArg RegistrationQueue.waiting
      (RegistrationQueue.offer_of_room (hserves.isOpen_iff.mpr hnever) hserves.attended hroom)
  · intro hrefused
    refine RegistrationQueue.offer_of_refused (hrefused.imp_left fun hclosed => ?_)
    rw [← Bool.not_eq_true, hserves.isOpen_iff]
    exact not_not_intro hclosed

/-! ### A leader that is closed and started again -/

open Verifier (shipped crateKey)
open Registrar.Run (led)

def leading : Fleet := fresh shipped 1 [led none]

theorem placed_leading : leading.Placed 0 none where
  numbered := by
    intro s hs
    rw [List.mem_singleton.mp hs]
    exact Source.numbered_start (led none)
  remembered := ⟨.fresh shipped, rfl, rfl⟩
  own_home := by
    intro source id hplace
    cases hplace
  own_away := by
    intro source _
    match source with
    | 0 => rfl
    | source + 1 => rfl

theorem isFresh_led : Transition.IsFresh ⟨led none, led none⟩ := ⟨rfl, rfl, rfl, rfl⟩

theorem queues_bootstrap_until_closed_led :
    leading.Placed 0 none ∧
      ∃ c, ((leading.steps 0 0 [.start]).publish 0 (led none)).2.coordinator? 0 = some c ∧
        c.cached = some (.selfGenerated "crate") ∧ c.queue.waiting = [crateKey] := by
  refine ⟨placed_leading, ?_⟩
  have hrange : 0 < leading.sources.length := by decide
  obtain ⟨c, s, hknown, hs, hpublish⟩ :=
    queues_bootstrap_until_closed leading 0 0 shipped placed_leading rfl hrange [.start]
  cases Option.some.inj hknown
  cases Option.some.inj hs
  obtain ⟨c', hknown', hcached, hqueued, -⟩ :=
    hpublish (led none) crateKey (Option.some_ne_none _) isFresh_led Verifier.createKey_crate
  exact ⟨c', hknown', hcached, hqueued (by simp) (by decide)⟩

/-- Started again after a close, the leader is subscribed and its queue is empty; told of the fresh
cluster, it caches the record and queues nothing.  The start has given it a subscription, and
nothing gives it a queue. -/
theorem restarted_leader_queues_nothing :
    let restarted := leading.steps 0 0 [.start, .close, .start]
    (restarted.coordinator? 0).map (fun c => (c.subscription, c.queue.waiting)) =
        some (some 2, []) ∧
      restarted.ownAt 0 0 = [(2, .node 0)] ∧
      Transition.IsFresh ⟨led none, led none⟩ ∧
      shipped.createKey .selfGenerated LicenseKey.currentVersion (.selfGenerated "crate") =
        .ok crateKey ∧
      ((restarted.publish 0 (led none)).2.coordinator? 0).map
          (fun c => (c.cached, c.queue.waiting)) =
        some (some (.selfGenerated "crate"), []) := by
  intro restarted
  have hrange : 0 < leading.sources.length := by decide
  obtain ⟨c, hserves⟩ :=
    (Serves.of_fresh placed_leading rfl hrange).steps [.start, .close, .start]
  have hknown : restarted.coordinator? 0 = some c := hserves.known
  cases Option.some.inj hknown
  refine ⟨rfl, rfl, isFresh_led, Verifier.createKey_crate, ?_⟩
  rw [hserves.publish_fresh rfl (Option.some_ne_none _) isFresh_led Verifier.createKey_crate]
  rfl

end Fleet

end ClusterLicense
