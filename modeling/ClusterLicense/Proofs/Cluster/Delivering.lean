/-
  ClusterLicense/Proofs/Cluster/Delivering.lean
  =============================================
  **A source delivers a history without gaps.**

  A publish tells the subscriptions that it finds, in their order and whatever they
  answer (`deliver_record`).  To say which subscription was told what, the listeners
  here write down what they are told; writing does not change what they do, and the
  answer of a publish stays the same.

  Numbers are given out in ascending order and never twice (`Numbered`; they are
  naturals here, and those of a 64-bit counter for the first 2^64 subscriptions), so
  an entry in the log belongs to one subscription.  What a subscription is told therefore
  reads off the calls: the steps from the state that it found through those that
  were published until it was removed (`heard_run_of_subscribed`).

  Listeners may subscribe and unsubscribe others while they are told.  A publish does
  not look at the subscriptions again, so this is the same as doing it afterwards.
-/
import ClusterLicense.Proofs.Cluster.Learning
import Mathlib.Data.List.Nodup

namespace ClusterLicense

namespace Source

variable {β ω : Type} {source : Source β}

/-! ### Numbers -/

def ids (source : Source β) : List SubscriptionId := source.subscriptions.map (·.1)

/-- Numbers ascend, and the next one is above all of them. -/
structure Numbered (source : Source β) : Prop where
  ascending : source.ids.Pairwise (· < ·)
  below : ∀ id ∈ source.ids, id < source.nextId

theorem numbered_start (initial : Snapshot) : (start initial : Source β).Numbered :=
  ⟨.nil, fun _ hid => (List.not_mem_nil hid).elim⟩

theorem ids_subscribe (listener : β) :
    (source.subscribe listener).2.ids = source.ids ++ [source.nextId] :=
  List.map_append

theorem ids_unsubscribe (id : SubscriptionId) :
    (source.unsubscribe id).ids = source.ids.filter (· != id) := by
  simp only [ids, unsubscribe, List.filter_map]
  rfl

theorem Numbered.nodup (h : source.Numbered) : source.ids.Nodup :=
  h.ascending.imp fun hlt => Nat.ne_of_lt hlt

theorem Numbered.subscribe (h : source.Numbered) (listener : β) :
    (source.subscribe listener).2.Numbered := by
  constructor
  · rw [ids_subscribe, List.pairwise_append]
    refine ⟨h.ascending, List.pairwise_singleton _ _, ?_⟩
    intro id hid last hlast
    rw [List.mem_singleton.mp hlast]
    exact h.below id hid
  · intro id hid
    rw [ids_subscribe, List.mem_append, List.mem_singleton] at hid
    rcases hid with hold | rfl
    · exact Nat.lt_succ_of_lt (h.below id hold)
    · exact Nat.lt_succ_self _

theorem Numbered.unsubscribe (h : source.Numbered) (id : SubscriptionId) :
    (source.unsubscribe id).Numbered := by
  constructor
  · rw [ids_unsubscribe]
    exact h.ascending.sublist List.filter_sublist
  · intro other hother
    rw [ids_unsubscribe] at hother
    exact h.below other (List.mem_filter.mp hother).1

/-- Removing the number of a subscription removes this one and leaves the others in their order.
Numbers are given once, so there is no second subscription under it. -/
theorem Numbered.unsubscribe_eq (h : source.Numbered)
    {before after : List (SubscriptionId × β)} {one : SubscriptionId × β}
    (hsplit : source.subscriptions = before ++ one :: after) :
    (source.unsubscribe one.1).subscriptions = before ++ after := by
  have hnodup := h.nodup
  rw [ids, hsplit, List.map_append, List.map_cons, List.nodup_middle, List.nodup_cons,
    ← List.map_append] at hnodup
  have hothers : ∀ other ∈ before ++ after, (other.1 != one.1) = true := by
    intro other hother
    rw [bne_iff_ne]
    intro heq
    exact hnodup.1 (heq ▸ List.mem_map_of_mem hother)
  rw [Source.unsubscribe, hsplit, List.filter_append, List.filter_cons_of_neg (by simp),
    ← List.filter_append]
  exact List.filter_eq_self.mpr hothers

theorem unsubscribe_of_notMem {id : SubscriptionId} (h : id ∉ source.ids) :
    (source.unsubscribe id).subscriptions = source.subscriptions := by
  refine List.filter_eq_self.mpr ?_
  intro other hother
  rw [bne_iff_ne]
  rintro rfl
  exact h (List.mem_map_of_mem hother)

/-! ### One publish -/

structure Delivery where
  id : SubscriptionId
  transition : Transition
  answer : Except LicenseError Unit

/-- A source, the world in which its listeners act, and what they have written down, the oldest
entry first. -/
structure Broadcast (β ω : Type) where
  source : Source β
  world : ω
  log : List Delivery

/-- The same source, to listeners that know their numbers. -/
def labelled (source : Source β) : Source (SubscriptionId × β) :=
  ⟨source.subscriptions.map fun s => (s.1, s), source.nextId, source.current⟩

/-- Tells a listener, and writes down under which number and what it answered. -/
def record (tell : β → Transition → ω → Except LicenseError Unit × ω)
    (listener : SubscriptionId × β) (t : Transition) (b : Broadcast β ω) :
    Except LicenseError Unit × Broadcast β ω :=
  let (answer, world) := tell listener.2 t b.world
  (answer, { b with world := world, log := b.log ++ [⟨listener.1, t, answer⟩] })

/-- Each subscription was told of the step once, in order, and the outcome is the first
failure. -/
structure Told (ids : List SubscriptionId) (t : Transition) (outcome : Except LicenseError Unit)
    (told : List Delivery) : Prop where
  ids_eq : told.map (·.id) = ids
  transition_eq : ∀ d ∈ told, d.transition = t
  ok_iff : outcome = .ok () ↔ ∀ d ∈ told, d.answer = .ok ()
  error_iff : ∀ cause, outcome = .error cause ↔
    ∃ before d after, told = before ++ d :: after ∧ (∀ earlier ∈ before, earlier.answer = .ok ()) ∧
      d.answer = .error cause

variable {t : Transition} {outcome : Except LicenseError Unit} {told : List Delivery}

theorem Told.nil (t : Transition) : Told [] t (.ok ()) [] where
  ids_eq := rfl
  transition_eq := fun _ hd => (List.not_mem_nil hd).elim
  ok_iff := iff_of_true rfl fun _ hd => (List.not_mem_nil hd).elim
  error_iff := by
    intro cause
    refine iff_of_false (fun hcause => by cases hcause) ?_
    rintro ⟨before, d, after, hsplit, -⟩
    exact List.append_ne_nil_of_right_ne_nil before (List.cons_ne_nil d after) hsplit.symm

/-- One more listener in front.  Its failure hides those that come after it, and where it does not
fail the others decide; either way it has been told. -/
theorem Told.cons {ids : List SubscriptionId} (h : Told ids t outcome told) (id : SubscriptionId)
    (answer : Except LicenseError Unit) :
    Told (id :: ids) t (firstFailure answer outcome) (⟨id, t, answer⟩ :: told) where
  ids_eq := by rw [List.map_cons, h.ids_eq]
  transition_eq := List.forall_mem_cons.mpr ⟨rfl, h.transition_eq⟩
  ok_iff := by
    rw [List.forall_mem_cons, ← h.ok_iff]
    cases answer with
    | error e => simp [firstFailure]
    | ok u => simp [firstFailure]
  error_iff := by
    intro cause
    cases answer with
    | error e =>
      constructor
      · intro hcause
        exact ⟨[], _, told, rfl, fun _ hd => (List.not_mem_nil hd).elim, hcause⟩
      · rintro ⟨before, d, after, hsplit, hbefore, hd⟩
        cases before with
        | nil =>
          cases hsplit
          exact hd
        | cons first before =>
          -- The first answer is a failure, so nothing comes before the earliest one.
          cases hsplit
          cases hbefore _ List.mem_cons_self
    | ok u =>
      rw [firstFailure, h.error_iff]
      constructor
      · rintro ⟨before, d, after, rfl, hbefore, hd⟩
        exact ⟨_ :: before, d, after, rfl, List.forall_mem_cons.mpr ⟨rfl, hbefore⟩, hd⟩
      · rintro ⟨before, d, after, hsplit, hbefore, hd⟩
        cases before with
        | nil =>
          cases hsplit
          cases hd
        | cons first before =>
          cases hsplit
          exact ⟨before, d, after, rfl, (List.forall_mem_cons.mp hbefore).2, hd⟩

/-- Writing down what is told changes neither the outcome nor the world.  The induction is on the
subscriptions, and the listeners' own world is carried along unchanged by the log. -/
theorem deliver_record (tell : β → Transition → ω → Except LicenseError Unit × ω) (t : Transition)
    (subscriptions : List (SubscriptionId × β)) (b : Broadcast β ω) :
    ∃ told, deliver (record tell) t (subscriptions.map fun s => (s.1, s)) b =
        ((deliver tell t subscriptions b.world).1,
          ⟨b.source, (deliver tell t subscriptions b.world).2, b.log ++ told⟩) ∧
      Told (subscriptions.map (·.1)) t (deliver tell t subscriptions b.world).1 told := by
  induction subscriptions generalizing b with
  | nil => exact ⟨[], by rw [List.append_nil]; rfl, Told.nil t⟩
  | cons first others ih =>
    obtain ⟨id, listener⟩ := first
    obtain ⟨told, hdeliver, htold⟩ := ih (record tell (id, listener) t b).2
    refine ⟨⟨id, t, (tell listener t b.world).1⟩ :: told, ?_, htold.cons id _⟩
    rw [List.append_cons b.log]
    simp only [List.map_cons, deliver, hdeliver]
    rfl

/-! ### A source with its listeners -/

inductive Call (β : Type) where
  | subscribe (listener : β)
  | unsubscribe (id : SubscriptionId)
  | publish (next : Snapshot)

def Call.published? : Call β → Option Snapshot
  | .publish next => some next
  | _ => none

/-- Whether a call leaves the subscription with a number alone. -/
def Call.keeps (id : SubscriptionId) : Call β → Bool
  | .unsubscribe other => other != id
  | _ => true

def published (calls : List (Call β)) : List Snapshot := calls.filterMap Call.published?

namespace Broadcast

def start (initial : Snapshot) (world : ω) : Broadcast β ω := ⟨.start initial, world, []⟩

def publish (tell : β → Transition → ω → Except LicenseError Unit × ω) (b : Broadcast β ω)
    (next : Snapshot) : Except LicenseError Unit × Broadcast β ω :=
  b.source.labelled.publish (record tell) next fun s =>
    { b with source := { b.source with current := s.current } }

def call (tell : β → Transition → ω → Except LicenseError Unit × ω) (b : Broadcast β ω) :
    Call β → Broadcast β ω
  | .subscribe listener => { b with source := (b.source.subscribe listener).2 }
  | .unsubscribe id => { b with source := b.source.unsubscribe id }
  | .publish next => (b.publish tell next).2

def run (tell : β → Transition → ω → Except LicenseError Unit × ω) (b : Broadcast β ω)
    (calls : List (Call β)) : Broadcast β ω :=
  calls.foldl (call tell) b

def issued (tell : β → Transition → ω → Except LicenseError Unit × ω) (b : Broadcast β ω) :
    List (Call β) → List SubscriptionId
  | [] => []
  | .subscribe listener :: calls =>
    (b.source.subscribe listener).1 :: (b.call tell (.subscribe listener)).issued tell calls
  | other :: calls => (b.call tell other).issued tell calls

def heard (b : Broadcast β ω) (id : SubscriptionId) : List Transition :=
  (b.log.filter (·.id == id)).map (·.transition)

variable {tell : β → Transition → ω → Except LicenseError Unit × ω} {b : Broadcast β ω}
  {id : SubscriptionId}

/-- A publish gives the answer of a plain one, changes the world as it does, and adds what it
told to the log. -/
theorem publish_spec (tell : β → Transition → ω → Except LicenseError Unit × ω)
    (b : Broadcast β ω) (next : Snapshot) :
    ∃ told, b.publish tell next =
        ((b.source.publish tell next fun _ => b.world).1,
          ⟨{ b.source with current := next }, (b.source.publish tell next fun _ => b.world).2,
            b.log ++ told⟩) ∧
      Told b.source.ids ⟨b.source.current, next⟩ (b.publish tell next).1 told := by
  obtain ⟨told, hdeliver, htold⟩ := deliver_record tell ⟨b.source.current, next⟩
    b.source.subscriptions { b with source := { b.source with current := next } }
  have hpublish : b.publish tell next =
      deliver (record tell) ⟨b.source.current, next⟩ (b.source.subscriptions.map fun s => (s.1, s))
        { b with source := { b.source with current := next } } := rfl
  refine ⟨told, hpublish.trans hdeliver, ?_⟩
  rw [hpublish, hdeliver]
  exact htold

/-! ### Numbers in the log -/

/-- The numbers are in order, and nothing has been delivered under one that is still to come. -/
structure Sound (b : Broadcast β ω) : Prop where
  numbered : b.source.Numbered
  logged : ∀ d ∈ b.log, d.id < b.source.nextId

theorem Sound.start (initial : Snapshot) (world : ω) :
    (start initial world : Broadcast β ω).Sound :=
  ⟨numbered_start initial, fun _ hd => (List.not_mem_nil hd).elim⟩

/-- No call gives a number that was given before or is in the log already.  A publish adds to the
log only numbers that are subscribed, which are below the next one. -/
theorem Sound.call (h : b.Sound) (c : Call β) : (b.call tell c).Sound := by
  cases c with
  | subscribe listener =>
    exact ⟨h.numbered.subscribe listener, fun d hd => Nat.lt_succ_of_lt (h.logged d hd)⟩
  | unsubscribe id => exact ⟨h.numbered.unsubscribe id, h.logged⟩
  | publish next =>
    obtain ⟨told, hpublish, htold⟩ := b.publish_spec tell next
    simp only [Broadcast.call, hpublish]
    refine ⟨⟨h.numbered.ascending, h.numbered.below⟩, ?_⟩
    intro d hd
    rcases List.mem_append.mp hd with hold | hnew
    · exact h.logged d hold
    · refine h.numbered.below d.id ?_
      rw [← htold.ids_eq]
      exact List.mem_map_of_mem hnew

theorem Sound.run (h : b.Sound) (calls : List (Call β)) : (b.run tell calls).Sound := by
  induction calls generalizing b with
  | nil => exact h
  | cons c calls ih => exact ih (h.call c)

theorem nextId_le_call (b : Broadcast β ω) (c : Call β) :
    b.source.nextId ≤ (b.call tell c).source.nextId := by
  cases c with
  | subscribe listener => exact Nat.le_succ _
  | unsubscribe id => exact Nat.le_refl _
  | publish next =>
    obtain ⟨told, hpublish, -⟩ := b.publish_spec tell next
    simp only [Broadcast.call, hpublish, Nat.le_refl]

theorem le_of_mem_issued (calls : List (Call β)) {id : SubscriptionId}
    (h : id ∈ b.issued tell calls) : b.source.nextId ≤ id := by
  induction calls generalizing b with
  | nil => cases h
  | cons c calls ih =>
    cases c with
    | subscribe listener =>
      rcases List.mem_cons.mp h with rfl | hlater
      · exact Nat.le_refl _
      · exact Nat.le_trans (nextId_le_call b _) (ih hlater)
    | unsubscribe other => exact Nat.le_trans (nextId_le_call b (.unsubscribe other)) (ih h)
    | publish next => exact Nat.le_trans (nextId_le_call b (.publish next)) (ih h)

/-- Numbers are given in ascending order, and hence none is given twice. -/
theorem issued_ascending (b : Broadcast β ω) (calls : List (Call β)) :
    (b.issued tell calls).Pairwise (· < ·) := by
  induction calls generalizing b with
  | nil => exact .nil
  | cons c calls ih =>
    cases c with
    | subscribe listener =>
      refine .cons ?_ (ih _)
      intro id hid
      exact Nat.lt_of_succ_le (le_of_mem_issued calls hid)
    | unsubscribe other => exact ih _
    | publish next => exact ih _

/-! ### What one subscription is told -/

/-- The current state is the one published last, or the initial one; subscribing and unsubscribing
do not change it. -/
theorem current_run (b : Broadcast β ω) (calls : List (Call β)) :
    (b.run tell calls).source.current = (published calls).getLastD b.source.current := by
  induction calls generalizing b with
  | nil => rfl
  | cons c calls ih =>
    have hrest := ih (b.call tell c)
    cases c with
    | subscribe listener => exact hrest
    | unsubscribe id => exact hrest
    | publish next =>
      obtain ⟨told, hpublish, -⟩ := b.publish_spec tell next
      have hcurrent : (b.call tell (.publish next)).source.current = next := by
        simp only [Broadcast.call, hpublish]
      rw [hcurrent] at hrest
      have hpublished : published (.publish next :: calls) = next :: published calls := rfl
      rw [hpublished, List.getLastD_cons]
      exact hrest

/-- Of one publish a subscription hears exactly one step if it is subscribed, and nothing if it is
not.  That it hears no more than one is because its number is there only once. -/
theorem heard_told {ids : List SubscriptionId} {t : Transition}
    {outcome : Except LicenseError Unit} {told : List Delivery} (h : Told ids t outcome told)
    (hnodup : ids.Nodup) (id : SubscriptionId) :
    (told.filter (·.id == id)).map (·.transition) = if id ∈ ids then [t] else [] := by
  have hreplicate : (told.filter (·.id == id)).map (·.transition) =
      List.replicate (told.filter (·.id == id)).length t := by
    rw [List.eq_replicate_iff, List.length_map]
    refine ⟨rfl, ?_⟩
    intro transition htransition
    obtain ⟨d, hd, rfl⟩ := List.mem_map.mp htransition
    exact h.transition_eq d (List.mem_filter.mp hd).1
  have hcount : (told.filter (·.id == id)).length = ids.count id := by
    rw [← h.ids_eq, List.count, List.countP_map, List.countP_eq_length_filter]
    rfl
  rw [hreplicate, hcount, hnodup.count]
  split <;> rfl

/-- What a subscription has heard grows by a publish exactly by the step from the current state, if
it is there. -/
theorem heard_publish (h : b.source.Numbered) (next : Snapshot) (id : SubscriptionId) :
    (b.call tell (.publish next)).heard id =
      b.heard id ++ if id ∈ b.source.ids then [⟨b.source.current, next⟩] else [] := by
  obtain ⟨told, hpublish, htold⟩ := b.publish_spec tell next
  simp only [call, hpublish, heard, List.filter_append, List.map_append]
  rw [heard_told htold h.nodup]

theorem source_publish (b : Broadcast β ω) (next : Snapshot) :
    (b.call tell (.publish next)).source = { b.source with current := next } := by
  obtain ⟨told, hpublish, -⟩ := b.publish_spec tell next
  simp only [call, hpublish]

/-- Once a subscription has been removed, it is told nothing more.  Its number is not given again,
so nothing that comes later can be mistaken for it. -/
theorem heard_run_of_notMem (h : b.Sound) (hold : id < b.source.nextId)
    (habsent : id ∉ b.source.ids) (calls : List (Call β)) :
    (b.run tell calls).heard id = b.heard id := by
  induction calls generalizing b with
  | nil => rfl
  | cons c calls ih =>
    have hlater : id < (b.call tell c).source.nextId :=
      Nat.lt_of_lt_of_le hold (nextId_le_call b c)
    cases c with
    | subscribe listener =>
      refine ih (h.call _) hlater ?_
      simp only [call, ids_subscribe, List.mem_append, List.mem_singleton, not_or]
      exact ⟨habsent, Nat.ne_of_lt hold⟩
    | unsubscribe other =>
      refine ih (h.call _) hlater ?_
      simp only [call, ids_unsubscribe]
      exact fun hmem => habsent (List.mem_filter.mp hmem).1
    | publish next =>
      refine (ih (h.call _) hlater ?_).trans ?_
      · rw [source_publish]
        exact habsent
      · rw [heard_publish h.numbered, if_neg habsent, List.append_nil]

/-- While it is there, a subscription is told of every step, from the state that is current to the
one published last.  The calls are cut at the first that removes it, which is where
`heard_run_of_notMem` takes over. -/
theorem heard_run_of_mem (h : b.Sound) (hmem : id ∈ b.source.ids) (calls : List (Call β)) :
    (b.run tell calls).heard id =
      b.heard id ++ steps (b.source.current :: published (calls.takeWhile (·.keeps id))) := by
  induction calls generalizing b with
  | nil => exact (List.append_nil _).symm
  | cons c calls ih =>
    cases c with
    | subscribe listener =>
      refine ih (h.call _) ?_
      simp only [call, ids_subscribe, List.mem_append]
      exact .inl hmem
    | unsubscribe other =>
      by_cases hother : other = id
      · subst hother
        rw [List.takeWhile_cons_of_neg (by simp [Call.keeps])]
        refine (heard_run_of_notMem (h.call _) (h.numbered.below other hmem) ?_ calls).trans
          (List.append_nil _).symm
        simp only [call, ids_unsubscribe, List.mem_filter, bne_self_eq_false, Bool.false_eq_true,
          and_false, not_false_eq_true]
      · rw [List.takeWhile_cons_of_pos (by simp [Call.keeps, hother])]
        refine ih (h.call _) ?_
        simp only [call, ids_unsubscribe, List.mem_filter, bne_iff_ne]
        exact ⟨hmem, Ne.symm hother⟩
    | publish next =>
      have hstill : id ∈ (b.call tell (.publish next)).source.ids := by
        rw [source_publish]
        exact hmem
      rw [List.takeWhile_cons_of_pos rfl]
      refine (ih (h.call _) hstill).trans ?_
      rw [heard_publish h.numbered, if_pos hmem, source_publish, List.append_assoc]
      rfl

/-- A subscription that is new has heard nothing, since nothing was delivered under its number; from
there on the two lemmas above take over. -/
theorem heard_run_of_subscribed (h : b.Sound) (listener : β) (calls : List (Call β)) :
    ((b.call tell (.subscribe listener)).run tell calls).heard b.source.nextId =
      steps (b.source.current ::
        published (calls.takeWhile (·.keeps b.source.nextId))) := by
  have hmem : b.source.nextId ∈ (b.call tell (.subscribe listener)).source.ids := by
    simp only [call, ids_subscribe, List.mem_append, List.mem_singleton, or_true]
  have hnone : (b.call tell (.subscribe listener)).heard b.source.nextId = [] := by
    have hfilter : b.log.filter (·.id == b.source.nextId) = [] := by
      refine List.filter_eq_nil_iff.mpr ?_
      intro d hd
      rw [beq_iff_eq]
      exact Nat.ne_of_lt (h.logged d hd)
    exact congrArg (List.map (·.transition)) hfilter
  rw [heard_run_of_mem (h.call _) hmem, hnone, List.nil_append]
  rfl

end Broadcast

/-- **A source delivers a history without gaps.**  After any calls: a publish tells every
subscription of the step once, in the order of subscription, and answers with the first failure;
the current state is the one published last; numbers are never given twice, and removing one
removes its subscription and no other; and a subscription has been told of exactly the steps from
the state that it found through those published until it was removed. -/
theorem delivers_gap_free_history (tell : β → Transition → ω → Except LicenseError Unit × ω)
    (initial : Snapshot) (world : ω) (calls : List (Call β)) :
    let start : Broadcast β ω := .start initial world
    let b := start.run tell calls
    (∀ next, ∃ told, (b.publish tell next).2.log = b.log ++ told ∧
        Told b.source.ids ⟨b.source.current, next⟩ (b.publish tell next).1 told ∧
        ((b.publish tell next).1, (b.publish tell next).2.world) =
          b.source.publish tell next (fun _ => b.world) ∧
        (b.publish tell next).2.source = { b.source with current := next }) ∧
      b.source.current = (published calls).getLastD initial ∧
      b.source.ids.Pairwise (· < ·) ∧
      (start.issued tell calls).Pairwise (· < ·) ∧
      (∀ before one after, b.source.subscriptions = before ++ one :: after →
        (b.source.unsubscribe one.1).subscriptions = before ++ after) ∧
      (∀ id, id ∉ b.source.ids →
        (b.source.unsubscribe id).subscriptions = b.source.subscriptions) ∧
      (∀ before listener after, calls = before ++ .subscribe listener :: after →
        let found := (start.run tell before).source
        let id := (found.subscribe listener).1
        b.heard id = steps (found.current :: published (after.takeWhile (·.keeps id)))) := by
  intro start b
  have hsound : b.Sound := (Broadcast.Sound.start initial world).run calls
  refine ⟨?_, Broadcast.current_run start calls, hsound.numbered.ascending,
    Broadcast.issued_ascending start calls, ?_, ?_, ?_⟩
  · intro next
    obtain ⟨told, hpublish, htold⟩ := b.publish_spec tell next
    refine ⟨told, ?_, htold, ?_, ?_⟩
    · rw [hpublish]
    · rw [hpublish]
    · rw [hpublish]
  · intro before one after hsplit
    exact hsound.numbered.unsubscribe_eq hsplit
  · intro id habsent
    exact unsubscribe_of_notMem habsent
  · intro before listener after hcalls found id
    have hbefore : (start.run tell before).Sound :=
      (Broadcast.Sound.start initial world).run before
    have hrun : b = ((start.run tell before).call tell (.subscribe listener)).run tell after := by
      simp only [b, hcalls, Broadcast.run, List.foldl_append, List.foldl_cons]
    rw [hrun]
    exact Broadcast.heard_run_of_subscribed hbefore listener after

/-! ### A listener that refuses everything, and one that comes later -/

def named (name : String) : Snapshot := ⟨name, false, true, none⟩

def answering (isWilling : Bool) (_ : Transition) (world : Unit) :
    Except LicenseError Unit × Unit :=
  (if isWilling then .ok () else .error (.clusterLicenseCorruption "refused"), world)

theorem delivers_gap_free_history_refused :
    let calls := [.subscribe false, .publish (named "b"), .subscribe true, .publish (named "c"),
      .unsubscribe 1, .publish (named "d")]
    let b := (Broadcast.start (named "a") ()).run answering calls
    b.heard 1 = [⟨named "a", named "b"⟩, ⟨named "b", named "c"⟩] ∧
      b.heard 2 = [⟨named "b", named "c"⟩, ⟨named "c", named "d"⟩] ∧
      b.source.current = named "d" := by
  intro calls b
  obtain ⟨-, hcurrent, -, -, -, -, hheard⟩ :=
    delivers_gap_free_history answering (named "a") () calls
  exact ⟨hheard [] false _ rfl, hheard [.subscribe false, .publish (named "b")] true _ rfl,
    hcurrent⟩

end Source

end ClusterLicense
