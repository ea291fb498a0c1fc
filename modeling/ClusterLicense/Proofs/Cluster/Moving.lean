/-
  ClusterLicense/Proofs/Cluster/Moving.lean
  =========================================
  **A node that starts again moves its subscription on one source, and on no other.**

  A node remembers the number of its subscription, but not the source that gave it.
  Starting again gives the old number up on the new source, so this replaces the
  subscription if both sources are the same.  If they are not, the old subscription
  stays, and whoever has that number on the new source loses theirs.

  `Placed` is what should hold: the node is subscribed once, on the source where it
  was started last, under the number that it remembers.  Calls on that source keep it
  and leave everybody else alone (`Placed.call`), and a call on any other breaks it
  (`moved_iff_atHome`).
-/
import ClusterLicense.Proofs.Cluster.Delivering
import ClusterLicense.Proofs.Cluster.Publishing

namespace ClusterLicense

def Subscriber.isNode (index : Nat) : Subscriber → Bool
  | .node other => other == index
  | .observer _ _ => false

theorem Subscriber.isNode_node (index : Nat) : (Subscriber.node index).isNode index = true :=
  beq_self_eq_true index

/-! ### Subscriptions of one node -/

namespace Source

variable {source : Source Subscriber} {index : Nat} {id : SubscriptionId}

def own (source : Source Subscriber) (index : Nat) : List (SubscriptionId × Subscriber) :=
  source.subscriptions.filter (·.2.isNode index)

def others (source : Source Subscriber) (index : Nat) : List (SubscriptionId × Subscriber) :=
  source.subscriptions.filter (!·.2.isNode index)

theorem own_subscribe (source : Source Subscriber) (index : Nat) :
    (source.subscribe (.node index)).2.own index =
      source.own index ++ [(source.nextId, .node index)] := by
  simp only [own, subscribe, List.filter_append, List.filter_cons, List.filter_nil,
    Subscriber.isNode_node, if_true]

theorem others_subscribe (source : Source Subscriber) (index : Nat) :
    (source.subscribe (.node index)).2.others index = source.others index := by
  simp only [others, subscribe, List.filter_append, List.filter_cons, List.filter_nil,
    Subscriber.isNode_node, Bool.not_true, Bool.false_eq_true, if_false, List.append_nil]

theorem own_unsubscribe (source : Source Subscriber) (index : Nat) (id : SubscriptionId) :
    (source.unsubscribe id).own index = (source.own index).filter (·.1 != id) :=
  List.filter_comm ..

theorem others_unsubscribe (source : Source Subscriber) (index : Nat) (id : SubscriptionId) :
    (source.unsubscribe id).others index = (source.others index).filter (·.1 != id) :=
  List.filter_comm ..

theorem Numbered.lt_of_mem_own (h : source.Numbered)
    (hown : (id, .node index) ∈ source.own index) : id < source.nextId :=
  h.below id (List.mem_map_of_mem (List.mem_filter.mp hown).1)

/-- Giving up a number of the node's own takes nothing away from anybody else.  On one source a
number belongs to one subscription; that it was given on this very source is the whole point. -/
theorem Numbered.others_unsubscribe_own (h : source.Numbered)
    (hown : (id, .node index) ∈ source.own index) :
    (source.unsubscribe id).others index = source.others index := by
  rw [others_unsubscribe, List.filter_eq_self]
  intro other hother
  rw [bne_iff_ne]
  intro heq
  obtain ⟨hmem, hforeign⟩ := List.mem_filter.mp hother
  -- Numbers are given once, so the two subscriptions are the same.
  have hsame : other = (id, .node index) :=
    List.inj_on_of_nodup_map h.nodup hmem (List.mem_filter.mp hown).1 heq
  rw [hsame, Subscriber.isNode_node] at hforeign
  cases hforeign

end Source

/-- A source has a node subscribed once, under the number that it remembers, or not at all. -/
structure Source.Agrees (s : Source Subscriber) (index : Nat) (c : Coordinator) : Prop where
  numbered : s.Numbered
  own_eq : s.own index = c.subscription.toList.map fun id => (id, .node index)

namespace Coordinator

variable {c : Coordinator} {s : Source Subscriber} {index : Nat}

/-- A start replaces the subscription on the source that gave the number.  The old one goes, the new
one comes, and the subscriptions of the others stay in their order. -/
theorem start_of_agrees (h : s.Agrees index c) :
    (c.start (.node index) s).2.Agrees index (c.start (.node index) s).1 ∧
      (c.start (.node index) s).1.subscription = some s.nextId ∧
      (c.start (.node index) s).2.others index = s.others index := by
  have hown := h.own_eq
  have hsubscribed := s.own_subscribe index
  have hothers := s.others_subscribe index
  have hnumbered := h.numbered.subscribe (.node index)
  simp only [start]
  cases hnumber : c.subscription with
  | none =>
    rw [hown, hnumber] at hsubscribed
    exact ⟨⟨hnumbered, hsubscribed⟩, rfl, hothers⟩
  | some id =>
    rw [hown, hnumber] at hsubscribed
    have hmem : (id, Subscriber.node index) ∈ s.own index := by
      rw [hown, hnumber]
      exact List.mem_cons_self
    have hgiven : id < s.nextId := h.numbered.lt_of_mem_own hmem
    have hold : (id, .node index) ∈ (s.subscribe (.node index)).2.own index := by
      rw [hsubscribed]
      exact List.mem_cons_self
    refine ⟨⟨hnumbered.unsubscribe id, ?_⟩, rfl, ?_⟩
    · rw [Source.own_unsubscribe, hsubscribed]
      simp [Source.subscribe, Nat.ne_of_gt hgiven]
    · exact (hnumbered.others_unsubscribe_own hold).trans hothers

/-- Where the source agrees with the node, a close leaves no subscription of its own there, and
takes none from anybody else. -/
theorem close_of_agrees (h : s.Agrees index c) :
    (c.close s).2.Agrees index (c.close s).1 ∧ (c.close s).1.subscription = none ∧
      (c.close s).2.others index = s.others index := by
  have hown := h.own_eq
  simp only [close]
  cases hnumber : c.subscription with
  | none =>
    rw [hnumber] at hown
    exact ⟨⟨h.numbered, hown⟩, trivial, rfl⟩
  | some id =>
    rw [hnumber] at hown
    have hold : (id, .node index) ∈ s.own index := by
      rw [hown]
      exact List.mem_cons_self
    refine ⟨⟨h.numbered.unsubscribe id, ?_⟩, trivial, h.numbered.others_unsubscribe_own hold⟩
    rw [Source.own_unsubscribe, hown]
    simp

end Coordinator

namespace Fleet

def ownAt (fleet : Fleet) (index source : Nat) : List (SubscriptionId × Subscriber) :=
  match fleet.sources[source]? with
  | some s => s.own index
  | none => []

def othersAt (fleet : Fleet) (index source : Nat) : List (SubscriptionId × Subscriber) :=
  match fleet.sources[source]? with
  | some s => s.others index
  | none => []

/-! ### Calls -/

inductive Call where
  | start (source : Nat)
  | close (source : Nat)

namespace Call

def source : Call → Nat
  | .start source => source
  | .close source => source

def home? : Call → Option Nat
  | .start source => some source
  | .close _ => none

end Call

def call (fleet : Fleet) (index : Nat) : Call → Fleet
  | .start source => fleet.start index source
  | .close source => fleet.close index source

def run (fleet : Fleet) (index : Nat) (calls : List Call) : Fleet :=
  calls.foldl (·.call index) fleet

/-- Where the node ought to be subscribed after calls: where it was started last, unless it has
been closed since. -/
def homeAfter (home : Option Nat) (calls : List Call) : Option Nat :=
  calls.foldl (fun _ call => call.home?) home

/-- Whoever is subscribed is only called on the source where it was started last. -/
def AtHome : Option Nat → List Call → Prop
  | _, [] => True
  | home, call :: calls => (home = none ∨ home = some call.source) ∧ AtHome call.home? calls

/-- From one fleet to a later one, the node has moved to its home and nobody else has moved. -/
structure Moved (fleet later : Fleet) (index : Nat) (home : Option Nat) : Prop where
  once : ∀ source, (later.ownAt index source).length = if home = some source then 1 else 0
  others : ∀ source, later.othersAt index source = fleet.othersAt index source

/-- The node is subscribed exactly as it remembers: at this place, if at any. -/
structure Placed (fleet : Fleet) (index : Nat) (place : Option (Nat × SubscriptionId)) :
    Prop where
  numbered : ∀ s ∈ fleet.sources, s.Numbered
  remembered : ∃ c, fleet.coordinator? index = some c ∧ c.subscription = place.map (·.2)
  own_home : ∀ source id, place = some (source, id) →
    fleet.ownAt index source = [(id, .node index)]
  own_away : ∀ source, place.map (·.1) ≠ some source → fleet.ownAt index source = []

/-! ### One call -/

variable {fleet : Fleet} {index source : Nat} {c : Coordinator}

/-- A start on a source of a fleet is the start of the node's coordinator on this source; no other
source is looked at.  That is why it cannot know where the number that it remembers came from. -/
theorem start_eq {s : Source Subscriber} (hc : fleet.coordinator? index = some c)
    (hs : fleet.sources[source]? = some s) :
    (fleet.start index source).coordinator? index = some (c.start (.node index) s).1 ∧
      (fleet.start index source).sources =
        fleet.sources.set source (c.start (.node index) s).2 := by
  have hstarted : fleet.start index source =
      setCoordinator { fleet with sources := fleet.sources.set source (c.start (.node index) s).2 } index
        (c.start (.node index) s).1 := by
    simp only [Fleet.start, hc, hs]
  rw [hstarted, setCoordinator_sources]
  exact ⟨coordinator?_setCoordinator hc, rfl⟩

theorem close_eq {s : Source Subscriber} (hc : fleet.coordinator? index = some c)
    (hs : fleet.sources[source]? = some s) :
    (fleet.close index source).coordinator? index = some (c.close s).1 ∧
      (fleet.close index source).sources = fleet.sources.set source (c.close s).2 := by
  have hclosed : fleet.close index source =
      setCoordinator { fleet with sources := fleet.sources.set source (c.close s).2 } index
        (c.close s).1 := by
    simp only [Fleet.close, hc, hs]
  rw [hclosed, setCoordinator_sources]
  exact ⟨coordinator?_setCoordinator hc, rfl⟩

theorem call_sources {call : Call} (hc : fleet.coordinator? index = some c)
    (hrange : call.source < fleet.sources.length) :
    ∃ s, (fleet.call index call).sources = fleet.sources.set call.source s := by
  have hs := List.getElem?_eq_getElem hrange
  cases call with
  | start source => exact ⟨_, (start_eq hc hs).2⟩
  | close source => exact ⟨_, (close_eq hc hs).2⟩

theorem ownAt_of_ne {later : Fleet} {s : Source Subscriber} {other : Nat}
    (hsources : later.sources = fleet.sources.set source s) (hne : other ≠ source) :
    later.ownAt index other = fleet.ownAt index other := by
  simp only [ownAt, hsources, List.getElem?_set_ne hne.symm]

theorem othersAt_of_ne {later : Fleet} {s : Source Subscriber} {other : Nat}
    (hsources : later.sources = fleet.sources.set source s) (hne : other ≠ source) :
    later.othersAt index other = fleet.othersAt index other := by
  simp only [othersAt, hsources, List.getElem?_set_ne hne.symm]

theorem ownAt_of_set {later : Fleet} {s : Source Subscriber}
    (hsources : later.sources = fleet.sources.set source s)
    (hrange : source < fleet.sources.length) : later.ownAt index source = s.own index := by
  simp only [ownAt, hsources, List.getElem?_set_self hrange]

theorem othersAt_of_set {later : Fleet} {s : Source Subscriber}
    (hsources : later.sources = fleet.sources.set source s)
    (hrange : source < fleet.sources.length) : later.othersAt index source = s.others index := by
  simp only [othersAt, hsources, List.getElem?_set_self hrange]

/-- What a call leaves on its source decides where the node is subscribed after it, if it was not
subscribed anywhere else before. -/
theorem Placed.of_set {place : Option (Nat × SubscriptionId)} {later : Fleet} {c' : Coordinator}
    {s' : Source Subscriber} (h : fleet.Placed index place)
    (hhome : place.map (·.1) = none ∨ place.map (·.1) = some source)
    (hrange : source < fleet.sources.length) (hc' : later.coordinator? index = some c')
    (hsources : later.sources = fleet.sources.set source s') (hagrees : s'.Agrees index c') :
    later.Placed index (c'.subscription.map fun id => (source, id)) := by
  constructor
  · intro s hs
    rw [hsources] at hs
    rcases List.mem_or_eq_of_mem_set hs with hold | rfl
    · exact h.numbered s hold
    · exact hagrees.numbered
  · refine ⟨c', hc', ?_⟩
    cases c'.subscription <;> rfl
  · intro other id hplace
    obtain ⟨number, hnumber, heq⟩ := Option.map_eq_some_iff.mp hplace
    cases heq
    rw [ownAt_of_set hsources hrange, hagrees.own_eq, hnumber]
    rfl
  · intro other haway
    by_cases hother : other = source
    · subst hother
      rw [ownAt_of_set hsources hrange, hagrees.own_eq]
      cases hnumber : c'.subscription with
      | none => rfl
      | some id =>
        rw [hnumber] at haway
        exact absurd rfl haway
    · rw [ownAt_of_ne hsources hother]
      refine h.own_away other ?_
      rcases hhome with hnone | hsome
      · rw [hnone]
        exact (Option.some_ne_none other).symm
      · rw [hsome]
        exact fun heq => hother (Option.some.inj heq).symm

/-- A node that is placed on a source, or nowhere, agrees with this source about its subscription,
which is what a call on the source needs. -/
theorem Placed.agrees {place : Option (Nat × SubscriptionId)} {s : Source Subscriber}
    (h : fleet.Placed index place)
    (hhome : place.map (·.1) = none ∨ place.map (·.1) = some source)
    (hs : fleet.sources[source]? = some s) (hnumber : c.subscription = place.map (·.2)) :
    s.Agrees index c := by
  refine ⟨h.numbered s (List.mem_of_getElem? hs), ?_⟩
  have hat : fleet.ownAt index source = s.own index := by simp only [ownAt, hs]
  rw [← hat, hnumber]
  cases place with
  | none => exact h.own_away _ (Option.some_ne_none _).symm
  | some place =>
    obtain ⟨home, id⟩ := place
    rcases hhome with hnone | hsome
    · cases hnone
    · cases Option.some.inj hsome
      exact h.own_home _ id rfl

/-- A call on the source where the node is at home moves it, and nobody else.  Where the node is not
subscribed at all, every source may become its home. -/
theorem Placed.call {place : Option (Nat × SubscriptionId)} {call : Call}
    (h : fleet.Placed index place)
    (hhome : place.map (·.1) = none ∨ place.map (·.1) = some call.source)
    (hrange : call.source < fleet.sources.length) :
    ∃ next, (fleet.call index call).Placed index next ∧ next.map (·.1) = call.home? ∧
      (∀ other, (fleet.call index call).othersAt index other = fleet.othersAt index other) ∧
      (fleet.call index call).sources.length = fleet.sources.length := by
  obtain ⟨c, hc, hnumber⟩ := h.remembered
  have hs := List.getElem?_eq_getElem hrange
  have hagrees := h.agrees hhome hs hnumber
  have hothers {later : Fleet} {s' : Source Subscriber}
      (hsources : later.sources = fleet.sources.set call.source s')
      (hkept : s'.others index = fleet.sources[call.source].others index) (other : Nat) :
      later.othersAt index other = fleet.othersAt index other := by
    by_cases hother : other = call.source
    · subst hother
      rw [othersAt_of_set hsources hrange, hkept]
      simp only [othersAt, hs]
    · exact othersAt_of_ne hsources hother
  cases call with
  | start source =>
    obtain ⟨hlater, hremembered, hkept⟩ := Coordinator.start_of_agrees hagrees
    obtain ⟨hcoordinator, hsources⟩ := start_eq hc hs
    refine ⟨_, h.of_set hhome hrange hcoordinator hsources hlater, ?_, hothers hsources hkept,
      (congrArg List.length hsources).trans List.length_set⟩
    rw [hremembered]
    rfl
  | close source =>
    obtain ⟨hlater, hremembered, hkept⟩ := Coordinator.close_of_agrees hagrees
    obtain ⟨hcoordinator, hsources⟩ := close_eq hc hs
    refine ⟨_, h.of_set hhome hrange hcoordinator hsources hlater, ?_, hothers hsources hkept,
      (congrArg List.length hsources).trans List.length_set⟩
    rw [hremembered]
    rfl

/-! ### Many calls -/

theorem Placed.moved {place : Option (Nat × SubscriptionId)} (h : fleet.Placed index place) :
    Moved fleet fleet index (place.map (·.1)) := by
  refine ⟨?_, fun source => rfl⟩
  intro source
  by_cases hhome : place.map (·.1) = some source
  · obtain ⟨⟨home, id⟩, hplace, rfl⟩ := Option.map_eq_some_iff.mp hhome
    rw [if_pos hhome, h.own_home home id hplace]
    rfl
  · rw [if_neg hhome, h.own_away source hhome]
    rfl

/-- A node that is called away from its home stays subscribed there.  So a run in which the node
always moved has no call away from home. -/
theorem Placed.atHome_of_moved {place : Option (Nat × SubscriptionId)} {call : Call}
    (h : fleet.Placed index place) (hrange : call.source < fleet.sources.length)
    (hmoved : Moved fleet (fleet.call index call) index call.home?) :
    place.map (·.1) = none ∨ place.map (·.1) = some call.source := by
  cases place with
  | none => exact .inl rfl
  | some place =>
    obtain ⟨home, id⟩ := place
    by_cases hsame : home = call.source
    · exact .inr (congrArg some hsame)
    · obtain ⟨c, hc, -⟩ := h.remembered
      obtain ⟨s, hsources⟩ := call_sources hc hrange
      have hstays : (fleet.call index call).ownAt index home = [(id, .node index)] :=
        (ownAt_of_ne hsources hsame).trans (h.own_home home id rfl)
      have haway : call.home? ≠ some home := by
        cases call with
        | start source => exact fun heq => hsame (Option.some.inj heq).symm
        | close source => exact (Option.some_ne_none home).symm
      have hnone := hmoved.once home
      rw [hstays, if_neg haway] at hnone
      cases hnone

/-- The node has moved with every call of a run exactly if all calls were at home.  The condition is
needed at each beginning of the run, since a later call may undo what an earlier one has done. -/
theorem Placed.moved_iff {place : Option (Nat × SubscriptionId)} (h : fleet.Placed index place)
    (calls : List Call) (hrange : ∀ call ∈ calls, call.source < fleet.sources.length) :
    (∀ before, before <+: calls →
      Moved fleet (fleet.run index before) index (homeAfter (place.map (·.1)) before)) ↔
        AtHome (place.map (·.1)) calls := by
  induction calls generalizing fleet place with
  | nil =>
    refine iff_of_true ?_ trivial
    intro before hbefore
    rw [List.prefix_nil.mp hbefore]
    exact h.moved
  | cons call calls ih =>
    obtain ⟨hcall, hlater⟩ := List.forall_mem_cons.mp hrange
    constructor
    · intro hmoved
      have hhome := h.atHome_of_moved hcall (hmoved [call] (by simp))
      obtain ⟨next, hplaced, hnext, hothers, hlength⟩ := h.call hhome hcall
      refine ⟨hhome, ?_⟩
      rw [← hnext]
      refine (ih hplaced (by rwa [hlength])).mp ?_
      intro before hbefore
      have hrun := hmoved (call :: before) (List.cons_prefix_cons.mpr ⟨rfl, hbefore⟩)
      rw [hnext]
      exact ⟨hrun.once, fun source => (hrun.others source).trans (hothers source).symm⟩
    · rintro ⟨hhome, hrest⟩ before hbefore
      obtain ⟨next, hplaced, hnext, hothers, hlength⟩ := h.call hhome hcall
      rw [← hnext] at hrest
      cases before with
      | nil => exact h.moved
      | cons first before =>
        obtain ⟨rfl, hshorter⟩ := List.cons_prefix_cons.mp hbefore
        have hrun := (ih hplaced (by rwa [hlength])).mpr hrest before hshorter
        rw [hnext] at hrun
        exact ⟨hrun.once, fun source => (hrun.others source).trans (hothers source)⟩

/-- On its source a call takes the number that the node remembers away from everybody.  Numbers are
not told apart by who they belong to. -/
theorem othersAt_call {id : SubscriptionId} {call : Call} (hc : fleet.coordinator? index = some c)
    (hnumber : c.subscription = some id) (hrange : call.source < fleet.sources.length) :
    (fleet.call index call).othersAt index call.source =
      (fleet.othersAt index call.source).filter (·.1 != id) := by
  obtain ⟨s, hs⟩ : ∃ s, fleet.sources[call.source]? = some s :=
    ⟨_, List.getElem?_eq_getElem hrange⟩
  have hbefore : fleet.othersAt index call.source = s.others index := by
    simp only [othersAt, hs]
  rw [hbefore]
  cases call with
  | start source =>
    refine (othersAt_of_set (start_eq hc hs).2 hrange).trans ?_
    simp only [Coordinator.start, hnumber]
    rw [Source.others_unsubscribe, Source.others_subscribe]
  | close source =>
    refine (othersAt_of_set (close_eq hc hs).2 hrange).trans ?_
    simp only [Coordinator.close, hnumber]
    rw [Source.others_unsubscribe]

/-- **A subscription moves along with its node exactly if the node is called where it is.**  The
node is subscribed once where it was started last, nowhere after a close, and nobody else's
subscription is touched, at every point of a run, if and only if each call that finds it
subscribed is on the source of its last start.  Any call takes away, on its source, whatever has
the number that the node remembers. -/
theorem moved_iff_atHome (fleet : Fleet) (index : Nat) (h : fleet.Placed index none)
    (calls : List Call) (hrange : ∀ call ∈ calls, call.source < fleet.sources.length) :
    ((∀ before, before <+: calls →
        Moved fleet (fleet.run index before) index (homeAfter none before)) ↔
          AtHome none calls) ∧
      ∀ (call : Call) (c : Coordinator) (id : SubscriptionId),
        (fleet.run index calls).coordinator? index = some c → c.subscription = some id →
        call.source < (fleet.run index calls).sources.length →
        ((fleet.run index calls).call index call).othersAt index call.source =
          ((fleet.run index calls).othersAt index call.source).filter (·.1 != id) := by
  refine ⟨h.moved_iff calls hrange, ?_⟩
  intro call c id hc hnumber hcall
  exact othersAt_call hc hnumber hcall

/-! ### Two sources, and an observer on the second -/

def audited : Fleet := ((fresh Verifier.shipped 1 [unlicensed, unlicensed]).observe 1 "audit" none).2

theorem placed_audited : audited.Placed 0 none where
  numbered := by
    intro s hs
    rcases List.mem_cons.mp hs with rfl | hsecond
    · exact Source.numbered_start unlicensed
    · rw [List.mem_singleton.mp hsecond]
      exact (Source.numbered_start unlicensed).subscribe _
  remembered := ⟨.fresh Verifier.shipped, rfl, rfl⟩
  own_home := by
    intro source id hplace
    cases hplace
  own_away := by
    intro source _
    match source with
    | 0 => rfl
    | 1 => rfl
    | source + 2 => rfl

/-- Started, started again, closed, and started on the other source: each time the node is where it
was started last, and the observer stays subscribed. -/
theorem moved_iff_atHome_audited :
    audited.Placed 0 none ∧
      Moved audited (audited.run 0 [.start 1, .start 1, .close 1, .start 0]) 0 (some 0) := by
  refine ⟨placed_audited, ?_⟩
  have hrange : ∀ call ∈ [Call.start 1, .start 1, .close 1, .start 0],
      call.source < audited.sources.length := by decide
  obtain ⟨hmoved, -⟩ := moved_iff_atHome audited 0 placed_audited _ hrange
  exact hmoved.mpr ⟨.inl rfl, .inr rfl, .inr rfl, .inl rfl, trivial⟩ _ List.prefix_rfl

/-- Started on the second source, the node stays on the first, and the observer is gone.  Both
sources count from one, so the node's number on the first is the observer's on the second. -/
theorem start_elsewhere_drops_observer :
    audited.Placed 0 none ∧ audited.othersAt 0 1 = [(1, .observer "audit" none)] ∧
      (audited.run 0 [.start 0, .start 1]).ownAt 0 0 = [(1, .node 0)] ∧
      (audited.run 0 [.start 0, .start 1]).othersAt 0 1 = [] ∧
      ¬ Moved audited (audited.run 0 [.start 0, .start 1]) 0 (some 1) := by
  refine ⟨placed_audited, rfl, rfl, rfl, ?_⟩
  intro hmoved
  cases hmoved.once 0

end Fleet

end ClusterLicense
