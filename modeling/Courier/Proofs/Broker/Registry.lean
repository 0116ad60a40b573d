import Courier.Proofs.Broker.Listings
import Mathlib.Data.List.Induction

/-! # The registry of topics

Consumers are subscribed to topics, topics are cleared, and events are published
to whoever is listed at the time, in any order; meanwhile the consumers go on with
their own work. A topic lists those that were subscribed to it since it was last
cleared, each once. So every one of them is offered an event once, and whether it
takes the event is a matter between the two.
-/

namespace Courier

/-- The consumer takes the event when it is offered. -/
def Consumer.accepts (k : Consumer) (e : Event) : Bool :=
  (k.offer e).2.isOk

theorem Consumer.accepts_eq_queueHasRoom (k : Consumer) (e : Event) :
    k.accepts e = k.queueHasRoom := by
  unfold accepts offer
  split
  next hroom => exact hroom.symm
  next hfull => exact (Bool.eq_false_iff.mpr hfull).symm

theorem Consumer.queue_offer (k : Consumer) (e : Event) :
    (k.offer e).1.queue = k.queue ++ if k.queueHasRoom then [e] else [] := by
  unfold offer
  split <;> simp

namespace Broker

/-- What is done to a broker, or happens to one of its consumers meanwhile. -/
inductive Operation where
  | subscribe (t : Topic) (c : Nat)
  | unsubscribeAll (t : Topic)
  | publish (t : Topic) (e : Event)
  | act (c : Nat) (a : Consumer.Action)

def perform (b : Broker) : Operation → Broker
  | .subscribe t c => (b.subscribe t c).1
  | .unsubscribeAll t => (b.unsubscribeAll t).1
  | .publish t e => (b.publish t e).1
  | .act c a => (b.act? c a).getD b

def run (b : Broker) (operations : List Operation) : Broker :=
  operations.foldl perform b

/-- A broker to which nobody was subscribed yet. -/
def unsubscribed (consumers : List Consumer) (metrics : Metrics) : Broker :=
  ⟨consumers, Table.empty, metrics⟩

/-- The consumer was subscribed to the topic, and the topic was not cleared
afterwards. -/
def Subscribed (operations : List Operation) (t : Topic) (c : Nat) : Prop :=
  ∃ earlier later, operations = earlier ++ .subscribe t c :: later ∧ .unsubscribeAll t ∉ later

variable {b : Broker} {c i : Nat} {e : Event} {t : Topic} {operation : Operation}

/-! ## Who is listed -/

theorem subscribers_subscribe (b : Broker) (t t' : Topic) (c : Nat) :
    (b.subscribe t c).1.subscribers t' =
      if t' = t ∧ c ∉ b.subscribers t then b.subscribers t ++ [c] else b.subscribers t' := by
  unfold subscribe
  split
  next hold => simp [hold]
  next hnew =>
    rw [subscribers, Table.getD, Table.get?_insert]
    by_cases ht : t' = t
    · rw [if_pos ht, if_pos ⟨ht, hnew⟩]
      rfl
    · rw [if_neg ht, if_neg fun h => ht h.1]
      rfl

theorem subscribers_unsubscribeAll (b : Broker) (t t' : Topic) :
    (b.unsubscribeAll t).1.subscribers t' = if t' = t then [] else b.subscribers t' := by
  rw [unsubscribeAll, subscribers, Table.getD, Table.get?_erase]
  by_cases ht : t' = t <;> simp [ht, subscribers, Table.getD]

theorem subscribers_publish (b : Broker) (t t' : Topic) (e : Event) :
    (b.publish t e).1.subscribers t' = b.subscribers t' :=
  subscribers_eq_of_topics_eq (topics_offerAll b e (b.subscribers t)) t'

theorem topics_getD_act? (b : Broker) (c : Nat) (a : Consumer.Action) :
    ((b.act? c a).getD b).topics = b.topics := by
  cases hact : b.act? c a with
  | none => rfl
  | some after => exact topics_act? hact

theorem mem_subscribers_subscribe (b : Broker) (t t' : Topic) (c i : Nat) :
    i ∈ (b.subscribe t c).1.subscribers t' ↔ (t' = t ∧ i = c) ∨ i ∈ b.subscribers t' := by
  rw [subscribers_subscribe]
  split
  next hnew =>
    obtain ⟨rfl, hnew⟩ := hnew
    simp [or_comm]
  next hold =>
    simp only [not_and, not_not] at hold
    constructor
    · exact .inr
    · rintro (⟨rfl, rfl⟩ | hmem)
      · exact hold rfl
      · exact hmem

theorem mem_subscribers_perform (b : Broker) (operation : Operation) (t : Topic) (c : Nat) :
    c ∈ (b.perform operation).subscribers t ↔
      operation = .subscribe t c ∨ (c ∈ b.subscribers t ∧ operation ≠ .unsubscribeAll t) := by
  cases operation with
  | subscribe t' c' =>
      simp [perform, mem_subscribers_subscribe, eq_comm]
  | unsubscribeAll t' =>
      rw [perform, subscribers_unsubscribeAll]
      by_cases ht : t = t' <;> simp [ht, eq_comm]
  | publish t' e => simp [perform, subscribers_publish]
  | act c' a =>
      rw [perform, subscribers_eq_of_topics_eq (topics_getD_act? b c' a)]
      simp

theorem subscribed_concat (operations : List Operation) (operation : Operation) (t : Topic)
    (c : Nat) :
    Subscribed (operations ++ [operation]) t c ↔
      operation = .subscribe t c ∨ (Subscribed operations t c ∧ operation ≠ .unsubscribeAll t) := by
  constructor
  · rintro ⟨earlier, later, hsplit, hkept⟩
    rcases List.eq_nil_or_concat later with rfl | ⟨middle, last, rfl⟩
    · exact .inl (List.singleton_inj.mp (List.append_inj' hsplit rfl).2)
    · rw [List.concat_eq_append] at hsplit hkept
      rw [← List.cons_append, ← List.append_assoc] at hsplit
      obtain ⟨hearlier, hlast⟩ := List.append_inj' hsplit rfl
      obtain rfl := List.singleton_inj.mp hlast
      simp only [List.mem_append, List.mem_singleton, not_or] at hkept
      exact .inr ⟨⟨earlier, middle, hearlier, hkept.1⟩, Ne.symm hkept.2⟩
  · rintro (rfl | ⟨⟨earlier, later, rfl, hkept⟩, hother⟩)
    · exact ⟨operations, [], rfl, List.not_mem_nil⟩
    · refine ⟨earlier, later ++ [operation], by simp, ?_⟩
      simp [hkept, hother.symm]

theorem run_concat (b : Broker) (operations : List Operation) (operation : Operation) :
    b.run (operations ++ [operation]) = (b.run operations).perform operation := by
  rw [run, List.foldl_append]
  rfl

/-- The history of subscriptions says who is listed. -/
theorem mem_subscribers_run_iff (consumers : List Consumer) (metrics : Metrics)
    (operations : List Operation) (t : Topic) (c : Nat) :
    c ∈ ((unsubscribed consumers metrics).run operations).subscribers t ↔
      Subscribed operations t c := by
  induction operations using List.reverseRecOn with
  | nil => simp [run, unsubscribed, subscribers, Table.getD, Subscribed]
  | append_singleton earlier operation ih =>
      rw [run_concat, mem_subscribers_perform, subscribed_concat, ih]

theorem Distinct.perform (hdistinct : b.Distinct) (operation : Operation) :
    (b.perform operation).Distinct := by
  cases operation with
  | subscribe t c => exact hdistinct.subscribe t c
  | unsubscribeAll t => exact hdistinct.unsubscribeAll t
  | publish t e => exact hdistinct.of_topics_eq (topics_offerAll b e (b.subscribers t))
  | act c a => exact hdistinct.of_topics_eq (topics_getD_act? b c a)

theorem distinct_run (consumers : List Consumer) (metrics : Metrics)
    (operations : List Operation) :
    ((unsubscribed consumers metrics).run operations).Distinct := by
  induction operations using List.reverseRecOn with
  | nil => exact fun t => List.nodup_nil
  | append_singleton earlier operation ih =>
      rw [run_concat]
      exact ih.perform operation

/-! ## The names of topics -/

theorem nodup_topicNames (b : Broker) : b.topicNames.Nodup := by
  apply (List.mergeSort_perm _ _).nodup_iff.mpr
  exact b.topics.nodup_keys.sublist (List.filter_sublist.map Prod.fst)

theorem mem_topicNames_iff : t ∈ b.topicNames ↔ b.subscribers t ≠ [] := by
  rw [topicNames, List.mem_mergeSort, List.mem_map]
  constructor
  · rintro ⟨⟨t, listed⟩, hused, rfl⟩
    obtain ⟨hentry, hlisted⟩ := List.mem_filter.mp hused
    rw [subscribers, Table.getD, Table.mem_entries_iff.mp hentry]
    simpa using hlisted
  · intro hlisted
    rw [subscribers, Table.getD] at hlisted
    cases hfound : b.topics.get? t with
    | none => simp [hfound] at hlisted
    | some listed =>
        refine ⟨(t, listed), List.mem_filter.mpr ⟨Table.mem_entries_iff.mpr hfound, ?_⟩, rfl⟩
        simpa [hfound] using hlisted

/-! ## Publishing -/

/-- The consumer at this place is there and takes the event. -/
def accepts (b : Broker) (e : Event) (i : Nat) : Bool :=
  (b.consumers[i]?).any (·.accepts e)

theorem offer_snd (b : Broker) (c : Nat) (e : Event) : (b.offer c e).2 = b.accepts e c := by
  simp only [offer, accepts, Consumer.accepts_eq_queueHasRoom]

/-- An offer is nothing to the other consumers. -/
theorem accepts_offer_of_ne (hother : i ≠ c) : (b.offer c e).1.accepts e i = b.accepts e i := by
  rw [accepts, consumers_offer, List.getElem?_modify_ne _ _ hother.symm]
  rfl

/-- Where nobody is named twice, the report counts those that took the event and
those that did not. -/
theorem report_offerAll {audience : List Nat} (hnodup : audience.Nodup) :
    (b.offerAll e audience).2 =
      ⟨audience.length, audience.countP (b.accepts e),
        audience.countP fun i => !b.accepts e i⟩ := by
  induction audience generalizing b with
  | nil => rfl
  | cons c rest ih =>
      obtain ⟨hnew, hrest⟩ := List.nodup_cons.mp hnodup
      have hsame : ∀ i ∈ rest, (b.offer c e).1.accepts e i = b.accepts e i := by
        intro i hmem
        apply accepts_offer_of_ne
        rintro rfl
        exact hnew hmem
      have htaken : rest.countP ((b.offer c e).1.accepts e) = rest.countP (b.accepts e) :=
        List.countP_congr fun i hmem => by rw [hsame i hmem]
      have hrefused : (rest.countP fun i => !(b.offer c e).1.accepts e i) =
          rest.countP fun i => !b.accepts e i :=
        List.countP_congr fun i hmem => by rw [hsame i hmem]
      simp only [offerAll, ih hrest, htaken, hrefused, offer_snd, PublishReport.add,
        List.length_cons, List.countP_cons, PublishReport.mk.injEq]
      cases b.accepts e c <;> simp [Nat.add_comm]

/-- What comes of publishing an event to a topic. -/
structure FansOut (b : Broker) (t : Topic) (e : Event) : Prop where
  subscribers : ∀ t', (b.publish t e).1.subscribers t' = b.subscribers t'
  /-- One offer to each listed consumer, and none to any other. -/
  offered : ∀ i, (b.publish t e).1.consumers[i]? =
    b.consumers[i]?.map fun k => if i ∈ b.subscribers t then (k.offer e).1 else k
  /-- Who had room has the event, whoever else had none. -/
  queued : ∀ i k k', b.consumers[i]? = some k → (b.publish t e).1.consumers[i]? = some k' →
    k'.queue = k.queue ++ if i ∈ b.subscribers t ∧ k.queueHasRoom then [e] else []
  accepts_iff : ∀ i k, b.consumers[i]? = some k →
    (b.accepts e i = true ↔ k.queue.length < k.config.queueCapacity)
  report : (b.publish t e).2 =
    ⟨(b.subscribers t).length, (b.subscribers t).countP (b.accepts e),
      (b.subscribers t).countP fun i => !b.accepts e i⟩
  shares : (b.publish t e).2.enqueued + (b.publish t e).2.dropped = (b.publish t e).2.subscribers

theorem Distinct.fansOut (hdistinct : b.Distinct) (t : Topic) (e : Event) : b.FansOut t e := by
  have hoffered (i : Nat) : (b.publish t e).1.consumers[i]? =
      b.consumers[i]?.map fun k => if i ∈ b.subscribers t then (k.offer e).1 else k := by
    rw [publish, getElem?_consumers_offerAll, (hdistinct t).count]
    split <;> rfl
  refine ⟨fun t' => b.subscribers_publish t t' e, hoffered, ?_, ?_, report_offerAll (hdistinct t), ?_⟩
  · intro i k k' hk hk'
    rw [hoffered, hk, Option.map_some, Option.some.injEq] at hk'
    subst hk'
    by_cases hi : i ∈ b.subscribers t <;> simp [hi, Consumer.queue_offer]
  · intro i k hk
    rw [accepts, hk, Option.any_some, Consumer.accepts_eq_queueHasRoom, Consumer.queueHasRoom,
      decide_eq_true_eq]
  · obtain ⟨hall, hshares⟩ := b.subscribers_offerAll e (b.subscribers t)
    exact hshares.trans hall.symm

/-! ## Every sequence of operations -/

/-- What comes of subscribing a consumer to a topic. -/
structure Subscribes (b : Broker) (t : Topic) (c : Nat) : Prop where
  answer_iff : (b.subscribe t c).2 = true ↔ c ∉ b.subscribers t
  subscribers : ∀ t', (b.subscribe t c).1.subscribers t' =
    if t' = t ∧ c ∉ b.subscribers t then b.subscribers t ++ [c] else b.subscribers t'
  consumers : (b.subscribe t c).1.consumers = b.consumers

/-- What comes of clearing a topic. -/
structure Clears (b : Broker) (t : Topic) : Prop where
  answer : (b.unsubscribeAll t).2 = (b.subscribers t).length
  subscribers : ∀ t', (b.unsubscribeAll t).1.subscribers t' =
    if t' = t then [] else b.subscribers t'
  consumers : (b.unsubscribeAll t).1.consumers = b.consumers

theorem subscribes (b : Broker) (t : Topic) (c : Nat) : b.Subscribes t c := by
  refine ⟨?_, fun t' => b.subscribers_subscribe t t' c, ?_⟩
  · unfold subscribe
    split <;> simp [*]
  · unfold subscribe
    split <;> rfl

theorem clears (b : Broker) (t : Topic) : b.Clears t :=
  ⟨rfl, b.subscribers_unsubscribeAll t, rfl⟩

/-- Whatever was done to a broker before: a topic lists those that were subscribed
to it since it was last cleared, each once; the answers and the names of topics say
what is listed; and an event that is published is offered once to each that is
listed, goes to those that have room for it, and is reported as it went. -/
theorem registry_and_fanOut_of_run (consumers : List Consumer) (metrics : Metrics)
    (operations : List Operation) :
    let b := (unsubscribed consumers metrics).run operations
    (b.Distinct ∧ ∀ t c, c ∈ b.subscribers t ↔ Subscribed operations t c) ∧
      (∀ t c, b.Subscribes t c) ∧ (∀ t, b.Clears t) ∧
      (b.topicNames.Nodup ∧ ∀ t, t ∈ b.topicNames ↔ b.subscribers t ≠ []) ∧
      ∀ t e, b.FansOut t e := by
  have hdistinct := distinct_run consumers metrics operations
  exact ⟨⟨hdistinct, mem_subscribers_run_iff consumers metrics operations⟩, subscribes _, clears _,
    ⟨nodup_topicNames _, fun _ => mem_topicNames_iff⟩, hdistinct.fansOut⟩

end Broker

end Courier
