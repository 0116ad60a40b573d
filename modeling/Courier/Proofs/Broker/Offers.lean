import Courier.Broker

/-! # What publishing does to each consumer

Publishing offers the event to one subscriber after the other. To each consumer
it is as if only its own offers had been made, and neither the subscriptions
nor what the tasks of consumers do has a part in it.
-/

namespace Courier

/-- The consumer after these events were offered to it one after the other. -/
def Consumer.offerEach (k : Consumer) (events : List Event) : Consumer :=
  events.foldl (fun k e => (k.offer e).1) k

theorem Consumer.offerEach_append (k : Consumer) (first second : List Event) :
    k.offerEach (first ++ second) = (k.offerEach first).offerEach second :=
  List.foldl_append

namespace Broker

/-- The consumers of a topic, each once. -/
def Distinct (b : Broker) : Prop :=
  ∀ t, (b.subscribers t).Nodup

/-- A broker without consumers. -/
def empty (metrics : Metrics) : Broker :=
  ⟨[], Table.empty, metrics⟩

variable {b : Broker} {c i : Nat} {e : Event} {t : Topic}

theorem exists_act?_offer {k : Consumer} (hconsumer : b.consumers[c]? = some k) (e : Event) :
    ∃ metrics, b.act? c (.offer e) =
      some { b with consumers := b.consumers.set c (k.offer e).1, metrics := metrics } := by
  rw [act?, hconsumer]
  cases haccepted : k.offer e with
  | mk after result =>
      cases result <;> simp [Consumer.step?, haccepted]

theorem topics_offer (b : Broker) (c : Nat) (e : Event) : (b.offer c e).1.topics = b.topics := by
  rw [offer]
  cases hconsumer : b.consumers[c]? with
  | none => rw [act?, hconsumer]; rfl
  | some k =>
      obtain ⟨metrics, hact⟩ := exists_act?_offer hconsumer e
      rw [hact]
      rfl

theorem consumers_offer (b : Broker) (c : Nat) (e : Event) :
    (b.offer c e).1.consumers = b.consumers.modify c fun k => (k.offer e).1 := by
  rw [offer]
  cases hconsumer : b.consumers[c]? with
  | none =>
      have hlength := List.getElem?_eq_none_iff.mp hconsumer
      rw [act?, hconsumer, List.modify_eq_self hlength]
      rfl
  | some k =>
      obtain ⟨metrics, hact⟩ := exists_act?_offer hconsumer e
      rw [hact, List.modify_eq_set, hconsumer]
      rfl

theorem topics_offerAll (b : Broker) (e : Event) (audience : List Nat) :
    (b.offerAll e audience).1.topics = b.topics := by
  induction audience generalizing b with
  | nil => rfl
  | cons c rest ih => exact (ih _).trans (topics_offer b c e)

/-- A consumer that is named several times is offered the event as often. -/
theorem getElem?_consumers_offerAll (b : Broker) (e : Event) (audience : List Nat) (i : Nat) :
    (b.offerAll e audience).1.consumers[i]? =
      b.consumers[i]?.map (·.offerEach (List.replicate (audience.count i) e)) := by
  induction audience generalizing b with
  | nil => exact Option.map_id'.symm
  | cons c rest ih =>
      have hrest : (b.offerAll e (c :: rest)).1 = ((b.offer c e).1.offerAll e rest).1 := rfl
      rw [hrest, ih, consumers_offer, List.getElem?_modify, List.count_cons]
      by_cases hc : c = i
      · subst hc
        simp [List.replicate_succ, Function.comp_def, Consumer.offerEach]
      · simp [hc]

theorem subscribers_offerAll (b : Broker) (e : Event) (audience : List Nat) :
    (b.offerAll e audience).2.subscribers = audience.length ∧
      (b.offerAll e audience).2.enqueued + (b.offerAll e audience).2.dropped = audience.length := by
  induction audience generalizing b with
  | nil => exact ⟨rfl, rfl⟩
  | cons c rest ih =>
      obtain ⟨hsubscribers, hshares⟩ := ih (b.offer c e).1
      simp only [offerAll, PublishReport.add, List.length_cons]
      constructor
      · omega
      · split <;> omega

/-! ## Subscriptions -/

theorem subscribers_eq_of_topics_eq {b' : Broker} (htopics : b'.topics = b.topics) (t : Topic) :
    b'.subscribers t = b.subscribers t := by
  rw [subscribers, htopics, subscribers]

theorem Distinct.of_topics_eq {b' : Broker} (hdistinct : b.Distinct)
    (htopics : b'.topics = b.topics) : b'.Distinct := by
  intro t
  rw [subscribers_eq_of_topics_eq htopics]
  exact hdistinct t

theorem Distinct.subscribe (hdistinct : b.Distinct) (t : Topic) (c : Nat) :
    (b.subscribe t c).1.Distinct := by
  unfold Broker.subscribe
  split
  next => exact hdistinct
  next hnew =>
    intro t'
    rw [subscribers, Table.getD, Table.get?_insert]
    split
    next =>
      have hother : ∀ a ∈ b.subscribers t, ∀ a' ∈ [c], a ≠ a' := by
        intro a ha a' ha' heq
        rw [heq, List.mem_singleton.mp ha'] at ha
        exact hnew ha
      exact List.nodup_append.mpr ⟨hdistinct t, List.pairwise_singleton _ c, hother⟩
    next => exact hdistinct t'

theorem Distinct.unsubscribeAll (hdistinct : b.Distinct) (t : Topic) :
    (b.unsubscribeAll t).1.Distinct := by
  intro t'
  rw [Broker.unsubscribeAll, subscribers, Table.getD, Table.get?_erase]
  split
  next => exact List.nodup_nil
  next => exact hdistinct t'

theorem topics_act? {b' : Broker} {a : Consumer.Action} (hact : b.act? c a = some b') :
    b'.topics = b.topics := by
  unfold act? at hact
  obtain ⟨k, _, hstep⟩ := Option.bind_eq_some_iff.mp hact
  obtain ⟨after, _, heq⟩ := Option.bind_eq_some_iff.mp hstep
  cases heq
  rfl

end Broker

end Courier
