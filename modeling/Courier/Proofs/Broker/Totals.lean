import Courier.Proofs.Broker.Evolution

/-! # What consumers count together

A report of the broker says how many subscribers accepted an event and how many
did not. The consumers say the same: what they have accepted, be it settled or
outstanding, grows by the first number and what they have refused by the second,
and nothing else that happens to a consumer changes either.
-/

namespace Courier

/-- Events that came into the live queue, whatever became of them. -/
def Stats.accepted (s : Stats) : Nat :=
  s.settled + s.outstanding

namespace Consumer

variable {c c' : Consumer} {a : Action} {moved : List Counter}

theorem accepted_offer (k : Consumer) (e : Event) :
    (k.offer e).1.stats.accepted = k.stats.accepted + if k.queueHasRoom then 1 else 0 := by
  unfold offer
  split <;> rfl

theorem dropped_offer (k : Consumer) (e : Event) :
    (k.offer e).1.stats.dropped = k.stats.dropped + if k.queueHasRoom then 0 else 1 := by
  unfold offer
  split <;> rfl

/-- What the tasks of a consumer do changes neither what it has accepted nor what
it has refused. -/
theorem Step.accepted_and_dropped_eq (hstep : Step c a c' moved) (hbalanced : c.Balanced)
    (hoffer : a.isOffer = false) :
    c'.stats.accepted = c.stats.accepted ∧ c'.stats.dropped = c.stats.dropped := by
  have hadmitted : c.admitted? a = none := by
    cases a <;> first | rfl | cases hoffer
  have haccepted := hstep.settled_add_outstanding hbalanced
  rw [hadmitted] at haccepted
  refine ⟨haccepted, ?_⟩
  cases hstep with
  | accept | refuse => cases hoffer
  | _ => rfl

end Consumer

namespace Broker

/-- What all consumers have counted together. -/
def sumOf (f : Stats → Nat) (b : Broker) : Nat :=
  (b.consumers.map fun k => f k.stats).sum

variable {b b' : Broker} {c : Nat} {k : Consumer}

theorem length_consumers_offer (b : Broker) (c : Nat) (e : Event) :
    (b.offer c e).1.consumers.length = b.consumers.length := by
  rw [consumers_offer, List.length_modify]

theorem length_consumers_offerAll (b : Broker) (e : Event) (audience : List Nat) :
    (b.offerAll e audience).1.consumers.length = b.consumers.length := by
  induction audience generalizing b with
  | nil => rfl
  | cons c rest ih => exact (ih _).trans (length_consumers_offer b c e)

theorem sumOf_offer (f : Stats → Nat) (hk : b.consumers[c]? = some k) (e : Event) :
    (b.offer c e).1.sumOf f + f k.stats = b.sumOf f + f (k.offer e).1.stats := by
  rw [sumOf, consumers_offer]
  exact Consumer.sum_map_modify (fun k => f k.stats) _ hk

/-- What the tasks of a consumer do changes neither what was accepted nor what
was refused. -/
theorem sumOf_act? {a : Consumer.Action} (hact : b.act? c a = some b')
    (heach : b.Each Consumer.Balanced) (hoffer : a.isOffer = false) :
    b'.sumOf Stats.accepted = b.sumOf Stats.accepted ∧
      b'.sumOf Stats.dropped = b.sumOf Stats.dropped := by
  obtain ⟨k, k', moved, hk, hstep, hconsumers⟩ := exists_step_of_act? hact
  obtain ⟨haccepted, hdropped⟩ := hstep.accepted_and_dropped_eq (heach.of_getElem? hk) hoffer
  have hset (f : Stats → Nat) : b'.sumOf f + f k.stats = b.sumOf f + f k'.stats := by
    rw [sumOf, hconsumers]
    exact Consumer.sum_map_set (fun k => f k.stats) k' hk
  have haccepteds := hset Stats.accepted
  have hdroppeds := hset Stats.dropped
  omega

/-- The report counts what the consumers count. -/
theorem sumOf_offerAll (b : Broker) (e : Event) (audience : List Nat)
    (hpresent : ∀ c ∈ audience, c < b.consumers.length) :
    (b.offerAll e audience).1.sumOf Stats.accepted =
        b.sumOf Stats.accepted + (b.offerAll e audience).2.enqueued ∧
      (b.offerAll e audience).1.sumOf Stats.dropped =
        b.sumOf Stats.dropped + (b.offerAll e audience).2.dropped := by
  induction audience generalizing b with
  | nil => exact ⟨rfl, rfl⟩
  | cons c rest ih =>
      obtain ⟨hc, hrest⟩ := List.forall_mem_cons.mp hpresent
      have hk := List.getElem?_eq_getElem hc
      have haccepted := sumOf_offer Stats.accepted hk e
      have hdropped := sumOf_offer Stats.dropped hk e
      rw [Consumer.accepted_offer] at haccepted
      rw [Consumer.dropped_offer] at hdropped
      have hroom : (b.offer c e).2 = (b.consumers[c]).queueHasRoom := by
        rw [offer, hk, Option.any_some]
      obtain ⟨hacceptedRest, hdroppedRest⟩ :=
        ih (b.offer c e).1 (by rwa [length_consumers_offer])
      simp only [offerAll, PublishReport.add, hacceptedRest, hdroppedRest, hroom]
      omega

end Broker

end Courier
