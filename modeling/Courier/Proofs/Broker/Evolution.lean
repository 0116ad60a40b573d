import Courier.Proofs.Broker.Publications
import Courier.Proofs.Consumer.Quiescence

/-! # How consumers go on

Whatever happens at a broker, each of its consumers goes on by actions of its
own. It is enough to know which actions these can be: without the signal nothing
is given up, and without an offer a consumer with nothing outstanding stays as
idle as it is.
-/

namespace Courier

namespace Consumer

/-- The consumer becomes the other by actions that are allowed. -/
def GoesOn (allowed : Action → Prop) (k k' : Consumer) : Prop :=
  ∃ actions, k.run? actions = some k' ∧ ∀ a ∈ actions, allowed a

variable {allowed : Action → Prop} {k k' k'' : Consumer} {a : Action} {moved : List Counter}

theorem GoesOn.refl (allowed : Action → Prop) (k : Consumer) : k.GoesOn allowed k :=
  ⟨[], rfl, List.forall_mem_nil _⟩

theorem GoesOn.trans (hfirst : k.GoesOn allowed k') (hsecond : k'.GoesOn allowed k'') :
    k.GoesOn allowed k'' := by
  obtain ⟨first, hfirst, hallowed⟩ := hfirst
  obtain ⟨second, hsecond, hallowed'⟩ := hsecond
  refine ⟨first ++ second, ?_, List.forall_mem_append.mpr ⟨hallowed, hallowed'⟩⟩
  rw [run?_append, hfirst, Option.bind_some, hsecond]

theorem GoesOn.mono {more : Action → Prop} (h : k.GoesOn allowed k')
    (hmore : ∀ a, allowed a → more a) : k.GoesOn more k' := by
  obtain ⟨actions, hrun, hallowed⟩ := h
  exact ⟨actions, hrun, fun a hmem => hmore a (hallowed a hmem)⟩

theorem Step.goesOn (hstep : Step k a k' moved) (hallowed : allowed a) : k.GoesOn allowed k' :=
  ⟨[a], run?_cons hstep [], List.forall_mem_singleton.mpr hallowed⟩

theorem goesOn_offerEach (events : List Event) (hallowed : ∀ e ∈ events, allowed (.offer e)) :
    k.GoesOn allowed (k.offerEach events) := by
  induction events generalizing k with
  | nil => exact .refl allowed k
  | cons e rest ih =>
      obtain ⟨moved, hstep⟩ := exists_step_offer k e
      have hfirst := hstep.goesOn (hallowed e List.mem_cons_self)
      exact hfirst.trans (ih fun e' hmem => hallowed e' (List.mem_cons_of_mem e hmem))

/-- New consumers have the property, and nothing that happens to a consumer takes
it away. -/
structure IsInvariant (P : Consumer → Prop) : Prop where
  create : ∀ name config, P (Consumer.create name config)
  step : ∀ {k a k' moved}, P k → Step k a k' moved → P k'

theorem isInvariant_balanced : IsInvariant Balanced where
  create := create_balanced
  step hbalanced hstep := hstep.balanced hbalanced

theorem IsInvariant.goesOn {P : Consumer → Prop} (h : IsInvariant P) (hgoes : k.GoesOn allowed k')
    (hk : P k) : P k' := by
  obtain ⟨actions, hrun, -⟩ := hgoes
  exact run?_induction hrun hk fun _ _ _ _ _ hbefore hstep => h.step hbefore hstep

/-- A consumer that was not told to stop has given up nothing. -/
theorem GoesOn.abandoned_eq_zero {name : String} {config : ConsumerConfig}
    (h : (create name config).GoesOn (· ≠ .signal) k) : k.stats.abandoned = 0 := by
  obtain ⟨actions, hrun, hquiet⟩ := h
  exact abandoned_run? hrun (fun hmem => hquiet _ hmem rfl) (create_unsignalled name config)

theorem GoesOn.balanced {name : String} {config : ConsumerConfig}
    (h : (create name config).GoesOn allowed k) : k.Balanced :=
  isInvariant_balanced.goesOn h (create_balanced name config)

/-- As long as nothing is offered, an idle consumer stays as it is. -/
theorem GoesOn.unmoved (h : k.GoesOn (fun a => a.isOffer = false) k') (hbalanced : k.Balanced)
    (hidle : k.isIdle = true) : k.Unmoved k' := by
  obtain ⟨actions, hrun, hsilent⟩ := h
  exact unmoved_run? hrun hbalanced hidle hsilent

end Consumer

namespace Broker

/-- The consumers of one broker have gone on to those of the other, by actions
that are allowed; others may have come. -/
def Evolves (allowed : Consumer.Action → Prop) (b b' : Broker) : Prop :=
  ∀ (i : Nat) (k : Consumer), b.consumers[i]? = some k →
    ∃ k', b'.consumers[i]? = some k' ∧ k.GoesOn allowed k'

variable {allowed : Consumer.Action → Prop} {b b' b'' : Broker}

theorem Evolves.of_consumers_eq (hconsumers : b'.consumers = b.consumers) :
    b.Evolves allowed b' := by
  intro i k hk
  exact ⟨k, hconsumers ▸ hk, .refl allowed k⟩

theorem Evolves.refl (allowed : Consumer.Action → Prop) (b : Broker) : b.Evolves allowed b :=
  .of_consumers_eq rfl

theorem Evolves.trans (hfirst : b.Evolves allowed b') (hsecond : b'.Evolves allowed b'') :
    b.Evolves allowed b'' := by
  intro i k hk
  obtain ⟨k', hk', hgoes⟩ := hfirst i k hk
  obtain ⟨k'', hk'', hgoes'⟩ := hsecond i k' hk'
  exact ⟨k'', hk'', hgoes.trans hgoes'⟩

theorem Evolves.mono {more : Consumer.Action → Prop} (h : b.Evolves allowed b')
    (hmore : ∀ a, allowed a → more a) : b.Evolves more b' := by
  intro i k hk
  obtain ⟨k', hk', hgoes⟩ := h i k hk
  exact ⟨k', hk', hgoes.mono hmore⟩

theorem evolves_act? {c : Nat} {a : Consumer.Action} (hact : b.act? c a = some b')
    (hallowed : allowed a) : b.Evolves allowed b' := by
  obtain ⟨before, after, moved, hbefore, hstep, hconsumers⟩ := exists_step_of_act? hact
  intro i k hk
  rw [hconsumers]
  by_cases hi : c = i
  · subst hi
    cases hbefore.symm.trans hk
    refine ⟨after, ?_, hstep.goesOn hallowed⟩
    exact List.getElem?_set_self (List.getElem?_eq_some_iff.mp hk).1
  · exact ⟨k, (List.getElem?_set_ne hi).trans hk, .refl allowed k⟩

theorem evolves_offerAll (b : Broker) (e : Event) (audience : List Nat)
    (hallowed : audience ≠ [] → allowed (.offer e)) :
    b.Evolves allowed (b.offerAll e audience).1 := by
  intro i k hk
  refine ⟨_, by rw [getElem?_consumers_offerAll, hk, Option.map_some], ?_⟩
  apply Consumer.goesOn_offerEach
  intro e' hmem
  obtain ⟨hcount, rfl⟩ := List.mem_replicate.mp hmem
  exact hallowed (List.ne_nil_of_mem (List.count_pos_iff.mp (Nat.pos_of_ne_zero hcount)))

theorem evolves_addConsumer (b : Broker) (name : String) (config : ConsumerConfig) :
    b.Evolves allowed { b with consumers := b.consumers ++ [.create name config] } := by
  intro i k hk
  have hlength := (List.getElem?_eq_some_iff.mp hk).1
  exact ⟨k, (List.getElem?_append_left hlength).trans hk, .refl allowed k⟩

/-! ## What holds of every consumer -/

/-- All consumers have the property. -/
def Each (P : Consumer → Prop) (b : Broker) : Prop :=
  ∀ k ∈ b.consumers, P k

variable {P : Consumer → Prop}

theorem Each.of_getElem? (heach : b.Each P) {i : Nat} {k : Consumer}
    (hk : b.consumers[i]? = some k) : P k :=
  heach k (List.mem_of_getElem? hk)

theorem Each.of_consumers_eq (heach : b.Each P) (hconsumers : b'.consumers = b.consumers) :
    b'.Each P := by
  rwa [Each, hconsumers]

theorem Each.act? (heach : b.Each P) (hP : Consumer.IsInvariant P) {c : Nat} {a : Consumer.Action}
    (hact : b.act? c a = some b') : b'.Each P := by
  obtain ⟨before, after, moved, hbefore, hstep, hconsumers⟩ := exists_step_of_act? hact
  intro k hmem
  rw [hconsumers] at hmem
  rcases List.mem_or_eq_of_mem_set hmem with hold | rfl
  · exact heach k hold
  · exact hP.step (heach.of_getElem? hbefore) hstep

theorem Each.offerAll (heach : b.Each P) (hP : Consumer.IsInvariant P) (e : Event)
    (audience : List Nat) : (b.offerAll e audience).1.Each P := by
  intro k' hmem
  obtain ⟨i, hk'⟩ := List.mem_iff_getElem?.mp hmem
  rw [getElem?_consumers_offerAll] at hk'
  obtain ⟨k, hk, rfl⟩ := Option.map_eq_some_iff.mp hk'
  have hgoes : k.GoesOn (fun _ => True) (k.offerEach (List.replicate (audience.count i) e)) :=
    Consumer.goesOn_offerEach _ fun _ _ => trivial
  exact hP.goesOn hgoes (heach.of_getElem? hk)

theorem Each.addConsumer (heach : b.Each P) (hP : Consumer.IsInvariant P) (name : String)
    (config : ConsumerConfig) :
    Each P { b with consumers := b.consumers ++ [.create name config] } := by
  intro k hmem
  rcases List.mem_append.mp hmem with hold | hnew
  · exact heach k hold
  · rw [List.mem_singleton.mp hnew]
    exact hP.create name config

end Broker

end Courier
