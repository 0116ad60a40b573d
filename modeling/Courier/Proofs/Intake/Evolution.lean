import Courier.Proofs.Broker.Evolution
import Courier.Proofs.Broker.Listings
import Courier.Proofs.Intake.Desk

/-! # What a desk does to consumers

Requests and publishers only offer events, and the list of publications tells
whether they did; the signal is an action of its own. So what a run of a desk
can have done to its consumers is seen from its actions and from what it
published.
-/

namespace Courier

namespace Intake

/-- The signal reaches the tasks of a consumer. -/
def Action.isSignal : Action → Bool
  | .act _ .signal => true
  | _ => false

/-- A topic is cleared. -/
def Action.isClearing : Action → Bool
  | .unsubscribeAll _ => true
  | _ => false

/-- A consumer is listed under a topic. -/
def Action.isSubscription : Action → Bool
  | .subscribe _ _ => true
  | _ => false

variable {s : Intake} {r : Request} {now : Moment} {p : Progress} {after : Intake × Progress}
  {a : Action} {c : Nat}

/-- A stride does nothing to consumers but offer them what it publishes. -/
theorem Stride.evolves (hstride : Stride s r now p after) (t : Nat) :
    s.broker.Evolves (fun x => x.isOffer = true ∧ s.offersNext t p ≠ []) after.1.broker := by
  cases hstride with
  | publish =>
      apply Broker.evolves_offerAll
      intro haudience
      refine ⟨rfl, ?_⟩
      simpa [offersNext, announce] using haudience
  | ask =>
      apply Broker.Evolves.of_consumers_eq
      rw [admitOne_broker]
      split <;> rfl
  | _ => exact .of_consumers_eq rfl

/-- Others do to consumers what they are said to do. -/
theorem evolves_perform (hother : a.isSubmit = false) :
    s.broker.Evolves
      (fun x => (x = .signal → a.isSignal = true) ∧
        (x.isOffer = true → s.offersAround a ≠ []))
      (s.perform a).broker := by
  cases a with
  | submit => cases hother
  | addConsumer name config => exact Broker.evolves_addConsumer _ name config
  | subscribe t c =>
      apply Broker.Evolves.of_consumers_eq
      rw [perform, withBroker, Broker.subscribe]
      split <;> rfl
  | publish t e =>
      apply Broker.evolves_offerAll
      intro haudience
      refine ⟨fun hsignal => ?_, fun _ => ?_⟩
      · cases hsignal
      · simpa [offersAround, announce] using haudience
  | act c x =>
      rw [perform]
      cases hact : s.broker.act? c x with
      | none => exact .refl _ _
      | some b =>
          apply Broker.evolves_act? hact
          constructor
          · rintro rfl
            rfl
          · intro hoffer
            cases x <;> first | exact List.cons_ne_nil _ _ | cases hoffer
  | _ => exact .of_consumers_eq rfl

/-- Topics change where a consumer is listed or a topic is cleared. -/
theorem topics_perform (hother : a.isSubmit = false) (hlisting : a.isSubscription = false)
    (hkeeps : a.isClearing = false) : (s.perform a).broker.topics = s.broker.topics := by
  cases a with
  | submit => cases hother
  | subscribe => cases hlisting
  | unsubscribeAll => cases hkeeps
  | publish t e => exact Broker.topics_offerAll ..
  | act c x =>
      rw [perform]
      cases hact : s.broker.act? c x with
      | none => rfl
      | some b => exact Broker.topics_act? hact
  | _ => rfl

/-- A consumer stays listed until a topic is cleared. -/
theorem lists_perform (hother : a.isSubmit = false) (hkeeps : a.isClearing = false)
    (hlists : s.broker.Lists c) : (s.perform a).broker.Lists c := by
  cases a with
  | subscribe t c => exact hlists.subscribe t c
  | _ => exact hlists.of_topics_eq (topics_perform hother rfl hkeeps)

/-- A consumer comes to be listed only where one is listed. -/
theorem lists_of_perform (hother : a.isSubmit = false) (hlisting : a.isSubscription = false)
    (hlists : (s.perform a).broker.Lists c) : s.broker.Lists c := by
  cases a with
  | unsubscribeAll t => exact hlists.of_unsubscribeAll
  | _ => exact hlists.of_topics_eq (topics_perform hother hlisting rfl).symm

/-- A stride keeps what nothing that happens to a consumer takes away. -/
theorem Stride.each {P : Consumer → Prop} (hstride : Stride s r now p after)
    (hP : Consumer.IsInvariant P) (heach : s.broker.Each P) : after.1.broker.Each P := by
  cases hstride with
  | publish => exact heach.offerAll hP _ _
  | ask =>
      apply heach.of_consumers_eq
      rw [admitOne_broker]
      split <;> rfl
  | _ => exact heach

theorem each_perform {P : Consumer → Prop} (hother : a.isSubmit = false)
    (hP : Consumer.IsInvariant P) (heach : s.broker.Each P) : (s.perform a).broker.Each P := by
  cases a with
  | submit => cases hother
  | addConsumer name config => exact heach.addConsumer hP name config
  | subscribe t c =>
      apply heach.of_consumers_eq
      rw [perform, withBroker, Broker.subscribe]
      split <;> rfl
  | publish t e => exact heach.offerAll hP e _
  | act c x =>
      rw [perform]
      cases hact : s.broker.act? c x with
      | none => exact heach
      | some b => exact heach.act? hP hact
  | _ => exact heach

end Intake

namespace Desk

def Action.isSignal : Action → Bool
  | .around a _ => a.isSignal
  | _ => false

def Action.isClearing : Action → Bool
  | .around a _ => a.isClearing
  | _ => false

def Action.isSubscription : Action → Bool
  | .around a _ => a.isSubscription
  | _ => false

variable {d : Desk} {a : Action} {actions : List Action} {c : Nat}

/-- What was published stays known. -/
theorem published_perform (d : Desk) (a : Action) :
    d.published <+: (d.perform a).published := by
  cases a with
  | arrive => exact List.prefix_rfl
  | proceed t now =>
      rw [perform]
      split
      next => exact List.prefix_append ..
      next => exact List.prefix_rfl
  | around => exact List.prefix_append ..

theorem published_run (d : Desk) (actions : List Action) :
    d.published <+: (d.run actions).published := by
  induction actions generalizing d with
  | nil => exact List.prefix_rfl
  | cons a rest ih => exact (published_perform d a).trans (ih _)

theorem evolves_perform (d : Desk) (a : Action) :
    d.intake.broker.Evolves
      (fun x => (x = .signal → a.isSignal = true) ∧
        (x.isOffer = true → (d.perform a).published ≠ d.published))
      (d.perform a).intake.broker := by
  have hgrown {ps : List Publication} (hne : ps ≠ []) : d.published ++ ps ≠ d.published :=
    mt List.append_right_eq_self.mp hne
  cases a with
  | arrive => exact .refl _ _
  | proceed t now =>
      rw [perform]
      split
      next task htask =>
        obtain ⟨progress, hstride, -⟩ := stride_advance htask now
        apply (hstride.evolves t).mono
        rintro x ⟨hoffer, hpublished⟩
        refine ⟨?_, fun _ => hgrown hpublished⟩
        rintro rfl
        cases hoffer
      next => exact .refl _ _
  | around b hother =>
      apply (Intake.evolves_perform hother).mono
      rintro x ⟨hsignal, hoffer⟩
      exact ⟨hsignal, fun hx => hgrown (hoffer hx)⟩

/-- Without the signal consumers do not get it. -/
theorem evolves_run_of_quiet (hquiet : ∀ a ∈ actions, a.isSignal = false) :
    d.intake.broker.Evolves (· ≠ .signal) (d.run actions).intake.broker := by
  induction actions generalizing d with
  | nil => exact .refl _ _
  | cons a rest ih =>
      have hfirst : d.intake.broker.Evolves (· ≠ .signal) (d.perform a).intake.broker := by
        apply (evolves_perform d a).mono
        rintro x ⟨hsignal, -⟩ heq
        cases (hquiet a List.mem_cons_self).symm.trans (hsignal heq)
      exact hfirst.trans (ih fun b hmem => hquiet b (List.mem_cons_of_mem a hmem))

/-- Where nothing more was published, consumers were offered nothing. -/
theorem evolves_run_of_silent (hsilent : (d.run actions).published = d.published) :
    d.intake.broker.Evolves (fun x => x.isOffer = false) (d.run actions).intake.broker := by
  induction actions generalizing d with
  | nil => exact .refl _ _
  | cons a rest ih =>
      -- The list can only grow, so that it has not grown anywhere.
      have hfewer := (published_run (d.perform a) rest).length_le
      have hsame : (d.perform a).published = d.published :=
        ((published_perform d a).eq_of_length_le (hsilent ▸ hfewer)).symm
      have hfirst : d.intake.broker.Evolves (fun x => x.isOffer = false)
          (d.perform a).intake.broker := by
        apply (evolves_perform d a).mono
        rintro x ⟨-, hoffer⟩
        exact Bool.eq_false_iff.mpr fun hx => hoffer hx hsame
      exact hfirst.trans (ih (hsilent.trans hsame.symm))

theorem lists_perform (hkeeps : a.isClearing = false) (hlists : d.intake.broker.Lists c) :
    (d.perform a).intake.broker.Lists c := by
  cases a with
  | arrive => exact hlists
  | proceed t now =>
      rw [perform]
      split
      next task htask =>
        obtain ⟨progress, hstride, -⟩ := stride_advance htask now
        exact hlists.of_topics_eq hstride.topics_eq
      next => exact hlists
  | around b hother => exact Intake.lists_perform hother hkeeps hlists

theorem lists_run (hkeeps : ∀ a ∈ actions, a.isClearing = false)
    (hlists : d.intake.broker.Lists c) : (d.run actions).intake.broker.Lists c := by
  induction actions generalizing d with
  | nil => exact hlists
  | cons a rest ih =>
      apply ih fun b hmem => hkeeps b (List.mem_cons_of_mem a hmem)
      exact lists_perform (hkeeps a List.mem_cons_self) hlists

theorem lists_of_perform (hlisting : a.isSubscription = false)
    (hlists : (d.perform a).intake.broker.Lists c) : d.intake.broker.Lists c := by
  cases a with
  | arrive => exact hlists
  | proceed t now =>
      rw [perform] at hlists
      split at hlists
      next task htask =>
        obtain ⟨progress, hstride, -⟩ := stride_advance htask now
        exact hlists.of_topics_eq hstride.topics_eq.symm
      next => exact hlists
  | around b hother => exact Intake.lists_of_perform hother hlisting hlists

theorem lists_of_run (hlisting : ∀ a ∈ actions, a.isSubscription = false)
    (hlists : (d.run actions).intake.broker.Lists c) : d.intake.broker.Lists c := by
  induction actions generalizing d with
  | nil => exact hlists
  | cons a rest ih =>
      apply lists_of_perform (hlisting a List.mem_cons_self)
      exact ih (fun b hmem => hlisting b (List.mem_cons_of_mem a hmem)) hlists

/-- What holds of new consumers and lasts holds of all. -/
theorem each_run {P : Consumer → Prop} (hP : Consumer.IsInvariant P)
    (heach : d.intake.broker.Each P) : (d.run actions).intake.broker.Each P := by
  apply run_induction (P := fun d => d.intake.broker.Each P) heach
  intro before a hbefore
  apply perform_induction (P := fun d => d.intake.broker.Each P) hbefore
  · exact fun _ => hbefore
  · intro t task now htask
    obtain ⟨progress, hstride, -⟩ := stride_advance htask now
    exact hstride.each hP hbefore
  · exact fun b hother => Intake.each_perform hother hP hbefore

end Desk

end Courier
