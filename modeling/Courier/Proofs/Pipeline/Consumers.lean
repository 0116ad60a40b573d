import Mathlib.Algebra.Ring.Nat
import Courier.Pipeline
import Courier.Proofs.Intake.Evolution

/-! # The consumers of a pipeline

A pipeline is created with a consumer for each sender, listed under the topic of
its channel. They are the first consumers of its broker and stay so, whoever
comes later; its totals are about them.
-/

namespace Courier

namespace Stats

/-- What is added up for two consumers is added up for all. -/
theorem sum_eq (f : Stats → Nat) (hzero : f zero = 0) (hadd : ∀ a b, f (a.add b) = f a + f b)
    (parts : List Stats) : f (sum parts) = (parts.map f).sum := by
  have hfold (start : Stats) : f (parts.foldl add start) = f start + (parts.map f).sum := by
    induction parts generalizing start with
    | nil => rfl
    | cons first rest ih =>
        rw [List.foldl_cons, ih, hadd, List.map_cons, List.sum_cons, Nat.add_assoc]
  rw [sum, hfold, hzero, Nat.zero_add]

end Stats

namespace Broker

/-- The statistics of the first `n` consumers together. -/
def totals (b : Broker) (n : Nat) : Stats :=
  Stats.sum ((b.consumers.take n).map (·.stats))

/-- A total is zero where every part is. -/
theorem totals_eq_zero_iff (b : Broker) (n : Nat) (f : Stats → Nat) (hzero : f .zero = 0)
    (hadd : ∀ a b, f (a.add b) = f a + f b) :
    f (b.totals n) = 0 ↔ ∀ i k, i < n → b.consumers[i]? = some k → f k.stats = 0 := by
  rw [totals, Stats.sum_eq f hzero hadd, List.sum_eq_zero_iff_forall_eq_nat]
  simp only [List.mem_map, List.map_map, Function.comp_apply, forall_exists_index, and_imp]
  constructor
  · intro hall i k hi hk
    have hmem : k ∈ b.consumers.take n :=
      List.mem_of_getElem? ((List.getElem?_take_of_lt hi).trans hk)
    exact hall _ k hmem rfl
  · rintro hall _ k hmem rfl
    obtain ⟨i, hk⟩ := List.mem_iff_getElem?.mp hmem
    rw [List.getElem?_take] at hk
    split at hk
    next hi => exact hall i k hi hk
    next => cases hk

end Broker

namespace Pipeline

/-- The pipeline as a desk that no request has come to. -/
def desk (p : Pipeline) : Desk :=
  ⟨p.world.intake, [], []⟩

/-- The pipeline with what its intake has become. -/
def withIntake (p : Pipeline) (s : Intake) : Pipeline :=
  { p with world := { p.world with intake := s } }

theorem totals_stats (p : Pipeline) :
    p.stats.totals = p.world.broker.totals p.world.broker.consumers.length := by
  rw [Broker.totals, List.take_length]
  rfl

/-- The consumer that is there for a sender. -/
def consumerFor (s : PipelineSettings) (t : Transport) : Consumer :=
  .create t.channel.topic (s.consumerConfig t.channel.topic)

variable {s : PipelineSettings} {w : World} {t : Transport} {senders : List Transport} {i : Nat}

theorem consumers_addSender :
    (addSender s w t).broker.consumers = w.broker.consumers ++ [consumerFor s t] := by
  unfold addSender Broker.subscribe
  dsimp only
  split <;> rfl

/-- The new consumer is listed. -/
theorem lists_addSender_new : (addSender s w t).broker.Lists w.broker.consumers.length :=
  Broker.lists_subscribe ..

theorem lists_addSender (hlists : w.broker.Lists i) : (addSender s w t).broker.Lists i := by
  have hadded : (w.addConsumer t.channel.topic (s.consumerConfig t.channel.topic)
      (.delivering t)).broker.Lists i := hlists.of_topics_eq rfl
  exact hadded.subscribe _ _

theorem consumers_foldl_addSender :
    (senders.foldl (addSender s) w).broker.consumers =
      w.broker.consumers ++ senders.map (consumerFor s) := by
  induction senders generalizing w with
  | nil => exact (List.append_nil _).symm
  | cons t rest ih =>
      rw [List.foldl_cons, ih, consumers_addSender, List.append_assoc]
      rfl

theorem lists_foldl_addSender (hlists : ∀ i < w.broker.consumers.length, w.broker.Lists i) :
    ∀ i < w.broker.consumers.length + senders.length,
      (senders.foldl (addSender s) w).broker.Lists i := by
  induction senders generalizing w with
  | nil => exact hlists
  | cons t rest ih =>
      have hfirst : ∀ i < (addSender s w t).broker.consumers.length,
          (addSender s w t).broker.Lists i := by
        intro i hi
        rw [consumers_addSender, List.length_append, List.length_singleton] at hi
        obtain hless | rfl := Nat.lt_succ_iff_lt_or_eq.mp hi
        · exact lists_addSender (hlists i hless)
        · exact lists_addSender_new
      have hrest := ih hfirst
      rw [consumers_addSender, List.length_append, List.length_singleton, Nat.add_assoc,
        Nat.add_comm 1] at hrest
      exact hrest

/-- Only consumers that were added are listed. -/
theorem lt_of_lists_foldl_addSender
    (hpresent : ∀ i, w.broker.Lists i → i < w.broker.consumers.length) :
    ∀ i, (senders.foldl (addSender s) w).broker.Lists i →
      i < w.broker.consumers.length + senders.length := by
  induction senders generalizing w with
  | nil => exact hpresent
  | cons t rest ih =>
      have hlength : (addSender s w t).broker.consumers.length = w.broker.consumers.length + 1 := by
        rw [consumers_addSender, List.length_append, List.length_singleton]
      have hrest := ih (w := addSender s w t) (by
        intro i hlists
        rw [hlength]
        rcases Broker.Lists.of_subscribe hlists with rfl | hold
        · exact Nat.lt_succ_self _
        · exact Nat.lt_succ_of_lt (hpresent i hold))
      rw [hlength, Nat.add_assoc, Nat.add_comm 1] at hrest
      exact hrest

variable {settings : Settings} {metrics : Metrics} {moment : Moment} {chance : StdGen}

/-- A new pipeline has a new consumer for each sender. -/
theorem consumers_create :
    (create settings senders metrics moment chance).world.broker.consumers =
      senders.map (consumerFor settings.pipeline) :=
  consumers_foldl_addSender

theorem lt_of_lists_create
    (hlists : (create settings senders metrics moment chance).world.broker.Lists i) :
    i < senders.length := by
  refine Nat.lt_of_lt_of_eq (lt_of_lists_foldl_addSender ?_ i hlists) (Nat.zero_add _)
  rintro j ⟨t, hmem⟩
  cases hmem

theorem lists_create (hi : i < senders.length) :
    (create settings senders metrics moment chance).world.broker.Lists i := by
  refine lists_foldl_addSender ?_ i (Nat.lt_of_lt_of_eq hi (Nat.zero_add _).symm)
  intro j hj
  cases hj

end Pipeline

end Courier
