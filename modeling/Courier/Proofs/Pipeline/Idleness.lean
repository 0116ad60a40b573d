import Courier.Proofs.Pipeline.Consumers
import Courier.Proofs.World.Hosting

/-! # What it means to be found idle

A pipeline waits until its broker is idle, and that is about the consumers that
the broker lists. Of these nothing is pending then. A consumer whose topic was
cleared is out of sight, whatever it still has to do: its events are outstanding
where the pipeline was found idle, and are given up when it is shut down.
-/

namespace Courier

namespace Broker

/-- The first `n` consumers have nothing outstanding and have given up nothing. -/
def Clear (n : Nat) (b : Broker) : Prop :=
  (b.totals n).outstanding = 0 ∧ (b.totals n).abandoned = 0

/-- Of the first `n` consumers those that were listed have nothing outstanding
and have given up nothing; so it is for all of them just if it is for those that
were not. -/
structure Settled (n : Nat) (listed : Nat → Prop) (b : Broker) : Prop where
  ofListed : ∀ i k, i < n → listed i → b.consumers[i]? = some k →
    k.stats.outstanding = 0 ∧ k.stats.abandoned = 0
  outstanding : (b.totals n).outstanding = 0 ↔
    ∀ i k, i < n → ¬ listed i → b.consumers[i]? = some k → k.stats.outstanding = 0
  abandoned : (b.totals n).abandoned = 0 ↔
    ∀ i k, i < n → ¬ listed i → b.consumers[i]? = some k → k.stats.abandoned = 0

variable {b : Broker} {n : Nat} {listed : Nat → Prop}

/-- A total that is zero for the listed consumers is up to the others. -/
theorem totals_eq_zero_iff_of_listed (f : Stats → Nat) (hzero : f .zero = 0)
    (hadd : ∀ a b, f (a.add b) = f a + f b)
    (hlisted : ∀ i k, i < n → listed i → b.consumers[i]? = some k → f k.stats = 0) :
    f (b.totals n) = 0 ↔
      ∀ i k, i < n → ¬ listed i → b.consumers[i]? = some k → f k.stats = 0 := by
  rw [b.totals_eq_zero_iff n f hzero hadd]
  constructor
  · exact fun hall i k hi _ hk => hall i k hi hk
  · intro hrest i k hi hk
    by_cases hi' : listed i
    · exact hlisted i k hi hi' hk
    · exact hrest i k hi hi' hk

/-- What is said of those that were not listed completes what is known of the
others. -/
theorem Settled.of_listed
    (hlisted : ∀ i k, i < n → listed i → b.consumers[i]? = some k →
      k.stats.outstanding = 0 ∧ k.stats.abandoned = 0) : b.Settled n listed where
  ofListed := hlisted
  outstanding := totals_eq_zero_iff_of_listed Stats.outstanding rfl (fun _ _ => rfl)
    fun i k hi hi' hk => (hlisted i k hi hi' hk).1
  abandoned := totals_eq_zero_iff_of_listed Stats.abandoned rfl (fun _ _ => rfl)
    fun i k hi hi' hk => (hlisted i k hi hi' hk).2

/-- Where all are listed there is nothing left to be said. -/
theorem Settled.clear (h : b.Settled n listed) (hall : ∀ i < n, listed i) : b.Clear n :=
  ⟨h.outstanding.mpr fun i _ hi hout _ => absurd (hall i hi) hout,
    h.abandoned.mpr fun i _ hi hout _ => absurd (hall i hi) hout⟩

end Broker

namespace Pipeline

section

variable {settings : Settings} {senders : List Transport} {metrics : Metrics} {moment : Moment}
  {chance : StdGen} {d d' : Desk} {i : Nat}

/-- As long as nobody sends the signal, each consumer of a pipeline is there and
has given up nothing. -/
theorem exists_consumer_of_reaches
    (hreaches : (create settings senders metrics moment chance).desk.Reaches
      (fun a => a.isSignal = false) d) (hi : i < senders.length) :
    ∃ k, d.intake.broker.consumers[i]? = some k ∧ k.Balanced ∧ k.stats.abandoned = 0 := by
  obtain ⟨actions, hquiet, rfl⟩ := hreaches
  have hnew : (create settings senders metrics moment chance).desk.intake.broker.consumers[i]? =
      some (consumerFor settings.pipeline senders[i]) := by
    have hconsumers : (create settings senders metrics moment chance).desk.intake.broker.consumers =
        senders.map (consumerFor settings.pipeline) := consumers_create
    rw [hconsumers, List.getElem?_map, List.getElem?_eq_getElem hi, Option.map_some]
  obtain ⟨k, hk, hgoes⟩ := Desk.evolves_run_of_quiet hquiet i _ hnew
  exact ⟨k, hk, hgoes.balanced, hgoes.abandoned_eq_zero⟩

/-- Consumers stay listed as long as nobody clears a topic. -/
theorem lists_of_reaches
    (hreaches : (create settings senders metrics moment chance).desk.Reaches
      (fun a => a.isClearing = false) d)
    (hi : i < senders.length) : d.intake.broker.Lists i := by
  obtain ⟨actions, hkeeps, rfl⟩ := hreaches
  exact Desk.lists_run hkeeps (lists_create hi)

/-- Nothing is given up before the signal. -/
theorem abandoned_totals_of_reaches
    (hreaches : (create settings senders metrics moment chance).desk.Reaches
      (fun a => a.isSignal = false) d) : (d.intake.broker.totals senders.length).abandoned = 0 := by
  apply (Broker.totals_eq_zero_iff _ _ Stats.abandoned rfl fun _ _ => rfl).mpr
  intro i k hi hk
  obtain ⟨own, hown, -, hkept⟩ := exists_consumer_of_reaches hreaches hi
  cases hown.symm.trans hk
  exact hkept

/-- Where the broker is found idle the listed consumers are settled, and stay so
as long as nothing is published, even when the signal comes. -/
theorem settled_of_isIdle
    (hreaches : (create settings senders metrics moment chance).desk.Reaches
      (fun a => a.isSignal = false) d)
    (hidle : d.intake.broker.isIdle = true) (hrest : d.Reaches (fun _ => True) d')
    (hsilent : d'.published = d.published) :
    d'.intake.broker.Settled senders.length d.intake.broker.Lists := by
  apply Broker.Settled.of_listed
  intro i k' hi hlisted hk'
  obtain ⟨actions, -, rfl⟩ := hrest
  obtain ⟨k, hk, hbalanced, hkept⟩ := exists_consumer_of_reaches hreaches hi
  have hnone := Broker.isIdle_iff.mp hidle i k hlisted hk
  obtain ⟨after, hafter, hgoes⟩ := Desk.evolves_run_of_silent hsilent i k hk
  cases hafter.symm.trans hk'
  rw [(hgoes.unmoved hbalanced (decide_eq_true hnone)).stats]
  exact ⟨hnone, hkept⟩

/-! ## The pipeline itself -/

section Running

variable {p : Pipeline} {w w' : World} {tasks : List Task} {published : List Publication}

theorem settled_of_idle_world
    (hreaches : (create settings senders metrics moment chance).desk.Reaches
      (fun a => a.isSignal = false) (w.desk tasks published))
    (hidle : w.broker.isIdle = true)
    (hrest : (w.desk tasks published).Reaches (fun _ => True) (w'.desk tasks published)) :
    w'.broker.Settled senders.length w.broker.Lists :=
  settled_of_isIdle hreaches hidle hrest rfl

/-- What a pipeline has settled when it has waited with success. -/
theorem settled_waitIdle {limit : Nat}
    (hreaches : (create settings senders metrics moment chance).desk.Reaches
      (fun a => a.isSignal = false) (p.world.desk tasks published))
    (hsuccess : (p.waitIdle limit).2 = true) :
    (p.waitIdle limit).1.world.broker.Settled senders.length
      (World.system.waitIdle limit p.world).1.broker.Lists := by
  have hhosts := (World.hosts_system tasks published).mono fun _ ha =>
    (Desk.Action.eq_false_of_isQuiet ha).1
  have hidle : (World.system.waitIdle limit p.world).1.broker.isIdle = true :=
    World.system.isIdle_waitIdle (s := p.world) hsuccess
  exact settled_of_idle_world (hreaches.trans (hhosts.waitIdle limit p.world)) hidle
    ((World.works_catchUp _).reaches.mono fun _ _ => trivial)

/-- What a pipeline has settled when it was shut down and its queues had time
enough to drain. -/
theorem settled_shutdown
    (hreaches : (create settings senders metrics moment chance).desk.Reaches
      (fun a => a.isSignal = false) (p.world.desk tasks published))
    (hdrained : p.shutdown.2.drained = true) :
    p.shutdown.1.broker.Settled senders.length
      (World.system.waitIdle (limits p.settings.shutdown).drain p.world).1.broker.Lists := by
  have hhosts := (World.hosts_system tasks published).mono fun _ ha =>
    (Desk.Action.eq_false_of_isQuiet ha).1
  have hforgotten (w : World) : w.Works { w with tasks := [] }.catchUp :=
    (World.Works.of_intake_eq rfl).trans (World.works_catchUp _)
  rw [shutdown, World.shutdown_snd, Shutdown.System.drained_execute] at hdrained
  rw [shutdown, World.shutdown_fst]
  exact settled_of_idle_world (hreaches.trans (hhosts.waitIdle _ p.world))
    (Shutdown.System.isIdle_waitIdle hdrained)
    ((hhosts.execute _ p.world).trans ((hforgotten _).reaches.mono fun _ _ => trivial))

end Running

end

/-- Whatever has happened before the signal, where waiting ends with an idle
broker nothing was given up and the listed consumers are settled; they end
settled where shutdown found them so and nothing was published afterwards. The
totals are clear where no topic was ever cleared. -/
theorem settled_of_waiting (settings : Settings) (senders : List Transport) (metrics : Metrics)
    (moment : Moment) (chance : StdGen) {σ : Type} (sys : Shutdown.System σ) (desk : σ → Desk)
    (hhosts : sys.Hosts desk fun a => a.isSignal = false) (history : List Desk.Action)
    (hquiet : ∀ a ∈ history, a.isSignal = false) (s : σ)
    (hstart : desk s = (create settings senders metrics moment chance).desk.run history) :
    (∀ limit, (sys.waitIdle limit s).2 = true →
      let found := (desk (sys.waitIdle limit s).1).intake.broker
      (found.totals senders.length).abandoned = 0 ∧
        found.Settled senders.length found.Lists) ∧
    (∀ limits, (sys.execute limits s).2.drained = true →
      let found := desk (sys.waitIdle limits.drain s).1
      let left := desk (sys.execute limits s).1
      left.published = found.published →
        left.intake.broker.Settled senders.length found.intake.broker.Lists) ∧
    ((∀ a ∈ history, a.isClearing = false) → (sys.Hosts desk fun a => a.isClearing = false) →
      (∀ limit, (sys.waitIdle limit s).2 = true →
        (desk (sys.waitIdle limit s).1).intake.broker.Clear senders.length) ∧
      ∀ limits, (sys.execute limits s).2.drained = true →
        (desk (sys.execute limits s).1).published =
          (desk (sys.waitIdle limits.drain s).1).published →
        (desk (sys.execute limits s).1).intake.broker.Clear senders.length) := by
  have hfound (limit : Nat) :
      (create settings senders metrics moment chance).desk.Reaches (fun a => a.isSignal = false)
        (desk (sys.waitIdle limit s).1) :=
    Desk.Reaches.trans ⟨history, hquiet, hstart⟩ (hhosts.waitIdle limit s)
  have hidle {limit : Nat} (hsuccess : (sys.waitIdle limit s).2 = true) :
      (desk (sys.waitIdle limit s).1).intake.broker.isIdle = true :=
    (hhosts.isIdle _).symm.trans (Shutdown.System.isIdle_waitIdle hsuccess)
  have hwaited (limit : Nat) (hsuccess : (sys.waitIdle limit s).2 = true) :=
    settled_of_isIdle (hfound limit) (hidle hsuccess) (.refl _ _) rfl
  have hended (limits : Shutdown.Limits) (hdrained : (sys.execute limits s).2.drained = true)
      (hsilent : (desk (sys.execute limits s).1).published =
        (desk (sys.waitIdle limits.drain s).1).published) :=
    settled_of_isIdle (hfound limits.drain) (hidle hdrained) (hhosts.execute limits s) hsilent
  refine ⟨fun limit hsuccess => ?_, hended, fun hkeeps hhosts' => ?_⟩
  · exact ⟨abandoned_totals_of_reaches (hfound limit), hwaited limit hsuccess⟩
  · have hall (limit : Nat) : ∀ i < senders.length,
        (desk (sys.waitIdle limit s).1).intake.broker.Lists i := by
      intro i hi
      exact lists_of_reaches (Desk.Reaches.trans ⟨history, hkeeps, hstart⟩
        (hhosts'.waitIdle limit s)) hi
    constructor
    · exact fun limit hsuccess => (hwaited limit hsuccess).clear (hall limit)
    · exact fun limits hdrained hsilent => (hended limits hdrained hsilent).clear (hall _)

/-! ## Mail that is on its way -/

def oneWorker : Settings :=
  { Settings.default with pipeline := { PipelineSettings.default with workerCount := 1 } }

/-- A sender that takes its time. -/
def slowMail (delay : Nat) : Transport :=
  .scripted "email" .email ⟨.ok, delay, [], [], false, Table.empty⟩

def mail : Event :=
  .ofNotification "" ⟨default, [.email]⟩

/-- A pipeline for mail was started, and something is published. -/
def mailing (delay : Nat) : World :=
  let p := create oneWorker [slowMail delay] .none ⟨0, .newYear2024⟩ default
  (p.start.world.publish Channel.email.topic mail).1

/-- What happens at its desk until the worker has called the sender. -/
def untilSending : List Desk.Action :=
  [.around (.act 0 .start) rfl, .around (.act 0 .startDrain) rfl,
    .around (.publish Channel.email.topic mail) rfl, .around (.act 0 (.take 0)) rfl,
    .around (.saveAttempt (.fresh default .email)) rfl]

/-- Who waits for mail that is sent at once finds it delivered, and so does
shutdown. -/
theorem settled_of_waiting_for_mail :
    let desk := World.desk [] [⟨none, 0, mail⟩]
    let s := mailing 0
    let found := desk (World.system.waitIdle 0 s).1
    let left := desk (World.system.execute .default s).1
    (World.system.waitIdle 0 s).2 = true ∧ (found.intake.broker.totals 1).delivered = 1 ∧
      found.intake.broker.Clear 1 ∧ left.intake.broker.Clear 1 := by
  intro desk s found left
  have hidle : World.system.isIdle s = true := rfl
  have hwait (limit : Nat) := Shutdown.System.waitIdle_of_isIdle hidle limit
  have hhosts := World.hosts_system [] [⟨none, 0, mail⟩]
  have hquiet : World.system.Hosts desk fun a => a.isSignal = false :=
    hhosts.mono fun _ ha => (Desk.Action.eq_false_of_isQuiet ha).1
  have hkeeps : World.system.Hosts desk fun a => a.isClearing = false :=
    hhosts.mono fun _ ha => (Desk.Action.eq_false_of_isQuiet ha).2
  have hsuccess (limit : Nat) : (World.system.waitIdle limit s).2 = true :=
    congrArg Prod.snd (hwait limit)
  obtain ⟨-, -, hclear⟩ := settled_of_waiting oneWorker [slowMail 0] .none ⟨0, .newYear2024⟩ default
    World.system desk hquiet
    (untilSending ++ [.around (.updateAttempt
      (((Attempt.fresh default .email).increment .newYear2024).withStatus .success)) rfl,
      .around (.act 0 (.succeed 0)) rfl])
    (by decide) s rfl
  obtain ⟨hfound, hleft⟩ := hclear (by decide) hkeeps
  have hdelivered : (found.intake.broker.totals 1).delivered = 1 := by
    have hstart : found = desk s := congrArg desk (congrArg Prod.fst (hwait 0))
    rw [hstart]
    rfl
  have hdrained : (World.system.execute .default s).2.drained = true :=
    (Shutdown.System.drained_execute ..).trans (hsuccess _)
  exact ⟨hsuccess 0, hdelivered, hfound 0 (hsuccess 0), hleft .default hdrained rfl⟩

/-- The topic is cleared while the sender is called. -/
def overlooking : World :=
  (mailing 50).withBroker ((mailing 50).broker.unsubscribeAll Channel.email.topic).1

/-- It is not so that a pipeline found idle has nothing pending. -/
theorem not_forall_clear :
    ¬ ∀ (settings : Settings) (senders : List Transport) (metrics : Metrics) (moment : Moment)
      (chance : StdGen) (σ : Type) (sys : Shutdown.System σ) (desk : σ → Desk)
      (history : List Desk.Action) (s : σ) (limit : Nat),
      (sys.Hosts desk fun a => a.isSignal = false) → (∀ a ∈ history, a.isSignal = false) →
      desk s = (create settings senders metrics moment chance).desk.run history →
      (sys.waitIdle limit s).2 = true →
      (desk (sys.waitIdle limit s).1).intake.broker.Clear senders.length := by
  intro hclear
  have hidle : World.system.isIdle overlooking = true := rfl
  have hwait := Shutdown.System.waitIdle_of_isIdle hidle 0
  have hhosts := World.hosts_system [] [⟨none, 0, mail⟩]
  have hfound := hclear oneWorker [slowMail 50] .none ⟨0, .newYear2024⟩ default World World.system
    (World.desk [] [⟨none, 0, mail⟩])
    (untilSending ++ [.around (.unsubscribeAll Channel.email.topic) rfl]) overlooking 0
    (hhosts.mono fun _ ha => (Desk.Action.eq_false_of_isQuiet ha).1) (by decide) rfl
    (congrArg Prod.snd hwait)
  rw [hwait] at hfound
  -- The worker has not delivered the event yet.
  have hone : (overlooking.broker.totals 1).outstanding = 1 := rfl
  exact Nat.one_ne_zero (hone.symm.trans hfound.1)

end Pipeline

end Courier
