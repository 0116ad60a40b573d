import Courier.Proofs.Broker.Offers

/-! # Listed consumers

A broker is idle as far as it can see: it looks at the consumers that are listed
under a topic, and at no others. Consumers come off the lists only where a topic
is cleared.
-/

namespace Courier.Broker

/-- The consumer is subscribed to a topic. -/
def Lists (b : Broker) (c : Nat) : Prop :=
  ∃ t, c ∈ b.subscribers t

variable {b b' : Broker} {c i : Nat} {t : Topic}

theorem mem_values_iff {subscribers : List Nat} (hne : subscribers ≠ []) :
    subscribers ∈ b.topics.values ↔ ∃ t, b.subscribers t = subscribers := by
  constructor
  · intro hmem
    obtain ⟨⟨t, listed⟩, hentry, rfl⟩ := List.mem_map.mp hmem
    refine ⟨t, ?_⟩
    rw [Broker.subscribers, Table.getD, Table.mem_entries_iff.mp hentry]
    rfl
  · rintro ⟨t, rfl⟩
    rw [Broker.subscribers, Table.getD] at hne ⊢
    cases hfound : b.topics.get? t with
    | none =>
        rw [hfound] at hne
        exact absurd rfl hne
    | some listed => exact List.mem_map.mpr ⟨(t, listed), Table.mem_entries_iff.mpr hfound, rfl⟩

/-- Idle is a broker with nothing outstanding at the consumers that it lists. -/
theorem isIdle_iff :
    b.isIdle = true ↔
      ∀ i k, b.Lists i → b.consumers[i]? = some k → k.stats.outstanding = 0 := by
  simp only [isIdle, List.all_eq_true, Option.all_eq_true, Consumer.isIdle, decide_eq_true_eq]
  constructor
  · rintro hidle i k ⟨t, hmem⟩ hk
    have hvalues := (mem_values_iff (List.ne_nil_of_mem hmem)).mpr ⟨t, rfl⟩
    exact hidle _ hvalues i hmem k hk
  · intro hidle subscribers hvalues i hmem k hk
    obtain ⟨t, rfl⟩ := (mem_values_iff (List.ne_nil_of_mem hmem)).mp hvalues
    exact hidle i k ⟨t, hmem⟩ hk

theorem Lists.of_topics_eq (hlists : b.Lists i) (htopics : b'.topics = b.topics) :
    b'.Lists i := by
  obtain ⟨t, hmem⟩ := hlists
  exact ⟨t, (subscribers_eq_of_topics_eq htopics t).symm ▸ hmem⟩

theorem lists_subscribe (b : Broker) (t : Topic) (c : Nat) : (b.subscribe t c).1.Lists c := by
  refine ⟨t, ?_⟩
  unfold subscribe
  split
  next hold => exact hold
  next =>
    rw [subscribers, Table.getD, Table.get?_insert_self]
    exact List.mem_append_right _ List.mem_cons_self

theorem Lists.subscribe (hlists : b.Lists i) (t : Topic) (c : Nat) :
    (b.subscribe t c).1.Lists i := by
  obtain ⟨t', hmem⟩ := hlists
  refine ⟨t', ?_⟩
  unfold Broker.subscribe
  split
  next => exact hmem
  next =>
    rw [subscribers, Table.getD, Table.get?_insert]
    split
    next heq =>
      subst heq
      exact List.mem_append_left _ hmem
    next => exact hmem

theorem Lists.of_subscribe (hlists : (b.subscribe t c).1.Lists i) : i = c ∨ b.Lists i := by
  obtain ⟨t', hmem⟩ := hlists
  unfold Broker.subscribe at hmem
  split at hmem
  next => exact .inr ⟨t', hmem⟩
  next =>
    rw [subscribers, Table.getD, Table.get?_insert] at hmem
    split at hmem
    next =>
      rcases List.mem_append.mp hmem with hold | hnew
      · exact .inr ⟨t, hold⟩
      · exact .inl (List.mem_singleton.mp hnew)
    next => exact .inr ⟨t', hmem⟩

theorem Lists.of_unsubscribeAll (hlists : (b.unsubscribeAll t).1.Lists i) : b.Lists i := by
  obtain ⟨t', hmem⟩ := hlists
  refine ⟨t', ?_⟩
  rw [Broker.unsubscribeAll, subscribers, Table.getD, Table.get?_erase] at hmem
  split at hmem
  next => cases hmem
  next => exact hmem

end Courier.Broker
