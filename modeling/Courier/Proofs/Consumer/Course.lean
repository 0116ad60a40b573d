import Courier.Proofs.Consumer.Ledger

/-! # The course of an event

What has happened to an event is fixed by how far it has come and by its
number of retries: so many failed tries, each but the last followed by its wait
and a return to the queue. `Course` writes this down, the life cycle keeps it,
and the numbers of calls, results and waits are read off it.
-/

namespace Courier

namespace RetryPolicy

/-- The wait that follows a failure after `retries` earlier retries. -/
def pause (p : RetryPolicy) (retries : UInt32) : List Happening :=
  (p.backoff.map fun b => .waiting (b.delay retries)).toList

/-- What happens to an event offered with `r` retries until it has been put
back `n` times. -/
def rounds (p : RetryPolicy) (r : UInt32) : Nat → List Happening
  | 0 => []
  | n + 1 =>
      p.rounds r n ++ [.called, .failed] ++ p.pause (UInt32.ofNat (r.toNat + n)) ++ [.requeued]

/-- An event offered with `r` retries that has `q` after `n` returns, none of
them beyond the limit. -/
structure Returned (p : RetryPolicy) (r : UInt32) (n : Nat) (q : UInt32) : Prop where
  count : q.toNat = r.toNat + n
  bound : n ≤ p.limit.toNat - r.toNat

variable {p : RetryPolicy} {r q : UInt32} {n : Nat}

theorem next_eq_retry_iff {delay : Option Duration} :
    p.next q = .retry delay ↔ q < p.limit ∧ p.backoff.map (·.delay q) = delay := by
  unfold next
  split
  next hmore => simp [hmore]
  next hlast => simp [hlast]

theorem next_eq_deadLetter_iff : p.next q = .deadLetter ↔ p.limit ≤ q := by
  unfold next
  split
  next hmore => simpa using hmore
  next hlast => simpa using hlast

theorem Returned.start : Returned p r 0 r := ⟨rfl, Nat.zero_le _⟩

theorem toNat_add_one (hmore : q < p.limit) : (q + 1).toNat = q.toNat + 1 := by
  have hlt := UInt32.lt_iff_toNat_lt.mp hmore
  have hlimit := p.limit.toNat_lt
  rw [UInt32.toNat_add, UInt32.toNat_one]
  omega

theorem Returned.again (h : Returned p r n q) (hmore : q < p.limit) :
    Returned p r (n + 1) (q + 1) := by
  have hlt := UInt32.lt_iff_toNat_lt.mp hmore
  obtain ⟨hcount, hbound⟩ := h
  refine ⟨?_, ?_⟩
  · rw [toNat_add_one hmore]
    omega
  · omega

theorem Returned.rounds_succ (h : Returned p r n q) :
    p.rounds r (n + 1) = p.rounds r n ++ [.called, .failed] ++ p.pause q ++ [.requeued] := by
  rw [rounds, ← h.count, UInt32.ofNat_toNat]

end RetryPolicy

open RetryPolicy (Returned)

/-- What has happened to an event that was offered with `r` retries and now
has `q`, by how far it has come. -/
inductive Course (p : RetryPolicy) (r : UInt32) : Phase → UInt32 → List Happening → Prop where
  | queued {n : Nat} {q : UInt32} (hreturned : Returned p r n q) :
      Course p r .queued q (p.rounds r n)
  | handling {n : Nat} {q : UInt32} (hreturned : Returned p r n q) :
      Course p r .handling q (p.rounds r n ++ [.called])
  | backingOff {n : Nat} {q : UInt32} {delay : Duration} (hreturned : Returned p r n q)
      (hmore : q < p.limit) (hdelay : p.backoff.map (·.delay q) = some delay) :
      Course p r (.backingOff delay) q (p.rounds r n ++ [.called, .failed] ++ p.pause q)
  | requeueing {n : Nat} {q : UInt32} (hreturned : Returned p r n q) (hmore : q < p.limit) :
      Course p r .requeueing (q + 1) (p.rounds r n ++ [.called, .failed] ++ p.pause q)
  | deadLettering {n : Nat} {q : UInt32} (hreturned : Returned p r n q) (hlast : p.limit ≤ q) :
      Course p r .deadLettering q (p.rounds r n ++ [.called, .failed])
  | buried {n : Nat} {q : UInt32} (hreturned : Returned p r n q) (hlast : p.limit ≤ q) :
      Course p r .buried q (p.rounds r n ++ [.called, .failed, .buried])
  | delivered {n : Nat} {q : UInt32} (hreturned : Returned p r n q) :
      Course p r (.settled .delivered) q (p.rounds r n ++ [.called, .settled .delivered])
  | deadLettered {n : Nat} {q : UInt32} (hreturned : Returned p r n q) (hlast : p.limit ≤ q) :
      Course p r (.settled .deadLettered) q
        (p.rounds r n ++ [.called, .failed, .buried, .settled .deadLettered])
  | abandoned {phase : Phase} {q : UInt32} {past : List Happening}
      (hwaits : phase.waits = true) (hcourse : Course p r phase q past) :
      Course p r (.settled .abandoned) q (past ++ [.settled .abandoned])
  | lost {phase : Phase} {q : UInt32} {past : List Happening} (hinHand : phase.inHand = true)
      (hcourse : Course p r phase q past) : Course p r .lost q past

variable {p : RetryPolicy} {r : UInt32}

theorem Course.of_handling {q : UInt32} {past : List Happening}
    (hcourse : Course p r .handling q past) :
    ∃ n, Returned p r n q ∧ past = p.rounds r n ++ [.called] := by
  cases hcourse with
  | @handling n _ hreturned => exact ⟨n, hreturned, rfl⟩

/-- The life cycle keeps to the course. -/
theorem Course.advance {phase phase' : Phase} {e e' : Event} {past news : List Happening}
    (hcourse : Course p r phase e.retries past) (hadvance : Advance p phase e news phase' e') :
    Course p r phase' e'.retries (past ++ news) := by
  cases hadvance with
  | stay =>
      rw [List.append_nil]
      exact hcourse
  | take =>
      cases hcourse with
      | queued hreturned => exact .handling hreturned
  | deliver =>
      obtain ⟨n, hreturned, rfl⟩ := hcourse.of_handling
      rw [List.append_assoc]
      exact .delivered hreturned
  | @backOff e delay hnext =>
      obtain ⟨hmore, hdelay⟩ := RetryPolicy.next_eq_retry_iff.mp hnext
      obtain ⟨n, hreturned, rfl⟩ := hcourse.of_handling
      have hpast : p.rounds r n ++ [.called] ++ [.failed, .waiting delay] =
          p.rounds r n ++ [.called, .failed] ++ p.pause e.retries := by
        obtain ⟨b, hb, rfl⟩ := Option.map_eq_some_iff.mp hdelay
        simp [RetryPolicy.pause, hb]
      rw [hpast]
      exact .backingOff hreturned hmore hdelay
  | @retryAtOnce e hnext =>
      obtain ⟨hmore, hdelay⟩ := RetryPolicy.next_eq_retry_iff.mp hnext
      obtain ⟨n, hreturned, rfl⟩ := hcourse.of_handling
      have hpast : p.rounds r n ++ [.called] ++ [.failed] =
          p.rounds r n ++ [.called, .failed] ++ p.pause e.retries := by
        simp [RetryPolicy.pause, Option.map_eq_none_iff.mp hdelay]
      rw [hpast]
      exact .requeueing hreturned hmore
  | exhaust hnext =>
      have hlast := RetryPolicy.next_eq_deadLetter_iff.mp hnext
      obtain ⟨n, hreturned, rfl⟩ := hcourse.of_handling
      rw [List.append_assoc]
      exact .deadLettering hreturned hlast
  | @wake e =>
      rw [List.append_nil]
      change Course p r .requeueing (e.retries + 1) _
      -- Retries are an index of the law, which has cases only for a variable.
      generalize e.retries = q at hcourse ⊢
      cases hcourse with
      | backingOff hreturned hmore hdelay => exact .requeueing hreturned hmore
  | requeue =>
      generalize e.retries = q at hcourse ⊢
      cases hcourse with
      | requeueing hreturned hmore =>
          rw [← hreturned.rounds_succ]
          exact .queued (hreturned.again hmore)
  | bury =>
      generalize e.retries = q at hcourse ⊢
      cases hcourse with
      | deadLettering hreturned hlast =>
          rw [List.append_assoc]
          exact .buried hreturned hlast
  | drain =>
      generalize e.retries = q at hcourse ⊢
      cases hcourse with
      | buried hreturned hlast =>
          rw [List.append_assoc]
          exact .deadLettered hreturned hlast
  | abandon hwaits => exact .abandoned hwaits hcourse
  | lose hinHand =>
      rw [List.append_nil]
      exact .lost hinHand hcourse

/-! ## What is read off the course -/

namespace Happening

/-- The handler has returned. -/
def isResult : Happening → Bool
  | .failed => true
  | .settled .delivered => true
  | _ => false

def wait? : Happening → Option Duration
  | .waiting delay => some delay
  | _ => none

/-- The event has left the retries behind. -/
def isClosing : Happening → Bool
  | .buried => true
  | .settled .delivered => true
  | _ => false

/-- An event that has left the retries behind is not handled or put back any
more. -/
def mayPrecede (earlier later : Happening) : Prop :=
  earlier.isClosing = true → later ≠ .called ∧ later ≠ .requeued

end Happening

/-- The handler has been called once more than the event was put back. -/
def Phase.isTried : Phase → Bool
  | .handling | .backingOff _ | .deadLettering | .buried => true
  | _ => false

def Phase.isPausing : Phase → Bool
  | .backingOff _ => true
  | _ => false

/-- A worker ended with the event in its hands. -/
def Phase.isGivenUp : Phase → Bool
  | .lost | .settled .abandoned => true
  | _ => false

namespace RetryPolicy

variable {n : Nat}

theorem count_called_pause (q : UInt32) : (p.pause q).count .called = 0 := by
  unfold pause
  cases p.backoff <;> rfl

theorem count_called_rounds : (p.rounds r n).count .called = n := by
  induction n with
  | zero => rfl
  | succ n ih =>
      simp only [rounds, List.count_append, ih, count_called_pause]
      rfl

theorem filter_isResult_pause (q : UInt32) : (p.pause q).filter Happening.isResult = [] := by
  unfold pause
  cases p.backoff <;> rfl

theorem filter_isResult_rounds :
    (p.rounds r n).filter Happening.isResult = List.replicate n .failed := by
  induction n with
  | zero => rfl
  | succ n ih =>
      simp only [rounds, List.filter_append, ih, filter_isResult_pause, List.replicate_succ',
        List.append_nil]
      simp [Happening.isResult]

theorem isClosing_of_mem_pause {h : Happening} {q : UInt32} (hmem : h ∈ p.pause q) :
    h.isClosing = false := by
  unfold pause at hmem
  cases hbackoff : p.backoff with
  | none => simp [hbackoff] at hmem
  | some b =>
      obtain rfl : h = .waiting (b.delay q) := by simpa [hbackoff] using hmem
      rfl

theorem isClosing_of_mem_rounds {h : Happening} (hmem : h ∈ p.rounds r n) :
    h.isClosing = false := by
  induction n with
  | zero => cases hmem
  | succ n ih =>
      simp only [rounds, List.mem_append, List.mem_cons, List.not_mem_nil, or_false] at hmem
      obtain ((hround | rfl | rfl) | hpause) | rfl := hmem
      · exact ih hround
      · rfl
      · rfl
      · exact isClosing_of_mem_pause hpause
      · rfl

theorem pairwise_of_open {past : List Happening} (hopen : ∀ h ∈ past, h.isClosing = false) :
    past.Pairwise Happening.mayPrecede := by
  apply List.pairwise_of_forall_mem_list
  intro h hmem later _ hclosing
  rw [hopen h hmem] at hclosing
  cases hclosing

theorem pairwise_rounds_append {tail : List Happening}
    (htail : tail.Pairwise Happening.mayPrecede) :
    (p.rounds r n ++ tail).Pairwise Happening.mayPrecede := by
  refine List.pairwise_append.mpr
    ⟨pairwise_of_open fun _ hmem => isClosing_of_mem_rounds hmem, htail, ?_⟩
  intro h hmem later _ hclosing
  rw [isClosing_of_mem_rounds hmem] at hclosing
  cases hclosing

/-- The waits before the first `n` retries of an event offered with `r`. -/
def waits (b : Backoff) (r : UInt32) (n : Nat) : List Duration :=
  (List.range n).map fun i => b.delay (UInt32.ofNat (r.toNat + i))

theorem waits_succ (b : Backoff) :
    waits b r (n + 1) = waits b r n ++ [b.delay (UInt32.ofNat (r.toNat + n))] := by
  rw [waits, List.range_succ, List.map_append]
  rfl

theorem filterMap_wait?_pause {b : Backoff} (hbackoff : p.backoff = some b) (q : UInt32) :
    (p.pause q).filterMap Happening.wait? = [b.delay q] := by
  rw [pause, hbackoff]
  rfl

theorem filterMap_wait?_rounds {b : Backoff} (hbackoff : p.backoff = some b) :
    (p.rounds r n).filterMap Happening.wait? = waits b r n := by
  induction n with
  | zero => rfl
  | succ n ih =>
      simp only [rounds, List.filterMap_append, ih, filterMap_wait?_pause hbackoff, waits_succ,
        List.filterMap_cons, List.filterMap_nil, Happening.wait?, List.append_nil]

theorem filterMap_wait?_retrying {b : Backoff} {q : UInt32} (hbackoff : p.backoff = some b)
    (hcount : q.toNat = r.toNat + n) :
    (p.rounds r n ++ [Happening.called, .failed] ++ p.pause q).filterMap Happening.wait? =
      waits b r (n + 1) := by
  have hopen : [Happening.called, .failed].filterMap Happening.wait? = [] := rfl
  rw [List.filterMap_append, List.filterMap_append, filterMap_wait?_rounds hbackoff,
    filterMap_wait?_pause hbackoff, hopen, List.append_nil, waits_succ, ← hcount,
    UInt32.ofNat_toNat]

theorem filterMap_wait?_rounds_of_none (hbackoff : p.backoff = none) :
    (p.rounds r n).filterMap Happening.wait? = [] := by
  induction n with
  | zero => rfl
  | succ n ih =>
      simp only [rounds, List.filterMap_append, ih, pause, hbackoff]
      rfl

end RetryPolicy

namespace Course

variable {phase : Phase} {q : UInt32} {past : List Happening}

theorem add_calls_of_queued (hcourse : Course p r .queued q past) :
    r.toNat + past.count .called = q.toNat := by
  cases hcourse with
  | queued hreturned => rw [RetryPolicy.count_called_rounds, hreturned.count]

theorem add_calls_of_tried (hcourse : Course p r phase q past) (htried : phase.isTried = true) :
    r.toNat + past.count .called = q.toNat + 1 := by
  cases hcourse with
  | handling hreturned | backingOff hreturned | deadLettering hreturned | buried hreturned =>
      simp only [List.count_append, RetryPolicy.count_called_rounds,
        RetryPolicy.count_called_pause, hreturned.count]
      rfl
  | _ => cases htried

theorem bounded (hcourse : Course p r phase q past) : q.toNat ≤ max p.limit.toNat r.toNat := by
  induction hcourse with
  | queued hreturned | handling hreturned | backingOff hreturned | deadLettering hreturned
  | buried hreturned | delivered hreturned | deadLettered hreturned =>
      have hcount := hreturned.count
      have hbound := hreturned.bound
      omega
  | requeueing hreturned hmore =>
      have hcount := (hreturned.again hmore).count
      have hbound := (hreturned.again hmore).bound
      omega
  | abandoned _ _ ih => exact ih
  | lost _ _ ih => exact ih

theorem lt_limit_of_isPausing (hcourse : Course p r phase q past)
    (hpausing : phase.isPausing = true) : q < p.limit := by
  cases hcourse with
  | backingOff _ hmore => exact hmore
  | _ => cases hpausing

/-- All tries have failed once an event is in the dead-letter queue. -/
theorem exhausted (hcourse : Course p r phase q past)
    (hphase : phase = .buried ∨ phase = .settled .deadLettered) :
    past.count .called = p.limit.toNat - r.toNat + 1 ∧
      past.filter Happening.isResult = List.replicate (p.limit.toNat - r.toNat + 1) .failed ∧
      q.toNat = max p.limit.toNat r.toNat := by
  cases hcourse with
  | @buried n _ hreturned hlast | @deadLettered n _ hreturned hlast =>
      have hcount := hreturned.count
      have hbound := hreturned.bound
      have hle := UInt32.le_iff_toNat_le.mp hlast
      obtain rfl : n = p.limit.toNat - r.toNat := by omega
      refine ⟨?_, ?_, by omega⟩
      · rw [List.count_append, RetryPolicy.count_called_rounds]
        rfl
      · rw [List.filter_append, RetryPolicy.filter_isResult_rounds, List.replicate_succ']
        rfl
  | _ => simp at hphase

theorem delivered_after (hcourse : Course p r (.settled .delivered) q past) :
    ∃ k ≤ p.limit.toNat - r.toNat, past.count .called = k + 1 ∧
      past.filter Happening.isResult = List.replicate k .failed ++ [.settled .delivered] := by
  cases hcourse with
  | @delivered n _ hreturned =>
      refine ⟨n, hreturned.bound, ?_, ?_⟩
      · rw [List.count_append, RetryPolicy.count_called_rounds]
        rfl
      · rw [List.filter_append, RetryPolicy.filter_isResult_rounds]
        rfl

theorem closing (hcourse : Course p r phase q past) : past.Pairwise Happening.mayPrecede := by
  induction hcourse with
  | queued =>
      rw [← List.append_nil (p.rounds r _)]
      exact RetryPolicy.pairwise_rounds_append .nil
  | handling => exact RetryPolicy.pairwise_rounds_append (by simp)
  | @backingOff n q | @requeueing n q =>
      rw [List.append_assoc]
      apply RetryPolicy.pairwise_rounds_append
      apply RetryPolicy.pairwise_of_open
      intro h hmem
      simp only [List.mem_append, List.mem_cons, List.not_mem_nil, or_false] at hmem
      obtain (rfl | rfl) | hpause := hmem
      · rfl
      · rfl
      · exact RetryPolicy.isClosing_of_mem_pause hpause
  | deadLettering => exact RetryPolicy.pairwise_rounds_append (by simp [Happening.mayPrecede])
  | buried => exact RetryPolicy.pairwise_rounds_append (by simp [Happening.mayPrecede])
  | delivered => exact RetryPolicy.pairwise_rounds_append (by simp [Happening.mayPrecede])
  | deadLettered => exact RetryPolicy.pairwise_rounds_append (by simp [Happening.mayPrecede])
  | abandoned _ _ ih =>
      refine List.pairwise_append.mpr ⟨ih, List.pairwise_singleton _ _, ?_⟩
      intro h _ later hlater
      obtain rfl := List.mem_singleton.mp hlater
      exact fun _ => ⟨nofun, nofun⟩
  | lost _ _ ih => exact ih

/-- The waits are those before the retries, in order. Only of an event that was
given up or lost it is not said whether it waited for a last one. -/
theorem filterMap_wait? {b : Backoff} (hbackoff : p.backoff = some b)
    (hcourse : Course p r phase q past) :
    ∃ n, past.filterMap Happening.wait? = RetryPolicy.waits b r n ∧
      (phase.isGivenUp = false → r.toNat + n = q.toNat + if phase.isPausing then 1 else 0) := by
  induction hcourse with
  | queued hreturned =>
      exact ⟨_, RetryPolicy.filterMap_wait?_rounds hbackoff, fun _ => hreturned.count.symm⟩
  | handling hreturned | deadLettering hreturned | buried hreturned | delivered hreturned
  | deadLettered hreturned =>
      refine ⟨_, ?_, fun _ => hreturned.count.symm⟩
      rw [List.filterMap_append, RetryPolicy.filterMap_wait?_rounds hbackoff]
      exact List.append_nil _
  | @backingOff n q delay hreturned =>
      refine ⟨n + 1, ?_, fun _ => ?_⟩
      · exact RetryPolicy.filterMap_wait?_retrying hbackoff hreturned.count
      · have hcount := hreturned.count
        simp only [Phase.isPausing, if_true]
        omega
  | @requeueing n q hreturned hmore =>
      refine ⟨n + 1, ?_, fun _ => (hreturned.again hmore).count.symm⟩
      exact RetryPolicy.filterMap_wait?_retrying hbackoff hreturned.count
  | abandoned _ _ ih =>
      obtain ⟨n, hwaits, _⟩ := ih
      refine ⟨n, ?_, nofun⟩
      rw [List.filterMap_append, hwaits]
      exact List.append_nil _
  | lost _ _ ih =>
      obtain ⟨n, hwaits, _⟩ := ih
      exact ⟨n, hwaits, nofun⟩

theorem filterMap_wait?_of_none (hbackoff : p.backoff = none)
    (hcourse : Course p r phase q past) : past.filterMap Happening.wait? = [] := by
  have hpause : ∀ q, p.pause q = [] := by
    intro q
    rw [RetryPolicy.pause, hbackoff]
    rfl
  induction hcourse with
  | queued => exact RetryPolicy.filterMap_wait?_rounds_of_none hbackoff
  | abandoned _ _ ih =>
      rw [List.filterMap_append, ih]
      rfl
  | lost _ _ ih => exact ih
  | _ =>
      simp only [List.filterMap_append, RetryPolicy.filterMap_wait?_rounds_of_none hbackoff, hpause]
      rfl

end Course

end Courier
