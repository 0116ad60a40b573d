import Courier.Proofs.Intake.Keys
import Courier.Simulation.Traffic
import Mathlib.Data.List.Nodup

/-! # The numbers of the requests

Publishers share out the numbers among themselves: none is left over, and none
is handled twice. A request can be told from all others by its number, it is
valid, and some channel is open to it, whoever it is for.
-/

namespace Courier

/-- No random bit is lost between the marks. -/
theorem NotificationId.random_injective {a b : BitVec 122} (heq : random a = random b) : a = b := by
  have hbit : ∀ k, (random a).value.getLsbD k = (random b).value.getLsbD k := by
    intro k
    rw [heq]
  simp only [random, BitVec.getLsbD_append, BitVec.getLsbD_extractLsb'] at hbit
  apply BitVec.eq_of_getLsbD_eq
  intro k hk
  -- The marks have their bits before 64 and before 80.
  obtain hlow | hmiddle | hhigh : k < 62 ∨ 62 ≤ k ∧ k < 74 ∨ 74 ≤ k := by omega
  · simpa [hlow] using hbit k
  · have h := hbit (k + 2)
    rw [if_neg (by omega), if_neg (by omega), if_pos (by omega), if_neg (by omega),
      if_neg (by omega), if_pos (by omega)] at h
    simpa [show k - 60 - 2 < 12 by omega, show 62 + (k - 60 - 2) = k by omega] using h
  · have h := hbit (k + 6)
    rw [if_neg (by omega), if_neg (by omega), if_neg (by omega), if_neg (by omega),
      if_neg (by omega), if_neg (by omega), if_neg (by omega), if_neg (by omega)] at h
    simpa [show k - 56 - 2 - 12 - 4 < 48 by omega, show 74 + (k - 56 - 2 - 12 - 4) = k by omega]
      using h

namespace Traffic

/-! ## Shares -/

/-- A publisher handles the numbers that leave its own as remainder. -/
theorem mem_share {count publishers p i : Nat} (hp : p < publishers) :
    i ∈ share count publishers p ↔ i < count ∧ i % publishers = p := by
  have hpositive : 0 < publishers := Nat.zero_lt_of_lt hp
  rw [share, List.mem_range']
  constructor
  · rintro ⟨k, hk, rfl⟩
    rw [Nat.lt_iff_add_one_le, Nat.le_div_iff_mul_le hpositive, Nat.succ_mul, Nat.mul_comm] at hk
    refine ⟨by omega, ?_⟩
    rw [Nat.add_mul_mod_self_left, Nat.mod_eq_of_lt hp]
  · rintro ⟨hi, rfl⟩
    have hparts := Nat.mod_add_div i publishers
    refine ⟨i / publishers, ?_, hparts.symm⟩
    rw [Nat.lt_iff_add_one_le, Nat.le_div_iff_mul_le hpositive, Nat.succ_mul, Nat.mul_comm]
    omega

theorem nodup_share {count publishers p : Nat} (hp : p < publishers) :
    (share count publishers p).Nodup :=
  List.nodup_range' publishers (Nat.zero_lt_of_lt hp)

theorem disjoint_share {count publishers p q : Nat} (hp : p < publishers) (hq : q < publishers)
    (hne : p ≠ q) : (share count publishers p).Disjoint (share count publishers q) := by
  intro i hi hi'
  exact hne (((mem_share hp).mp hi).2.symm.trans ((mem_share hq).mp hi').2)

/-- Together the publishers handle every number once. -/
theorem order_perm {count publishers : Nat} (hpositive : 0 < publishers) :
    (order count publishers).Perm (List.range count) := by
  have hnodup : (order count publishers).Nodup := by
    rw [order, List.nodup_flatMap]
    refine ⟨fun p hp => nodup_share (List.mem_range.mp hp), ?_⟩
    refine List.nodup_range.imp_of_mem ?_
    intro p q hp hq hne
    exact disjoint_share (List.mem_range.mp hp) (List.mem_range.mp hq) hne
  rw [List.perm_ext_iff_of_nodup hnodup List.nodup_range]
  intro i
  rw [order, List.mem_flatMap, List.mem_range]
  constructor
  · rintro ⟨p, hp, hi⟩
    exact ((mem_share (List.mem_range.mp hp)).mp hi).1
  · intro hi
    have hlt := Nat.mod_lt i hpositive
    exact ⟨i % publishers, List.mem_range.mpr hlt, (mem_share hlt).mpr ⟨hi, rfl⟩⟩

/-- A publisher handles its own number and every number that comes so many
publishers later, in ascending order; nobody else handles one of them, and no
number is left over. -/
structure SharedOut (count publishers : Nat) : Prop where
  steps : ∀ p < publishers, ∀ i,
    i ∈ share count publishers p ↔ i < count ∧ ∃ k, i = p + k * publishers
  ascending : ∀ p < publishers, (share count publishers p).Pairwise (· < ·)
  disjoint : ∀ p < publishers, ∀ q < publishers, p ≠ q →
    (share count publishers p).Disjoint (share count publishers q)
  order : (order count publishers).Perm (List.range count)

theorem sharedOut {count publishers : Nat} (hpositive : 0 < publishers) :
    SharedOut count publishers where
  steps := by
    intro p hp i
    rw [mem_share hp]
    refine and_congr_right fun _ => ⟨?_, ?_⟩
    · rintro rfl
      exact ⟨i / publishers, by rw [Nat.mul_comm, Nat.mod_add_div]⟩
    · rintro ⟨k, rfl⟩
      rw [Nat.add_mul_mod_self_right, Nat.mod_eq_of_lt hp]
  ascending := fun p _ => List.pairwise_lt_range' publishers hpositive
  disjoint := fun _ hp _ hq => disjoint_share hp hq
  order := order_perm hpositive

/-! ## Requests -/

/-- Users are drawn out of so many, and no two requests get one identifier. -/
structure Draws (t : Traffic) (count users : Nat) : Prop where
  user : ∀ i < count, ∃ k < users, t.user i = "user-" ++ toString k
  id : ∀ i j, i < count → j < count → t.id i = t.id j → i = j

variable {t : Traffic} {count users i j : Nat} {now later : Timestamp}

theorem trim_ne_nil {s : List Char} {c : Char} (hmem : c ∈ s) (hvisible : Text.isBlank c = false) :
    Text.trim s ≠ [] := by
  intro hnil
  rw [Text.trim_eq_nil_iff.mp hnil c hmem] at hvisible
  cases hvisible

theorem validate_request (h : t.Draws count users) (hi : i < count) (now : Timestamp) :
    (t.request i now).validate = .ok () := by
  obtain ⟨k, -, huser⟩ := h.user i hi
  have huser' : 'u' ∈ (t.request i now).notification.user.toList := by
    simp [request, Notification.create, huser, String.toList_append]
  have htitle : 'N' ∈ (t.request i now).notification.title.toList := by
    simp [request, Notification.create, String.toList_append]
  exact Request.validate_eq_ok_iff.mpr ⟨trim_ne_nil huser' rfl, trim_ne_nil htitle rfl⟩

/-- Whatever its turn, a category keeps a channel that the preference allows. -/
theorem routed_request (t : Traffic) (i : Nat) (now : Timestamp) :
    (t.request i now).routed ≠ [] := by
  have hrouted : (t.request i now).routed =
      resolveChannels (t.request i now).notification (preference i (t.user i)) := rfl
  rw [hrouted, resolveChannels.eq_def, preference]
  by_cases htenth : i % 10 = 0
  · rw [if_pos htenth]
    cases (t.request i now).notification.category <;> exact List.cons_ne_nil _ _
  · rw [if_neg htenth]
    cases (t.request i now).notification.category <;> exact List.cons_ne_nil _ _

theorem colon_notMem_toString (n : Nat) : ':' ∉ (toString n).toList := by
  intro hmem
  have hdigit := Nat.isDigit_of_mem_toDigits (by decide) (by decide)
    (show ':' ∈ Nat.toDigits 10 n by simpa [toString, Nat.repr] using hmem)
  cases hdigit

theorem toString_injective {m n : Nat} (heq : toString m = toString n) : m = n := by
  have hdigits : Nat.toDigits 10 m = Nat.toDigits 10 n := by
    simpa [toString, Nat.repr, String.ofList_inj] using heq
  rw [← Text.digitsValue_toDigits m, hdigits, Text.digitsValue_toDigits]

/-- Users have no colon, so titles tell requests apart. -/
theorem eq_of_key_request_eq (h : t.Draws count users) (hi : i < count) (hj : j < count)
    (heq : (t.request i now).key = (t.request j later).key) : i = j := by
  rw [Request.key_of_ownKey_eq_none rfl, Request.key_of_ownKey_eq_none rfl] at heq
  have hfree : ∀ n < count, ∀ date, ':' ∉ (t.request n date).identity.user.toList := by
    intro n hn date
    obtain ⟨k, -, huser⟩ := h.user n hn
    have hlist : (t.request n date).identity.user.toList =
        "user-".toList ++ (toString k).toList := by
      rw [← String.toList_append, ← huser]
      rfl
    rw [hlist, List.mem_append, not_or]
    exact ⟨by decide, colon_notMem_toString k⟩
  have hidentity := Identity.eq_of_key_eq_of_users heq (hfree i hi now) (hfree j hj later)
  have htitle : "Notification #" ++ toString i = "Notification #" ++ toString j :=
    congrArg Identity.title hidentity
  exact toString_injective (String.append_right_inj _ |>.mp htitle)

theorem fst_randNat_lt (g : StdGen) {n : Nat} (hpositive : 0 < n) :
    (randNat g 0 (n - 1)).1 < n := by
  unfold randNat
  rw [if_neg (Nat.not_lt_zero _), if_neg (Nat.not_lt_zero _)]
  dsimp only
  rw [Nat.zero_add]
  exact Nat.lt_of_lt_of_eq (Nat.mod_lt _ (Nat.succ_pos _)) (by omega)

/-- The numbers of a run are below the size of a word, and so their identifiers
differ. -/
theorem draws_ofSeed (seed : Nat) (hcount : count ≤ UInt64.size) (hpositive : 0 < users) :
    (ofSeed seed users).Draws count users where
  user := fun i _ => ⟨_, fst_randNat_lt (mkStdGen (seed + i)) hpositive, rfl⟩
  id := by
    intro i j hi hj heq
    have hbits := congrArg BitVec.toNat (NotificationId.random_injective heq)
    rw [BitVec.toNat_ofNat, BitVec.toNat_ofNat, UInt64.size] at hbits
    rw [UInt64.size] at hcount
    omega

end Traffic

end Courier
