import Courier.Proofs.Intake.Deduplication
import Courier.Proofs.Text.Marks

/-! # Which requests are told apart

A request that brings no key is recognised by its user, category and title,
joined by colons. A user and a title may hold colons themselves, so that the
joined text can be cut in more than one way; `Overlaps` says exactly when.
Where no user holds a colon, or no title does, requests are told apart.
-/

namespace Courier

/-! ## Keys -/

/-- What a request that brings no key is recognised by. -/
@[ext]
structure Identity where
  user : String
  category : Category
  title : String
  deriving DecidableEq

def Request.identity (r : Request) : Identity :=
  ⟨r.notification.user, r.notification.category, r.notification.title⟩

namespace Identity

def key (i : Identity) : String :=
  SeenKeys.keyFor i.user i.category i.title

/-- The user of the second reads like user, category and a part of the title of
the first, and the rest of that title like category and title of the second. -/
def Overlaps (i j : Identity) : Prop :=
  ∃ middle, j.user = i.user ++ ":" ++ i.category.name ++ middle ∧
    ":" ++ i.title = middle ++ ":" ++ j.category.name ++ ":" ++ j.title

/-- The two are taken for the same. -/
def Alike (i j : Identity) : Prop :=
  i = j ∨ i.Overlaps j ∨ j.Overlaps i

variable {i j : Identity}

theorem toList_key (i : Identity) :
    i.key.toList =
      i.user.toList ++ ':' :: (i.category.name.toList ++ ':' :: i.title.toList) := by
  simp [key, SeenKeys.keyFor, String.toList_append]

/-- The rest of both keys, where the second has the longer user. -/
theorem eq_or_overlaps_of_user {more : List Char}
    (huser : j.user.toList = i.user.toList ++ more)
    (hrest : ':' :: (i.category.name.toList ++ ':' :: i.title.toList) =
      more ++ ':' :: (j.category.name.toList ++ ':' :: j.title.toList)) :
    i = j ∨ i.Overlaps j := by
  cases more with
  | nil =>
      -- The users are the same, and the next colon ends both categories.
      have heq := (List.cons.inj hrest).2
      obtain ⟨hcategory, htitle⟩ := eq_and_eq_of_notMem i.category.colon_notMem_name
        j.category.colon_notMem_name heq
      rw [List.append_nil] at huser
      exact .inl (Identity.ext (String.toList_inj.mp huser.symm)
        (Category.name_injective (String.toList_inj.mp hcategory)) (String.toList_inj.mp htitle))
  | cons m more =>
      -- The longer user has a colon here, and no colon ends it before the category
      -- of the other does.
      obtain ⟨rfl, heq⟩ := List.cons.inj hrest
      obtain ⟨middle, rfl, htitle⟩ :=
        exists_append_of_notMem i.category.colon_notMem_name heq
      refine .inr ⟨String.ofList middle, ?_, ?_⟩
      · rw [← String.toList_inj]
        simp [huser, String.toList_append]
      · rw [← String.toList_inj]
        simp [htitle, String.toList_append]

theorem Overlaps.key_eq (hoverlaps : i.Overlaps j) : i.key = j.key := by
  obtain ⟨middle, huser, htitle⟩ := hoverlaps
  calc i.key = i.user ++ ":" ++ i.category.name ++ (":" ++ i.title) := by
        simp only [key, SeenKeys.keyFor, String.append_assoc]
    _ = j.key := by
        simp only [htitle, key, SeenKeys.keyFor, huser, String.append_assoc]

/-- Requests have one key just if they are taken for the same. -/
theorem key_eq_key_iff : i.key = j.key ↔ i.Alike j := by
  constructor
  · intro heq
    rw [← String.toList_inj, toList_key, toList_key] at heq
    obtain ⟨more, huser, hrest⟩ | ⟨more, huser, hrest⟩ := List.append_eq_append_iff.mp heq
    · exact (eq_or_overlaps_of_user huser hrest).imp_right .inl
    · exact (eq_or_overlaps_of_user huser hrest).imp Eq.symm .inr
  · rintro (rfl | hoverlaps | hoverlaps)
    · rfl
    · exact hoverlaps.key_eq
    · exact hoverlaps.key_eq.symm

theorem Overlaps.colon_mem_user (hoverlaps : i.Overlaps j) : ':' ∈ j.user.toList := by
  obtain ⟨middle, huser, -⟩ := hoverlaps
  simp [huser, String.toList_append]

/-- Users without a colon are told apart from each other, and the requests of
each of them too. -/
theorem eq_of_key_eq_of_users (heq : i.key = j.key) (hfree : ':' ∉ i.user.toList)
    (hfree' : ':' ∉ j.user.toList) : i = j := by
  rcases key_eq_key_iff.mp heq with hsame | hoverlaps | hoverlaps
  · exact hsame
  · exact absurd hoverlaps.colon_mem_user hfree'
  · exact absurd hoverlaps.colon_mem_user hfree

end Identity

/-! ## Requests -/

/-- A request that has nothing but its identity. -/
def Identity.request (i : Identity) (id : NotificationId) : Request :=
  ⟨.create id i.user i.category i.title "" .newYear2024, none, none⟩

theorem Request.key_of_ownKey_eq_none {r : Request} (hown : r.ownKey = none) :
    r.key = r.identity.key := by
  rw [key, hown]
  rfl

namespace Intake

/-- After a request was queued, and whatever came then, another one is a
duplicate if it is taken for the same, or for one that was queued before or
since. -/
theorem duplicate_after_queued_iff {s : Intake} {first second : Request} {now later : Moment}
    {between : List Action} (hqueued : isQueued (s.submit first now).result = true)
    (hown : first.ownKey = none) (hown' : second.ownKey = none)
    (hvalid : second.validate = .ok ()) :
    (((s.submit first now).intake.run between).submit second later).result = .ok .duplicate ↔
      first.identity.Alike second.identity ∨ s.seen.contains second.key = true ∨
        ∃ x ∈ (s.submit first now).intake.answers between,
          x.request.key = second.key ∧ x.isQueued = true := by
  have hkeys : ((s.submit first now).intake.run between).seen.keys =
      (queuedKeys ((s.submit first now).intake.answers between)).reverse ++
        first.key :: s.seen.keys := by
    rw [keys_run, keys_submit, if_pos hqueued]
  have halike : second.key = first.key ↔ first.identity.Alike second.identity := by
    rw [Request.key_of_ownKey_eq_none hown, Request.key_of_ownKey_eq_none hown', eq_comm,
      Identity.key_eq_key_iff]
  have hseen : second.key ∈ ((s.submit first now).intake.run between).seen.keys ↔
      first.identity.Alike second.identity ∨ second.key ∈ s.seen.keys ∨
        second.key ∈ queuedKeys ((s.submit first now).intake.answers between) := by
    rw [hkeys, List.mem_append, List.mem_reverse, List.mem_cons, halike, or_comm, or_assoc]
  rw [result_submit_eq_duplicate_iff, and_iff_right hvalid, SeenKeys.contains,
    List.contains_iff_mem, hseen, mem_queuedKeys, SeenKeys.contains, List.contains_iff_mem]

theorem duplicate_after_queued_of_colons :
    let s := fresh default default
    let first := Identity.request ⟨"a", .system, "b:system:c"⟩ (.ofNat 1)
    let second := Identity.request ⟨"a:system:b", .system, "c"⟩ (.ofNat 2)
    let now : Moment := ⟨0, .newYear2024⟩
    isQueued (s.submit first now).result = true ∧ second.validate = .ok () ∧
      ((((s.submit first now).intake.run [.rejectWrites true]).submit second now).result =
          .ok .duplicate ↔
        first.identity.Alike second.identity ∨ s.seen.contains second.key = true ∨
          ∃ x ∈ (s.submit first now).intake.answers [.rejectWrites true],
            x.request.key = second.key ∧ x.isQueued = true) :=
  ⟨rfl, rfl, duplicate_after_queued_iff rfl rfl rfl rfl⟩

/-- Requests that differ are not always told apart: each of these two reads
`a:system:b:system:c`. -/
theorem not_forall_told_apart :
    ¬∀ (s : Intake) (first second : Request) (now later : Moment),
      first.ownKey = none → second.ownKey = none → first.validate = .ok () →
        second.validate = .ok () → first.identity ≠ second.identity →
          isQueued (s.submit first now).result = true →
            (s.submit second later).result ≠ .ok .duplicate →
              ((s.submit first now).intake.submit second later).result ≠ .ok .duplicate := by
  intro htold
  have hapart := htold (fresh default default)
    (Identity.request ⟨"a", .system, "b:system:c"⟩ (.ofNat 1))
    (Identity.request ⟨"a:system:b", .system, "c"⟩ (.ofNat 2))
    ⟨0, .newYear2024⟩ ⟨0, .newYear2024⟩
  exact hapart rfl rfl rfl rfl (by decide) rfl nofun rfl

end Intake

end Courier
