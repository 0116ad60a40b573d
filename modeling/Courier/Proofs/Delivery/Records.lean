import Courier.Delivery

/-! # Attempt records under writes

What is stored for a notification and channel, and what each write makes of it.
A fresh record is saved only where there is none, and an outcome is written only
where there is a record, so there is never a second one.
-/

namespace Courier

theorem Table.map_snd_filter {κ α : Type} [DecidableEq κ] (t : Table κ α) (k : κ) :
    (t.entries.filter fun entry => entry.1 = k).map Prod.snd = (t.get? k).toList := by
  obtain ⟨entries, hnodup⟩ := t
  simp only [get?]
  induction entries with
  | nil => rfl
  | cons entry rest ih =>
      obtain ⟨hnew, hrest⟩ := List.nodup_cons.mp hnodup
      by_cases hk : entry.1 = k
      · have hnone : (rest.filter fun other => other.1 = k) = [] := by
          rw [List.filter_eq_nil_iff]
          intro other hmem hother
          apply hnew
          rw [hk, ← of_decide_eq_true hother]
          exact List.mem_map_of_mem hmem
        simp [hk, hnone]
      · simpa [hk] using ih hrest

namespace Repository

/-- Everything that is stored for a notification and channel. -/
def recordsOf (r : Repository) (id : NotificationId) (c : Channel) : List Attempt :=
  (r.attempts.entries.filter fun entry => entry.1 = (id, c)).map Prod.snd

variable {r : Repository} {a : Attempt} {id : NotificationId} {c : Channel}

/-- It is one record or none, and the one that is found. -/
theorem recordsOf_eq : r.recordsOf id c = (r.findAttempt? id c).toList :=
  r.attempts.map_snd_filter (id, c)

theorem contains_key :
    r.attempts.contains a.key = (r.findAttempt? a.notification a.channel).isSome :=
  rfl

theorem save_attempt : store.save r a = r.written (r.saveAttempt a) := rfl

theorem update_attempt : store.update r a = r.written (r.updateAttempt a) := rfl

theorem findAttempt?_insert (r : Repository) (a : Attempt) (id : NotificationId) (c : Channel) :
    findAttempt? { r with attempts := r.attempts.insert a.key a } id c =
      if (id, c) = a.key then some a else r.findAttempt? id c :=
  r.attempts.get?_insert a.key (id, c) a

/-- A record is saved where there is none. -/
theorem findAttempt?_save (haccepts : r.rejectsWrites = false) :
    (store.save r a).1.findAttempt? id c =
      if (id, c) = a.key then some ((r.findAttempt? id c).getD a) else r.findAttempt? id c := by
  rw [save_attempt, saveAttempt, if_neg (Bool.eq_false_iff.mp haccepts)]
  by_cases hkey : (id, c) = a.key
  · rw [if_pos hkey, contains_key]
    cases hkey
    cases hfound : r.findAttempt? a.notification a.channel with
    | none => simpa [written, Attempt.key] using r.findAttempt?_insert a a.notification a.channel
    | some b => simpa [written] using hfound
  · rw [if_neg hkey]
    split
    · rfl
    · rw [written, findAttempt?_insert, if_neg hkey]

theorem findAttempt?_save_self (haccepts : r.rejectsWrites = false) (hkey : a.key = (id, c)) :
    (store.save r a).1.findAttempt? id c = some ((r.findAttempt? id c).getD a) := by
  rw [findAttempt?_save haccepts, if_pos hkey.symm]

/-- An outcome is written where there is a record. -/
theorem findAttempt?_update (haccepts : r.rejectsWrites = false) :
    (store.update r a).1.findAttempt? id c =
      if (id, c) = a.key then (r.findAttempt? id c).map fun _ => a else r.findAttempt? id c := by
  rw [update_attempt, updateAttempt, if_neg (Bool.eq_false_iff.mp haccepts)]
  by_cases hkey : (id, c) = a.key
  · rw [if_pos hkey, contains_key]
    cases hkey
    cases hfound : r.findAttempt? a.notification a.channel with
    | none => simpa [written] using hfound
    | some b => simpa [written, Attempt.key] using r.findAttempt?_insert a a.notification a.channel
  · rw [if_neg hkey]
    split
    · rw [written, findAttempt?_insert, if_neg hkey]
    · rfl

theorem findAttempt?_update_self (haccepts : r.rejectsWrites = false) (hkey : a.key = (id, c)) :
    (store.update r a).1.findAttempt? id c = (r.findAttempt? id c).map fun _ => a := by
  rw [findAttempt?_update haccepts, if_pos hkey.symm]

theorem rejectsWrites_save : (store.save r a).1.rejectsWrites = r.rejectsWrites := by
  rw [save_attempt, saveAttempt]
  split
  · rfl
  · split <;> rfl

theorem rejectsWrites_update : (store.update r a).1.rejectsWrites = r.rejectsWrites := by
  rw [update_attempt, updateAttempt]
  split
  · rfl
  · split <;> rfl

/-- What others write. -/
inductive Write where
  | save (n : Notification)
  | saveAttempt (a : Attempt)
  | updateAttempt (a : Attempt)

namespace Write

/-- The record that is written, if it is one. -/
def key? : Write → Option (NotificationId × Channel)
  | .save _ => none
  | .saveAttempt a | .updateAttempt a => some a.key

end Write

def perform (r : Repository) : Write → Repository
  | .save n => (r.written (r.save n)).1
  | .saveAttempt a => (store.save r a).1
  | .updateAttempt a => (store.update r a).1

variable {w : Write}

theorem rejectsWrites_perform : (r.perform w).rejectsWrites = r.rejectsWrites := by
  cases w with
  | save n =>
      simp only [perform, save]
      split
      · rfl
      · split <;> rfl
  | saveAttempt a => exact rejectsWrites_save
  | updateAttempt a => exact rejectsWrites_update

/-- A write leaves all records alone but the one with its key. -/
theorem findAttempt?_perform (hother : w.key? ≠ some (id, c)) :
    (r.perform w).findAttempt? id c = r.findAttempt? id c := by
  have hne (a : Attempt) (hkey : w.key? = some a.key) : (id, c) ≠ a.key :=
    fun heq => hother (hkey.trans (congrArg some heq.symm))
  cases w with
  | save n =>
      simp only [perform, save]
      split
      · rfl
      · split <;> rfl
  | saveAttempt a =>
      rw [perform, save_attempt, saveAttempt]
      split
      · rfl
      · split
        · rfl
        · rw [written, findAttempt?_insert, if_neg (hne a rfl)]
  | updateAttempt a =>
      rw [perform, update_attempt, updateAttempt]
      split
      · rfl
      · split
        · rw [written, findAttempt?_insert, if_neg (hne a rfl)]
        · rfl

end Repository

end Courier
