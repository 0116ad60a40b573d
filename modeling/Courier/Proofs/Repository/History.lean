import Courier.Proofs.Delivery.Records
import Mathlib.Data.List.Induction
import Mathlib.Data.List.Nodup

/-! # What a repository remembers

Writes come in any order, some of them while they are rejected. A write is accepted
if writes are on and its key is free, or taken for an update; one that is not leaves
everything as it was. So what is found is what the accepted writes say: a
notification as it was saved, and an attempt record as it was saved or last updated.
-/

namespace Courier

namespace Repository

/-! ## One write -/

/-- The repository with this written to it, or why it is not. -/
def write (r : Repository) : Write → Except StorageError Repository
  | .save n => r.save n
  | .saveAttempt a => r.saveAttempt a
  | .updateAttempt a => r.updateAttempt a

/-- One rule for each kind of write that is accepted. -/
inductive Takes (r : Repository) : Write → Repository → Prop where
  | save {n : Notification} (haccepts : r.rejectsWrites = false) (hfree : r.find? n.id = none) :
      Takes r (.save n) { r with notifications := r.notifications.insert n.id n }
  | saveAttempt {a : Attempt} (haccepts : r.rejectsWrites = false)
      (hfree : r.findAttempt? a.notification a.channel = none) :
      Takes r (.saveAttempt a) { r with attempts := r.attempts.insert a.key a }
  | updateAttempt {a b : Attempt} (haccepts : r.rejectsWrites = false)
      (hheld : r.findAttempt? a.notification a.channel = some b) :
      Takes r (.updateAttempt a) { r with attempts := r.attempts.insert a.key a }

variable {r r' : Repository} {w : Write} {id : NotificationId} {c : Channel}

theorem perform_eq_written (r : Repository) (w : Write) :
    r.perform w = (r.written (r.write w)).1 := by
  cases w <;> rfl

theorem contains_id_eq_false_iff : r.notifications.contains id = false ↔ r.find? id = none := by
  rw [Table.contains_eq_isSome, Option.isSome_eq_false_iff, Option.isNone_iff_eq_none]
  rfl

theorem write_eq_ok_iff : r.write w = .ok r' ↔ r.Takes w r' := by
  constructor
  · intro hwritten
    cases w with
    | save n =>
        obtain ⟨haccepts, hfree, rfl⟩ := save_eq_ok_iff.mp hwritten
        exact .save haccepts (contains_id_eq_false_iff.mp hfree)
    | saveAttempt a =>
        rw [write, saveAttempt, contains_key] at hwritten
        split at hwritten
        next => cases hwritten
        next haccepts =>
          split at hwritten
          next => cases hwritten
          next hfree =>
            cases hwritten
            exact .saveAttempt (Bool.eq_false_iff.mpr haccepts) (by simpa using hfree)
    | updateAttempt a =>
        rw [write, updateAttempt, contains_key] at hwritten
        split at hwritten
        next => cases hwritten
        next haccepts =>
          split at hwritten
          next hheld =>
            cases hwritten
            obtain ⟨b, hfound⟩ := Option.isSome_iff_exists.mp hheld
            exact .updateAttempt (Bool.eq_false_iff.mpr haccepts) hfound
          next => cases hwritten
  · intro htaken
    cases htaken with
    | save haccepts hfree =>
        exact save_eq_ok_iff.mpr ⟨haccepts, contains_id_eq_false_iff.mpr hfree, rfl⟩
    | saveAttempt haccepts hfree => simp [write, Repository.saveAttempt, contains_key, *]
    | updateAttempt haccepts hheld => simp [write, Repository.updateAttempt, contains_key, *]

/-- A write that fails leaves everything as it was. -/
theorem perform_of_error {cause : StorageError} (hfailed : r.write w = .error cause) :
    r.perform w = r := by
  rw [perform_eq_written, hfailed]
  rfl

theorem perform_of_takes (htaken : r.Takes w r') : r.perform w = r' := by
  rw [perform_eq_written, write_eq_ok_iff.mpr htaken]
  rfl

/-- The key is free for something new, and held for an update. -/
def Fits (r : Repository) : Write → Prop
  | .save n => r.find? n.id = none
  | .saveAttempt a => r.findAttempt? a.notification a.channel = none
  | .updateAttempt a => (r.findAttempt? a.notification a.channel).isSome = true

theorem exists_write_iff :
    (∃ r', r.write w = .ok r') ↔ r.rejectsWrites = false ∧ r.Fits w := by
  constructor
  · rintro ⟨r', hwritten⟩
    cases write_eq_ok_iff.mp hwritten with
    | save haccepts hfree | saveAttempt haccepts hfree => exact ⟨haccepts, hfree⟩
    | updateAttempt haccepts hheld => exact ⟨haccepts, Option.isSome_of_eq_some hheld⟩
  · rintro ⟨haccepts, hfits⟩
    cases w with
    | save n => exact ⟨_, write_eq_ok_iff.mpr (.save haccepts hfits)⟩
    | saveAttempt a => exact ⟨_, write_eq_ok_iff.mpr (.saveAttempt haccepts hfits)⟩
    | updateAttempt a =>
        obtain ⟨b, hheld⟩ := Option.isSome_iff_exists.mp hfits
        exact ⟨_, write_eq_ok_iff.mpr (.updateAttempt haccepts hheld)⟩

/-! ## What is stored under which key -/

/-- Everything is stored under its own key. -/
structure Keyed (r : Repository) : Prop where
  notifications : ∀ entry ∈ r.notifications.entries, entry.1 = entry.2.id
  attempts : ∀ entry ∈ r.attempts.entries, entry.1 = entry.2.key

theorem keyed_iff {κ α : Type} [DecidableEq κ] {t : Table κ α} {key : α → κ} :
    (∀ entry ∈ t.entries, entry.1 = key entry.2) ↔ ∀ k a, t.get? k = some a → k = key a := by
  simp only [Prod.forall, Table.mem_entries_iff]

theorem keyed_insert {κ α : Type} [DecidableEq κ] {t : Table κ α} {key : α → κ}
    (hkeyed : ∀ entry ∈ t.entries, entry.1 = key entry.2) (a : α) :
    ∀ entry ∈ (t.insert (key a) a).entries, entry.1 = key entry.2 := by
  rw [keyed_iff] at hkeyed ⊢
  intro k b hfound
  rw [Table.get?_insert] at hfound
  split at hfound
  next hk =>
    cases hfound
    exact hk
  next => exact hkeyed k b hfound

theorem Takes.keyed (htaken : r.Takes w r') (hkeyed : r.Keyed) : r'.Keyed := by
  cases htaken with
  | save => exact ⟨keyed_insert hkeyed.notifications _, hkeyed.attempts⟩
  | saveAttempt | updateAttempt => exact ⟨hkeyed.notifications, keyed_insert hkeyed.attempts _⟩

/-- A record is found under its own key. -/
theorem Keyed.key_eq (hkeyed : r.Keyed) {a : Attempt} (hfound : r.findAttempt? id c = some a) :
    a.notification = id ∧ a.channel = c := by
  have hkey : (id, c) = a.key := keyed_iff.mp hkeyed.attempts (id, c) a hfound
  exact ⟨(congrArg Prod.fst hkey).symm, (congrArg Prod.snd hkey).symm⟩

theorem mem_attemptsOf_iff {a : Attempt} :
    a ∈ r.attemptsOf id ↔ ∃ c, r.findAttempt? id c = some a := by
  simp [attemptsOf, List.mem_filterMap, Channel.mem_all]

/-- The list names each channel that has a record. -/
theorem Keyed.map_channel_attemptsOf (hkeyed : r.Keyed) (id : NotificationId) :
    (r.attemptsOf id).map Attempt.channel =
      Channel.all.filter fun c => (r.findAttempt? id c).isSome := by
  unfold attemptsOf
  induction Channel.all with
  | nil => rfl
  | cons c rest ih =>
      cases hfound : r.findAttempt? id c with
      | none => simp [hfound, ih]
      | some a => simp [hfound, ih, (hkeyed.key_eq hfound).2]

theorem Keyed.nodup_map_channel (hkeyed : r.Keyed) (id : NotificationId) :
    ((r.attemptsOf id).map Attempt.channel).Nodup := by
  rw [hkeyed.map_channel_attemptsOf]
  exact List.Nodup.filter _ (by decide)

/-- The list has the records of the notification that are stored, and no others. -/
theorem Keyed.attemptsOf_perm (hkeyed : r.Keyed) (id : NotificationId) :
    (r.attemptsOf id).Perm (r.attempts.values.filter fun a => a.notification = id) := by
  have hkeys : r.attempts.values.map Attempt.key = r.attempts.keys := by
    rw [Table.values, Table.keys, List.map_map]
    exact List.map_congr_left fun entry hmem => (hkeyed.attempts entry hmem).symm
  have hnodup : r.attempts.values.Nodup := by
    apply List.Nodup.of_map Attempt.key
    rw [hkeys]
    exact r.attempts.nodup_keys
  rw [List.perm_ext_iff_of_nodup (hkeyed.nodup_map_channel id).of_map (hnodup.filter _)]
  intro a
  rw [mem_attemptsOf_iff, List.mem_filter, decide_eq_true_eq]
  constructor
  · rintro ⟨c, hfound⟩
    have hentry : ((id, c), a) ∈ r.attempts.entries := Table.mem_entries_iff.mpr hfound
    exact ⟨List.mem_map_of_mem hentry, (hkeyed.key_eq hfound).1⟩
  · rintro ⟨hstored, rfl⟩
    obtain ⟨⟨key, b⟩, hentry, rfl⟩ := List.mem_map.mp hstored
    have hkey : key = b.key := hkeyed.attempts _ hentry
    subst hkey
    exact ⟨b.channel, Table.mem_entries_iff.mp hentry⟩

/-- What is found for a channel is what the list has for it. -/
theorem Keyed.findAttempt?_eq_find? (hkeyed : r.Keyed) (id : NotificationId) (c : Channel) :
    r.findAttempt? id c = (r.attemptsOf id).find? fun a => a.channel = c := by
  have hlisted : ∀ a, ((r.attemptsOf id).find? fun a => a.channel = c) = some a →
      r.findAttempt? id c = some a := by
    intro a hfirst
    obtain ⟨c', hfound⟩ := mem_attemptsOf_iff.mp (List.mem_of_find?_eq_some hfirst)
    have hchannel := List.find?_some (p := fun a : Attempt => a.channel = c) hfirst
    rwa [← of_decide_eq_true hchannel, (hkeyed.key_eq hfound).2]
  cases hfirst : (r.attemptsOf id).find? fun a => a.channel = c with
  | some a => exact hlisted a hfirst
  | none =>
      rw [List.find?_eq_none] at hfirst
      rw [Option.eq_none_iff_forall_ne_some]
      intro a hfound
      apply hfirst a (mem_attemptsOf_iff.mpr ⟨c, hfound⟩)
      exact decide_eq_true (hkeyed.key_eq hfound).2

/-! ## Every sequence of writes -/

inductive Operation where
  | write (w : Write)
  /-- Writes are rejected from now on, or accepted. -/
  | reject (on : Bool)

/-- What the operation says of writes that come after it. -/
def Operation.switch? : Operation → Option Bool
  | .write _ => none
  | .reject on => some on

def operate (r : Repository) : Operation → Repository
  | .write w => r.perform w
  | .reject on => r.rejecting on

def run (r : Repository) (operations : List Operation) : Repository :=
  operations.foldl operate r

/-- The operation as a write, if it is accepted. -/
def taken (r : Repository) : Operation → List Write
  | .write w => if (r.write w).isOk then [w] else []
  | .reject _ => []

/-- The writes that are accepted, in order. -/
def accepted (r : Repository) : List Operation → List Write
  | [] => []
  | operation :: rest => r.taken operation ++ (r.operate operation).accepted rest

variable {operation : Operation} {operations : List Operation} {history : List Write}

theorem run_concat (r : Repository) (operations : List Operation) (operation : Operation) :
    r.run (operations ++ [operation]) = (r.run operations).operate operation := by
  simp [run]

theorem accepted_concat (r : Repository) (operations : List Operation) (operation : Operation) :
    r.accepted (operations ++ [operation]) =
      r.accepted operations ++ (r.run operations).taken operation := by
  induction operations generalizing r with
  | nil => simp [accepted, run]
  | cons first rest ih =>
      rw [List.cons_append, accepted, ih, accepted, List.append_assoc]
      rfl

/-- What new repositories have, and accepted writes and switches keep, every
repository has. -/
theorem run_induction {P : List Write → Repository → Prop} (hnew : P [] empty)
    (hreject : ∀ history r on, P history r → P history (r.rejecting on))
    (htakes : ∀ history r w r', P history r → r.Takes w r' → P (history ++ [w]) r')
    (operations : List Operation) : P (empty.accepted operations) (empty.run operations) := by
  induction operations using List.reverseRecOn with
  | nil => exact hnew
  | append_singleton earlier operation ih =>
      rw [accepted_concat, run_concat]
      cases operation with
      | reject on =>
          rw [taken, List.append_nil]
          exact hreject _ _ on ih
      | write w =>
          rw [taken, operate]
          cases hwritten : (empty.run earlier).write w with
          | ok r' =>
              have htaken := write_eq_ok_iff.mp hwritten
              rw [perform_of_takes htaken]
              exact htakes _ _ w r' ih htaken
          | error cause =>
              rw [perform_of_error hwritten]
              simpa [Except.isOk, Except.toBool] using ih

theorem keyed_run (operations : List Operation) : (empty.run operations).Keyed := by
  apply run_induction (P := fun _ r => r.Keyed)
  · exact ⟨List.forall_mem_nil _, List.forall_mem_nil _⟩
  · exact fun _ r on hkeyed => ⟨hkeyed.notifications, hkeyed.attempts⟩
  · exact fun _ r w r' hkeyed htaken => htaken.keyed hkeyed

/-- Writes are rejected if the last switch says so. -/
theorem rejectsWrites_run (operations : List Operation) :
    (empty.run operations).rejectsWrites =
      ((operations.filterMap Operation.switch?).getLast?).getD false := by
  induction operations using List.reverseRecOn with
  | nil => rfl
  | append_singleton earlier operation ih =>
      rw [run_concat, List.filterMap_append]
      cases operation with
      | write w =>
          rw [operate, rejectsWrites_perform, ih]
          simp [Operation.switch?]
      | reject on => simp [Operation.switch?, operate, rejecting]

/-! ## What was written is what is found -/

/-- The notification that is saved, if it is one with this identifier. -/
def Write.notification? (id : NotificationId) : Write → Option Notification
  | .save n => if n.id = id then some n else none
  | _ => none

theorem Takes.notifications_eq (htaken : r.Takes w r')
    (hsaved : history.filterMap (Write.notification? id) = (r.find? id).toList) :
    (history ++ [w]).filterMap (Write.notification? id) = (r'.find? id).toList := by
  rw [List.filterMap_append, hsaved]
  cases htaken with
  | @save n haccepts hfree =>
      have hfind : find? { r with notifications := r.notifications.insert n.id n } id =
          if id = n.id then some n else r.find? id := r.notifications.get?_insert n.id id n
      rw [hfind]
      by_cases hid : n.id = id
      · subst hid
        simp [Write.notification?, hfree]
      · simp [Write.notification?, hid, Ne.symm hid]
  | saveAttempt | updateAttempt => exact List.append_nil _

/-- The writes for a notification and channel. -/
def writesTo (key : NotificationId × Channel) (history : List Write) : List Write :=
  history.filter fun w => w.key? = some key

theorem writesTo_concat_self {key : NotificationId × Channel} (hkey : w.key? = some key) :
    writesTo key (history ++ [w]) = writesTo key history ++ [w] := by
  simp [writesTo, hkey]

theorem writesTo_concat_of_ne {key : NotificationId × Channel} (hkey : w.key? ≠ some key) :
    writesTo key (history ++ [w]) = writesTo key history := by
  simp [writesTo, hkey]

/-- What was written for a notification and channel: at first one record, and then
what it was updated to, of which the last is found. -/
inductive Told (found : Option Attempt) : List Write → Prop where
  | nothing (hnone : found = none) : Told found []
  | saved {a : Attempt} {later : List Attempt} (hlast : found = some (later.getLast?.getD a)) :
      Told found (.saveAttempt a :: later.map .updateAttempt)

theorem Told.eq_nil {writes : List Write} (htold : Told none writes) : writes = [] := by
  cases htold with
  | nothing => rfl
  | saved hlast => cases hlast

theorem findAttempt?_insert_self (r : Repository) (a : Attempt) :
    findAttempt? { r with attempts := r.attempts.insert a.key a } a.notification a.channel =
      some a :=
  r.attempts.get?_insert_self a.key a

/-- One more update is the last one. -/
theorem Told.update {a b : Attempt} {writes : List Write} (htold : Told (some b) writes) :
    Told (some a) (writes ++ [.updateAttempt a]) := by
  cases htold with
  | nothing hnone => cases hnone
  | @saved first later hlast =>
      have hwrites : .saveAttempt first :: later.map Write.updateAttempt ++ [.updateAttempt a] =
          .saveAttempt first :: (later ++ [a]).map Write.updateAttempt := by simp
      rw [hwrites]
      exact .saved (by simp)

theorem Takes.told (htaken : r.Takes w r')
    (htold : Told (r.findAttempt? id c) (writesTo (id, c) history)) :
    Told (r'.findAttempt? id c) (writesTo (id, c) (history ++ [w])) := by
  by_cases hkey : w.key? = some (id, c)
  · rw [writesTo_concat_self hkey]
    -- A record is saved only where there was none, so nothing was written there before.
    cases htaken with
    | save => cases hkey
    | @saveAttempt a haccepts hfree =>
        cases hkey
        rw [hfree] at htold
        rw [htold.eq_nil, findAttempt?_insert_self]
        exact @Told.saved (some a) a [] rfl
    | @updateAttempt a b haccepts hheld =>
        cases hkey
        rw [hheld] at htold
        rw [findAttempt?_insert_self]
        exact htold.update
  · rw [writesTo_concat_of_ne hkey, ← perform_of_takes htaken, findAttempt?_perform hkey]
    exact htold

/-- A notification that is stored stays as it is. -/
theorem find?_run_of_some {n : Notification} (hfound : r.find? id = some n)
    (operations : List Operation) : (r.run operations).find? id = some n := by
  induction operations generalizing r with
  | nil => exact hfound
  | cons operation rest ih =>
      apply ih
      cases operation with
      | reject on => exact hfound
      | write w =>
          rw [operate]
          cases hwritten : r.write w with
          | error cause => rwa [perform_of_error hwritten]
          | ok after =>
              have htaken := write_eq_ok_iff.mp hwritten
              rw [perform_of_takes htaken]
              cases htaken with
              | @save m haccepts hfree =>
                  have hother : id ≠ m.id := by
                    rintro rfl
                    cases hfree.symm.trans hfound
                  rw [find?, Table.get?_insert, if_neg hother]
                  exact hfound
              | saveAttempt | updateAttempt => exact hfound

/-- What holds of a repository after these operations. -/
structure Sound (operations : List Operation) (r : Repository) : Prop where
  keyed : r.Keyed
  /-- The records of a notification are those that are stored and name it. -/
  listed : ∀ id, (r.attemptsOf id).Perm (r.attempts.values.filter fun a => a.notification = id)
  onePerChannel : ∀ id, ((r.attemptsOf id).map Attempt.channel).Nodup
  found : ∀ id c, r.findAttempt? id c = (r.attemptsOf id).find? fun a => a.channel = c
  /-- A notification was saved once if it is found, and else never. -/
  saved : ∀ id, (empty.accepted operations).filterMap (Write.notification? id) =
    (r.find? id).toList
  kept : ∀ id n, r.find? id = some n → ∀ later, (r.run later).find? id = some n
  /-- An attempt is found as it was saved, or as it was updated last. -/
  told : ∀ id c, Told (r.findAttempt? id c) (writesTo (id, c) (empty.accepted operations))
  rejects : r.rejectsWrites = ((operations.filterMap Operation.switch?).getLast?).getD false
  accepts_iff : ∀ w, (∃ r', r.write w = .ok r') ↔ r.rejectsWrites = false ∧ r.Fits w
  unchanged : ∀ w cause, r.write w = .error cause → r.perform w = r

/-- Whatever was written to a new repository, with writes rejected every now and
then: all is under its own key, as it was last written by a write that was accepted;
those are the writes that fit while writes are on, and the others change nothing. -/
theorem sound_of_run (operations : List Operation) : Sound operations (empty.run operations) := by
  have hkeyed := keyed_run operations
  refine ⟨hkeyed, hkeyed.attemptsOf_perm, hkeyed.nodup_map_channel, hkeyed.findAttempt?_eq_find?,
    fun id => ?_, fun id n => find?_run_of_some, fun id c => ?_, rejectsWrites_run operations,
    fun w => exists_write_iff, fun w cause => perform_of_error⟩
  · apply run_induction
      (P := fun history r => history.filterMap (Write.notification? id) = (r.find? id).toList)
    · rfl
    · exact fun _ _ _ hsaved => hsaved
    · exact fun _ _ _ _ hsaved htaken => htaken.notifications_eq hsaved
  · apply run_induction (P := fun history r => Told (r.findAttempt? id c) (writesTo (id, c) history))
    · exact .nothing rfl
    · exact fun _ _ _ htold => htold
    · exact fun _ _ _ _ htold htaken => htaken.told htold

end Repository

end Courier
