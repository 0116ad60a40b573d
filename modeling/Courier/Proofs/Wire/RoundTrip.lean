import Courier.Proofs.Json.Records
import Courier.Proofs.Json.RoundTrip
import Courier.Proofs.Wire.Texts
import Courier.Wire

/-! # What was encoded is decoded

Every event, notification, attempt and preference, and every copy of a
notification with its channels, is read back from the text it is written to. Each
part is shown to come back from its own fragment, and to be written without a
number that no word holds; the record is then put together from its fields.
-/

namespace Courier

open Json Json.Decoder

/-- Everything that is encoded can be written, and the decoder gets it back. -/
structure RoundTrips {α : Type} (decode : Decoder α) (encode : α → Value) : Prop where
  exact : ∀ a, (encode a).Exact
  inverts : Inverts decode encode

namespace RoundTrips

variable {α : Type} {decode : Decoder α} {encode : α → Value}

theorem decodeText (h : RoundTrips decode encode) (a : α) :
    Json.Decoder.decodeText decode (encode a).text = .ok a :=
  decodeText_text (h.exact a) (h.inverts a)

theorem ofOption (h : RoundTrips decode encode) (hvalue : ∀ a, encode a ≠ .null) :
    RoundTrips (option decode) (Value.ofOption encode) where
  exact
    | none => .null
    | some a => h.exact a
  inverts := inverts_option h.inverts hvalue

theorem ofList (h : RoundTrips decode encode) :
    RoundTrips (list decode) (Value.ofList encode) where
  exact _ := .array (List.forall_mem_map.mpr fun a _ => h.exact a)
  inverts := inverts_list h.inverts

end RoundTrips

/-! ## Texts and numbers -/

theorem roundTrips_string : RoundTrips string .string :=
  ⟨.string, inverts_string⟩

/-- An enumeration is read by the names under which it is written, as no two are alike. -/
theorem roundTrips_variant {α : Type} {name : α → String} {all : List α} (hall : ∀ a, a ∈ all)
    (hnodup : (all.map name).Nodup) :
    RoundTrips (variant (variantsOf name all)) (fun a => .string (name a)) where
  exact a := .string (name a)
  inverts a := by
    have hfind : all.find? (name · = name a) = some a := by
      have hsome : (all.find? (name · = name a)).isSome :=
        List.find?_isSome.mpr ⟨a, hall a, decide_eq_true rfl⟩
      obtain ⟨b, hb⟩ := Option.isSome_iff_exists.mp hsome
      have hname : name b = name a := by
        simpa only [decide_eq_true_eq] using List.find?_some hb
      rw [hb, List.inj_on_of_nodup_map hnodup (hall b) (hall a) hname]
    change named (variantsOf name all) (name a) = .ok a
    rw [named, variantsOf, List.find?_map]
    simp only [Function.comp_def, hfind, Option.map_some]

/-- A type is written as text, and its own reader is asked when it is read. -/
theorem roundTrips_text {α : Type} {read? : String → Option α} {text : α → String}
    (hread : ∀ a, read? (text a) = some a) :
    RoundTrips (Json.Decoder.text read?) (fun a => .string (text a)) where
  exact a := .string (text a)
  inverts a := by
    change Json.Decoder.text read? (.string (some (text a))) = .ok a
    rw [Json.Decoder.text, hread a]

theorem roundTrips_whole {α : Type} {convert : Int → Option α} (toInt : α → Int)
    (hfits : ∀ a, FitsWord (toInt a)) (hconvert : ∀ a, convert (toInt a) = some a) :
    RoundTrips (whole convert) (fun a => .int (toInt a)) where
  exact a := .number (hfits a)
  inverts a := by
    change whole convert (.number (some (.whole (toInt a)))) = .ok a
    rw [whole, hconvert a]

theorem below_ofNat {α : Type} {bound n : Nat} (hn : n < bound) (convert : Nat → α) :
    below bound convert n = some (convert n) :=
  if_pos ⟨Int.natCast_nonneg n, Int.ofNat_lt.mpr hn⟩

theorem fitsWord_ofNat {n : Nat} (hn : n < capacity) : FitsWord n :=
  ⟨Int.le_trans (by decide) (Int.natCast_nonneg n), Int.ofNat_lt.mpr hn⟩

theorem roundTrips_uint8 : RoundTrips uint8 (fun n => .nat n.toNat) :=
  roundTrips_whole (fun n : UInt8 => n.toNat)
    (fun n => fitsWord_ofNat (Nat.lt_trans n.toNat_lt (by decide)))
    fun n => by rw [below_ofNat n.toNat_lt, UInt8.ofNat_toNat]

theorem roundTrips_uint32 : RoundTrips uint32 (fun n => .nat n.toNat) :=
  roundTrips_whole (fun n : UInt32 => n.toNat)
    (fun n => fitsWord_ofNat (Nat.lt_trans n.toNat_lt (by decide)))
    fun n => by rw [below_ofNat n.toNat_lt, UInt32.ofNat_toNat]

theorem roundTrips_int32 : RoundTrips int32 (fun n => .int n.toInt) := by
  refine roundTrips_whole Int32.toInt (fun n => ?_) fun n => ?_
  · have hleast := n.le_toInt
    have hmost := n.toInt_lt
    exact ⟨Int.le_trans (by decide) hleast, Int.lt_trans hmost (by decide)⟩
  · rw [if_pos ⟨n.le_toInt, n.toInt_lt⟩, Int32.ofInt_toInt]

theorem NotificationId.roundTrips : RoundTrips decode encode :=
  roundTrips_text read?_text

theorem Timestamp.roundTrips : RoundTrips decode encode :=
  roundTrips_text read?_text

/-! ## Enumerations -/

theorem Channel.roundTrips : RoundTrips decode encode :=
  roundTrips_variant mem_all (by decide)

theorem Category.roundTrips : RoundTrips decode encode :=
  roundTrips_variant (fun c => by cases c <;> decide) (by decide)

theorem Status.roundTrips : RoundTrips decode encode :=
  roundTrips_variant (fun s => by cases s <;> decide) (by decide)

theorem AttemptStatus.roundTrips : RoundTrips decode encode :=
  roundTrips_variant (fun s => by cases s <;> decide) (by decide)

/-! ## Records -/

/-- The entries can be written, and the record is read from them as `a`. -/
structure Represents {α : Type} (r : Record Fragment DecodeError α)
    (entries : List (String × Value)) (a : α) : Prop where
  exact : ∀ e ∈ entries, e.2.Exact
  reads : Reads r entries a

namespace Represents

variable {α β : Type} {decode : Decoder α} {encode : α → Value}
  {entries entries' : List (String × Value)} {a : α}

theorem field (h : RoundTrips decode encode) (name : String) (a : α)
    (whenNamed whenPlaced : Option α) :
    Represents (.field name decode whenNamed whenPlaced) [(name, encode a)] a where
  exact := List.forall_mem_singleton.mpr (h.exact a)
  reads := reads_field (h.inverts a) whenNamed whenPlaced

theorem map {r : Record Fragment DecodeError α} (h : Represents r entries a) (f : α → β) :
    Represents (f <$> r) entries (f a) :=
  ⟨h.exact, h.reads.map f⟩

theorem seq {f : Record Fragment DecodeError (α → β)} {r : Record Fragment DecodeError α}
    {g : α → β} (hf : Represents f entries g) (hr : Represents r entries' a) :
    Represents (f <*> r) (entries ++ entries') (g a) :=
  ⟨List.forall_mem_append.mpr ⟨hf.exact, hr.exact⟩, hf.reads.seq hr.reads⟩

end Represents

theorem roundTrips_record {α : Type} {r : Record Fragment DecodeError α} {encode : α → Value}
    (hnodup : r.names.Nodup)
    (h : ∀ a, ∃ entries, encode a = .object entries ∧ Represents r entries a) :
    RoundTrips (record r) encode where
  exact a := by
    obtain ⟨entries, hencode, hentries⟩ := h a
    exact hencode ▸ .object hentries.exact
  inverts a := by
    obtain ⟨entries, hencode, hentries⟩ := h a
    rw [hencode]
    exact hentries.reads.record (hentries.reads.names ▸ hnodup)

theorem Notification.roundTrips : RoundTrips decode encode := by
  refine roundTrips_record (by decide) fun n => ⟨_, rfl, ?_⟩
  have hid := Represents.field NotificationId.roundTrips "id" n.id none none
  have huser := Represents.field roundTrips_string "user_id" n.user none none
  have hcategory := Represents.field Category.roundTrips "category" n.category none none
  have htitle := Represents.field roundTrips_string "title" n.title none none
  have hcontent := Represents.field roundTrips_string "content" n.content none none
  have hstatus := Represents.field Status.roundTrips "status" n.status none none
  have hpriority := Represents.field roundTrips_int32 "priority" n.priority none none
  have hcreated := Represents.field Timestamp.roundTrips "created_at" n.createdAt none none
  have hupdated := Represents.field Timestamp.roundTrips "updated_at" n.updatedAt none none
  exact ((((((((hid.map mk).seq huser).seq hcategory).seq htitle).seq hcontent).seq
    hstatus).seq hpriority).seq hcreated).seq hupdated

theorem Attempt.roundTrips : RoundTrips decode encode := by
  refine roundTrips_record (by decide) fun a => ⟨_, rfl, ?_⟩
  have hid := Represents.field NotificationId.roundTrips "notification_id" a.notification none none
  have hchannel := Represents.field Channel.roundTrips "channel" a.channel none none
  have hcount := Represents.field roundTrips_uint32 "attempt_count" a.count none none
  have hlast := Represents.field (Timestamp.roundTrips.ofOption fun _ => nofun)
    "last_attempt_at" a.lastAt (some none) none
  have hstatus := Represents.field AttemptStatus.roundTrips "status" a.status none none
  exact ((((hid.map mk).seq hchannel).seq hcount).seq hlast).seq hstatus

theorem Preference.roundTrips : RoundTrips decode encode := by
  refine roundTrips_record (by decide) fun p => ⟨_, rfl, ?_⟩
  have huser := Represents.field roundTrips_string "user_id" p.user none none
  have hchannels := Represents.field Channel.roundTrips.ofList "enabled_channels" p.channels
    none none
  have hfrom := Represents.field roundTrips_uint8 "quiet_hours_start" p.quietFrom (some 0) (some 0)
  have huntil := Represents.field roundTrips_uint8 "quiet_hours_end" p.quietUntil (some 0) (some 0)
  exact (((huser.map mk).seq hchannels).seq hfrom).seq huntil

theorem RoutedNotification.roundTrips : RoundTrips decode encode := by
  refine roundTrips_record (by decide) fun r => ⟨_, rfl, ?_⟩
  have hnotification := Represents.field Notification.roundTrips "notification" r.notification
    none none
  have hchannels := Represents.field Channel.roundTrips.ofList "channels" r.channels none none
  exact (hnotification.map mk).seq hchannels

/-- The kind is written first, so the content is read where it stands and is not held back. -/
theorem Payload.decodeMembers_encode (depth : Nat) (routed : RoutedNotification) :
    decodeMembers depth (.ofValues [("kind", .string "notification"), ("data", routed.encode)]) =
      .ok (.notification routed) := by
  have hcontent : decodeContent (.ofValue routed.encode) = .ok (.notification routed) := by
    rw [decodeContent, RoutedNotification.roundTrips.inverts routed]
    rfl
  have hkind : nextPart (.ofValues [("kind", .string "notification"), ("data", routed.encode)]) =
      .ok (some ("kind", .string (some "notification"), .ofValues [("data", routed.encode)])) :=
    if_pos (.inl rfl)
  have hdata : nextPart (.ofValues [("data", routed.encode)]) =
      .ok (some ("data", .ofValue routed.encode, .done)) :=
    if_pos (.inr rfl)
  have hnamed : decodeKind (.string (some "notification")) = .ok () := rfl
  have hend : noMoreParts .done = .ok () := rfl
  have hother : "data" ≠ "kind" := by decide
  simp only [decodeMembers, hkind, hnamed, hdata, hcontent, hend, bind, Except.bind, if_true,
    if_neg hother]
  rfl

theorem Payload.roundTrips (outer : Nat) : RoundTrips (decode outer) encode where
  exact
    | .notification routed => by
        have hrouted := RoutedNotification.roundTrips.exact routed
        refine .object (List.forall_mem_cons.mpr ⟨.string _, ?_⟩)
        exact List.forall_mem_singleton.mpr hrouted
  inverts
    | .notification routed => decodeMembers_encode _ routed

theorem Event.roundTrips : RoundTrips decode encode := by
  refine roundTrips_record (by decide) fun e => ⟨_, rfl, ?_⟩
  have hid := Represents.field roundTrips_string "id" e.id none none
  have hpayload := Represents.field (Payload.roundTrips 1) "payload" e.payload none none
  have hretries := Represents.field roundTrips_uint32 "retries" e.retries none none
  exact ((hid.map mk).seq hpayload).seq hretries

/-- The text that is written for a value is decoded to this value, with all strings, identifiers,
numbers and lists of channels that it can hold, and with moments of any year and fraction, leap
seconds among them. -/
theorem decodeText_encode_text :
    (∀ e : Event, decodeText Event.decode e.encode.text = .ok e) ∧
    (∀ n : Notification, decodeText Notification.decode n.encode.text = .ok n) ∧
    (∀ r : RoutedNotification, decodeText RoutedNotification.decode r.encode.text = .ok r) ∧
    (∀ a : Attempt, decodeText Attempt.decode a.encode.text = .ok a) ∧
    ∀ p : Preference, decodeText Preference.decode p.encode.text = .ok p :=
  ⟨Event.roundTrips.decodeText, Notification.roundTrips.decodeText,
    RoutedNotification.roundTrips.decodeText, Attempt.roundTrips.decodeText,
    Preference.roundTrips.decodeText⟩

end Courier
