import Courier.Attempt
import Courier.Event
import Courier.Json.Decode
import Courier.Json.Writer

/-! # Wire format

Notifications, attempts, preferences and events as JSON. Members are written
in the order of declaration; in reading, their order is free and members with
other names are skipped.
-/

namespace Courier

open Json Json.Decoder

/-- Enumerations are read by the names under which they are written. -/
def variantsOf {α : Type} (name : α → String) (all : List α) : List (String × α) :=
  all.map fun a => (name a, a)

namespace Channel

def encode (c : Channel) : Value := .string c.name

def decode : Decoder Channel := variant (variantsOf name all)

end Channel

namespace Category

def encode (c : Category) : Value := .string c.name

def decode : Decoder Category := variant (variantsOf name all)

end Category

namespace Status

def encode (s : Status) : Value := .string s.name

def decode : Decoder Status := variant (variantsOf name all)

end Status

namespace AttemptStatus

def encode (s : AttemptStatus) : Value := .string s.name

def decode : Decoder AttemptStatus := variant (variantsOf name all)

end AttemptStatus

namespace NotificationId

def encode (id : NotificationId) : Value := .string id.text

def decode : Decoder NotificationId := Json.Decoder.text read?

end NotificationId

namespace Timestamp

def encode (t : Timestamp) : Value := .string t.text

def decode : Decoder Timestamp := Json.Decoder.text read?

end Timestamp

namespace Notification

def encode (n : Notification) : Value :=
  .object [
    ("id", n.id.encode),
    ("user_id", .string n.user),
    ("category", n.category.encode),
    ("title", .string n.title),
    ("content", .string n.content),
    ("status", n.status.encode),
    ("priority", .int n.priority.toInt),
    ("created_at", n.createdAt.encode),
    ("updated_at", n.updatedAt.encode)]

def fields : Record Fragment DecodeError Notification :=
  mk <$> .required "id" NotificationId.decode
    <*> .required "user_id" string
    <*> .required "category" Category.decode
    <*> .required "title" string
    <*> .required "content" string
    <*> .required "status" Status.decode
    <*> .required "priority" int32
    <*> .required "created_at" Timestamp.decode
    <*> .required "updated_at" Timestamp.decode

def decode : Decoder Notification := record fields

end Notification

namespace Attempt

def encode (a : Attempt) : Value :=
  .object [
    ("notification_id", a.notification.encode),
    ("channel", a.channel.encode),
    ("attempt_count", .nat a.count.toNat),
    ("last_attempt_at", .ofOption Timestamp.encode a.lastAt),
    ("status", a.status.encode)]

def fields : Record Fragment DecodeError Attempt :=
  mk <$> .required "notification_id" NotificationId.decode
    <*> .required "channel" Channel.decode
    <*> .required "attempt_count" uint32
    <*> .nullable "last_attempt_at" (option Timestamp.decode)
    <*> .required "status" AttemptStatus.decode

def decode : Decoder Attempt := record fields

end Attempt

namespace Preference

def encode (p : Preference) : Value :=
  .object [
    ("user_id", .string p.user),
    ("enabled_channels", .ofList Channel.encode p.channels),
    ("quiet_hours_start", .nat p.quietFrom.toNat),
    ("quiet_hours_end", .nat p.quietUntil.toNat)]

def fields : Record Fragment DecodeError Preference :=
  mk <$> .required "user_id" string
    <*> .required "enabled_channels" (list Channel.decode)
    <*> .withDefault "quiet_hours_start" uint8 0
    <*> .withDefault "quiet_hours_end" uint8 0

def decode : Decoder Preference := record fields

end Preference

namespace RoutedNotification

def encode (r : RoutedNotification) : Value :=
  .object [
    ("notification", r.notification.encode),
    ("channels", .ofList Channel.encode r.channels)]

def fields : Record Fragment DecodeError RoutedNotification :=
  mk <$> .required "notification" Notification.decode
    <*> .required "channels" (list Channel.decode)

def decode : Decoder RoutedNotification := record fields

end RoutedNotification

namespace Payload

def encode : Payload → Value
  | .notification routed =>
      .object [("kind", .string "notification"), ("data", routed.encode)]

/-- The kind of a payload is read as an enumeration; there is one so far. -/
def decodeKind : Decoder Unit := variant [("notification", ())]

/-- Skips members up to one that is called `kind` or `data`. -/
def nextPart : Members → Except DecodeError (Option (String × Fragment × Members))
  | .done => .ok none
  | .cut => .error .malformed
  | .member none _ _ => .error .malformed
  | .member (some name) value rest =>
      if name = "kind" ∨ name = "data" then .ok (some (name, value, rest))
      else if value.isComplete then nextPart rest
      else .error .malformed

/-- Neither part may follow a second time. -/
def noMoreParts (members : Members) : Except DecodeError Unit := do
  match ← nextPart members with
  | some (name, _, _) => throw (.duplicateField name)
  | none => return ()

/-- The content where the kind is known by then. -/
def decodeContent (content : Fragment) : Except DecodeError Payload := do
  return .notification (← RoutedNotification.decode content)

/-- Kind and content, in either order. Content that comes first is held back,
so it has to be whole and not nested too deeply before its kind is looked at.
-/
def decodeMembers (depth : Nat) (members : Members) : Except DecodeError Payload := do
  match ← nextPart members with
  | none => throw (.missingField "kind")
  | some (first, value, rest) =>
      if first = "kind" then
        decodeKind value
        match ← nextPart rest with
        | none => throw (.missingField "data")
        | some (second, content, rest) =>
            if second = "kind" then throw (.duplicateField "kind")
            let payload ← decodeContent content
            noMoreParts rest
            return payload
      else
        -- The content comes first and waits for its kind.
        if (value.toValue? depth).isNone then throw .malformed
        match ← nextPart rest with
        | none => throw (.missingField "kind")
        | some (second, kind, rest) =>
            if second = "data" then throw (.duplicateField "data")
            decodeKind kind
            let payload ← decodeContent value.hold
            noMoreParts rest
            return payload

/-- A payload that lies within `outer` containers. -/
def decode (outer : Nat) : Decoder Payload
  | .object _ members => decodeMembers (maxDepth - outer - 1) members
  | .array (.item kind (.item content rest)) => do
      decodeKind kind
      let payload ← decodeContent content
      match rest with
      | .done => return payload
      | _ => throw .malformed
  | .array (.item kind _) => do
      decodeKind kind
      throw .malformed
  | _ => .error .malformed

end Payload

namespace Event

def encode (e : Event) : Value :=
  .object [
    ("id", .string e.id),
    ("payload", e.payload.encode),
    ("retries", .nat e.retries.toNat)]

def fields : Record Fragment DecodeError Event :=
  mk <$> .required "id" string
    <*> .required "payload" (Payload.decode 1)
    <*> .required "retries" uint32

def decode : Decoder Event := record fields

end Event

end Courier
