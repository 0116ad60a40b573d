import Courier.Notification

/-! # Routing

A notification goes to the default channels of its category. A user who has
enabled channels narrows the defaults to these; one who has enabled none is
treated like one without preferences.
-/

namespace Courier

namespace Category

/-- Default channels in the order of delivery. -/
def defaultChannels : Category → List Channel
  | .transaction => [.email, .push, .inApp]
  | .marketing => [.email, .inApp]
  | .security => [.email, .sms, .push]
  | .system => [.inApp]

theorem nodup_defaultChannels (c : Category) : c.defaultChannels.Nodup := by
  cases c <;> decide

end Category

/-- The channels a notification is routed to. -/
def resolveChannels (n : Notification) (preference : Option Preference) : List Channel :=
  let defaults := n.category.defaultChannels
  match preference with
  | some p => if p.channels = [] then defaults else defaults.filter p.allows
  | none => defaults

theorem nodup_resolveChannels (n : Notification) (preference : Option Preference) :
    (resolveChannels n preference).Nodup := by
  have h := n.category.nodup_defaultChannels
  unfold resolveChannels
  split
  · split
    · exact h
    · exact h.filter _
  · exact h

end Courier
