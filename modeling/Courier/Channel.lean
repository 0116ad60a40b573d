/-! # Delivery channels

The channels a notification can be routed through. Each has a topic to which
its events are published.
-/

namespace Courier

abbrev Topic := String

inductive Channel where
  | email
  | sms
  | push
  | inApp
  deriving DecidableEq, Inhabited, Repr

namespace Channel

/-- Every channel, in order of declaration. -/
def all : List Channel :=
  [.email, .sms, .push, .inApp]

def name : Channel → String
  | .email => "email"
  | .sms => "sms"
  | .push => "push"
  | .inApp => "inapp"

def ofName? (s : String) : Option Channel :=
  all.find? (·.name = s)

/-- What is said of a name that no channel has. -/
def unknownName (s : String) : String :=
  "unknown channel type: " ++ s

def topic (c : Channel) : Topic :=
  c.name ++ "-notifications"

theorem mem_all (c : Channel) : c ∈ all := by
  cases c <;> decide

theorem ofName?_name (c : Channel) : ofName? c.name = some c := by
  cases c <;> decide

theorem name_injective {a b : Channel} (h : a.name = b.name) : a = b := by
  have := congrArg ofName? h
  simpa [ofName?_name] using this

end Channel

end Courier
