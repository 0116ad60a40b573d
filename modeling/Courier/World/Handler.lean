import Courier.Delivery
import Courier.World.Script

/-! # Handlers

What a consumer calls with its events: a script, or the delivery of the event
by a sender, which may be a script as well. A call starts, takes its time, and
ends; what it changes is split between start and end.
-/

namespace Courier

/-- What a delivery sends with. -/
inductive Transport where
  | simulated (sender : Sender)
  | scripted (name : String) (channel : Channel) (script : Script)

namespace Transport

def channel : Transport → Channel
  | .simulated s => s.channel
  | .scripted _ c _ => c

end Transport

inductive Handler where
  | scripted (script : Script)
  | delivering (transport : Transport)

/-- A call that has not ended yet: what will come of it. -/
inductive Call where
  | scripted (outcome : Outcome)
  /-- The event is not for the channel of the sender. -/
  | refused (e : DeliveryError)
  /-- The attempt that was counted, and how the send goes. -/
  | delivery (attempt : Attempt) (result : Except SendError Unit)

/-- The channel and words of scripted failures. -/
def scriptedReason (o : Outcome) : String :=
  "scripted " ++ o.name

def scriptedDetail : String := "scripted"

/-- A scripted handler fails to send on the e-mail channel. The result is
`none` if the call panics. -/
def Outcome.handled : Outcome → Option (Except DeliveryError Unit)
  | .ok => some (.ok ())
  | .transient => some (.error (.send (.transient .email (scriptedReason .transient))))
  | .unavailable => some (.error (.send (.unavailable .email (scriptedReason .unavailable))))
  | .invalid => some (.error (.invalidPayload scriptedDetail))
  | .other => some (.error (.other scriptedDetail))
  | .panic => none

/-- For a sender every failure but an outage is transient. -/
def Outcome.sent (c : Channel) (o : Outcome) : Except SendError Unit :=
  match o with
  | .ok => .ok ()
  | .unavailable => .error (.unavailable c (scriptedReason .unavailable))
  | _ => .error (.transient c (scriptedReason .transient))

/-- How many steps there are from zero to one. -/
def drawSteps : Nat := 9007199254740992

/-- A number from zero to below one. -/
def draw (chance : StdGen) : Float × StdGen :=
  let (n, chance) := randNat chance 0 (drawSteps - 1)
  (Float.ofScientific n false 0 / Float.ofScientific drawSteps false 0, chance)

end Courier
