import Courier.Text.Numeral

/-! # Levels of log records -/

namespace Courier.Log

/-- Levels from the least to the most detailed. -/
inductive Level where
  | off
  | error
  | warn
  | info
  | debug
  | trace
  deriving DecidableEq, Inhabited, Repr

namespace Level

def all : List Level :=
  [.off, .error, .warn, .info, .debug, .trace]

def name : Level → String
  | .off => "off"
  | .error => "error"
  | .warn => "warn"
  | .info => "info"
  | .debug => "debug"
  | .trace => "trace"

/-- The place among the levels. -/
def rank (l : Level) : Nat :=
  all.idxOf l

/-- A level is read by its name in any case, or by its number. -/
def read? (s : List Char) : Option Level :=
  match Text.readNatBelow? all.length s with
  | some n => all[n]?
  | none => all.find? fun l => l.name.toList = s.map Char.toLower

end Level

end Courier.Log
