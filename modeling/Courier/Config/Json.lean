import Courier.Binary64.Decimal
import Courier.Config.Path
import Courier.Json.Reader

/-! # Configuration in JSON

The text of a layer has to be an object. Of several members with one name the
last counts, and whole numbers beyond 64 bits with sign become doubles.
-/

namespace Courier.Config

open Courier

def ofNumber : Json.Number → Value
  | .whole n => if Text.fitsSigned n then .whole n else .real (Decimal.ofInt n).toFloat
  | .real x => .real x

mutual

def ofJson : Json.Value → Value
  | .null => .null
  | .bool b => .bool b
  | .number n => ofNumber n
  | .string s => .string s
  | .array items => .array (ofItems items)
  | .object members => .table (ofMembers members [])

def ofItems : List Json.Value → List Value
  | [] => []
  | v :: rest => ofJson v :: ofItems rest

/-- Sets members after those in `ms`. -/
def ofMembers : List (String × Json.Value) → Members → Members
  | [], ms => ms
  | (name, v) :: rest, ms => ofMembers rest (ms.set name (ofJson v))

end

/-- The layer that a text sets. -/
def readJson? (s : String) : Option Layer :=
  match Json.Value.read? s.toList with
  | some (.object members) => some (ofMembers members [])
  | _ => none

end Courier.Config
