import Courier.Binary64.Decimal
import Courier.Config.Path

/-! # Environment

Variables whose names start with `fanout__`, in any case, set values of the
configuration; in the rest of the name `__` separates levels.
-/

namespace Courier.Config

/-- Variables with their values. -/
abbrev Environment := List (String × String)

namespace Environment

def get? (env : Environment) (name : String) : Option String :=
  (env.find? (·.1 = name)).map Prod.snd

/-- Ends the value of a variable, so that none contains it. -/
def terminator : Char := '\x00'

/-- Adds a variable unless it is set. -/
def add? (env : Environment) (name value : String) : Option Environment :=
  if (env.get? name).isSome then some env
  else if value.contains terminator then none
  else some (env ++ [(name, value)])

/-- The variables in a block of `name=value` entries. -/
def ofBlock (s : String) : Environment :=
  (s.splitOn terminator.toString).filterMap fun entry =>
    match entry.splitOn "=" with
    | name :: value :: rest => some (name, String.intercalate "=" (value :: rest))
    | _ => none

/-! ## Values for the configuration -/

/-- A text is a boolean or a number if it can be read as one. -/
def readScalar (s : String) : Value :=
  match Text.lower s with
  | "true" => .bool true
  | "false" => .bool false
  | _ =>
      match Text.readInt64? s.toList, readFloat? s.toList with
      | some n, _ => .whole n
      | none, some x => .real x
      | none, none => .string s

def startOfNames : List Char := "fanout__".toList

/-- Pairs of low lines become points. -/
def pointed : List Char → List Char
  | '_' :: '_' :: rest => '.' :: pointed rest
  | c :: rest => c :: pointed rest
  | [] => []

/-- The name in the configuration, for a variable that is meant for it. -/
def target? (name : String) : Option String :=
  let cs := (Text.lower name).toList
  if startOfNames.isPrefixOf cs then
    some (String.ofList (pointed (cs.drop startOfNames.length)))
  else none

/-- Adds what one variable sets. -/
def addTo (layer : Layer) : String × String → Layer
  | (name, value) =>
      match target? name with
      | some target => Named.set layer target (readScalar value)
      | none => layer

/-- What the environment sets. Of several variables for one name the last counts. -/
def layer (env : Environment) : Layer :=
  env.foldl addTo []

end Environment

end Courier.Config
