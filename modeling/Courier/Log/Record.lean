import Courier.Json.Writer
import Courier.Log.Filter
import Courier.Settings.Basic

/-! # Log records -/

namespace Courier.Log

structure Record where
  level : Level
  target : String
  message : String
  /-- Further facts by name. -/
  facts : List (String × Json.Value)

namespace Record

/-- The message and the facts. -/
def fields (r : Record) : List (String × Json.Value) :=
  ("message", .string r.message) :: r.facts

def levelName (r : Record) : String :=
  r.level.name.map Char.toUpper

def json (r : Record) : Json.Value :=
  .object [("level", .string r.levelName), ("fields", .object r.fields), ("target", .string r.target)]

/-- Strings stand for themselves among the facts of a line. -/
def factText (fact : String × Json.Value) : String :=
  match fact with
  | (name, .string s) => " " ++ name ++ "=" ++ s
  | (name, v) => " " ++ name ++ "=" ++ v.text

def line (r : Record) : String :=
  r.levelName ++ " " ++ r.target ++ ": " ++ r.message ++ String.join (r.facts.map factText)

def text (format : LogFormat) (r : Record) : String :=
  match format with
  | .pretty => r.line
  | .json => r.json.text

end Record

/-- The records that a filter lets through. -/
def Filter.apply (f : Filter) (records : List Record) : List Record :=
  records.filter fun r => f.lets r.level r.target (r.fields.map Prod.fst)

end Courier.Log
