import Courier.Binary64.Shortest
import Courier.Config.Value
import Courier.Settings.Fields
import Courier.Text.Quoted

/-! # Settings from a configuration

A configuration value need not have the type of the field that it is for:
numbers, booleans and strings stand for each other where that makes sense.
Errors say where in the configuration the value is.
-/

namespace Courier.Config

/-- A place in a configuration. -/
inductive Place where
  | top
  | member (outer : Place) (name : String)
  | item (outer : Place) (i : Nat)
  deriving DecidableEq, Repr

namespace Place

/-- The place in front of a place that is written as `inner`: names are
separated by points, brackets stand by themselves. -/
def textBefore : Place → String → String
  | .top, inner => inner
  | .member outer name, inner =>
      let mark := if inner.isEmpty ∨ inner.front = '[' then "" else "."
      outer.textBefore (name ++ mark ++ inner)
  | .item outer i, inner => outer.textBefore ("[" ++ toString i ++ "]" ++ inner)

def text (p : Place) : String :=
  p.textBefore ""

end Place

/-- What was found instead of a value that fits. -/
inductive Found where
  | null
  | bool (b : Bool)
  | whole (n : Int)
  | signed (n : Int)
  | unsigned (n : Nat)
  | real (x : Float)
  | string (s : String)
  | array
  | table

namespace Found

def ofValue : Value → Found
  | .null => .null
  | .bool b => .bool b
  | .whole n => .whole n
  | .real x => .real x
  | .string s => .string s
  | .array _ => .array
  | .table _ => .table

/-- A double always shows a point. -/
def realText (x : Float) : String :=
  let s := floatText x
  if x.isFinite ∧ ¬s.contains '.' then s ++ ".0" else s

def text : Found → String
  | .null => "unit value"
  | .bool b => "boolean `" ++ toString b ++ "`"
  | .whole n => "integer `" ++ toString n ++ "`"
  | .signed n => "64-bit integer `" ++ toString n ++ "`"
  | .unsigned n => "64-bit unsigned integer `" ++ toString n ++ "`"
  | .real x => "floating point `" ++ realText x ++ "`"
  | .string s => "string " ++ Text.quoted s
  | .array => "sequence"
  | .table => "map"

end Found

/-- Why there are no settings. -/
inductive Error where
  /-- A variable was assigned a value that it cannot have. -/
  | badVariable
  /-- A file is not in its format. -/
  | unreadable (file : String)
  /-- The value of a field cannot be converted. -/
  | wrongValue (place : Place) (found : Found) (expected : String)
  /-- There is a value where a record or table should be. -/
  | wrongKind (found : Found) (expected : String)
  | tooShort (length : Nat) (record : String) (fields : Nat)
  | unknownFormat (name : String)
  | noFormat

namespace Error

def message : Error → String
  | .badVariable => "a variable cannot hold a zero character"
  | .unreadable file => "cannot parse " ++ file
  | .wrongValue _ found expected => found.text ++ ", expected " ++ expected
  | .wrongKind found expected => "invalid type: " ++ found.text ++ ", expected " ++ expected
  | .tooShort length record fields =>
      "invalid length " ++ toString length ++ ", expected struct " ++ record ++ " with " ++
        toString fields ++ " elements"
  | .unknownFormat name => "enum LogFormat does not have variant constructor " ++ name
  | .noFormat =>
      "value of enum LogFormat should be represented by either string or table with exactly one key"

end Error

/-- A value and its place. -/
structure Located where
  place : Place
  value : Value

namespace Located

variable {α : Type}

def fail (l : Located) (found : Found) (expected : String) : Except Error α :=
  .error (.wrongValue l.place found expected)

def reject (l : Located) (expected : String) : Except Error α :=
  l.fail (Found.ofValue l.value) expected

/-- The words for true, apart from `1`. -/
def trueWords : List String := ["true", "on", "yes"]

/-- The words for false, apart from `0`. -/
def falseWords : List String := ["false", "off", "no"]

def wordValue? (s : String) : Option Bool :=
  let s := Text.lower s
  if s ∈ trueWords then some true else if s ∈ falseWords then some false else none

/-- Every number but zero is true. -/
def bool (l : Located) : Except Error Bool :=
  match l.value with
  | .bool b => .ok b
  | .whole n => .ok (n ≠ 0)
  | .real x => .ok (x != 0.0)
  | .string s =>
      let s := Text.lower s
      if s = "1" ∨ s ∈ trueWords then .ok true
      else if s = "0" ∨ s ∈ falseWords then .ok false
      else l.fail (.string s) "a boolean"
  | _ => l.reject "a boolean"

/-- The nearest whole number, a half going away from zero, within the range
of 64 bits. -/
def roundedUInt64 (x : Float) : UInt64 :=
  x.round.toUInt64

def uint64 (l : Located) : Except Error UInt64 :=
  match l.value with
  | .bool b => .ok (if b then 1 else 0)
  | .whole n =>
      if n < 0 then l.fail (.signed n) "an unsigned 64 bit or less integer"
      else .ok (UInt64.ofNat n.toNat)
  | .real x => .ok (roundedUInt64 x)
  | .string s =>
      match wordValue? s, Text.readNatBelow? UInt64.size s.toList with
      | some b, _ => .ok (if b then 1 else 0)
      | none, some n => .ok (UInt64.ofNat n)
      | none, none => l.reject "an integer"
  | _ => l.reject "an integer"

def uint32 (l : Located) : Except Error UInt32 := do
  let n ← l.uint64
  if n.toNat < UInt32.size then return n.toUInt32
  else l.fail (.unsigned n.toNat) "an unsigned 32 bit integer"

def real (l : Located) : Except Error Float :=
  match l.value with
  | .bool b => .ok (if b then 1.0 else 0.0)
  | .whole n => .ok (Decimal.ofInt n).toFloat
  | .real x => .ok x
  | .string s =>
      match wordValue? s, readFloat? s.toList with
      | some b, _ => .ok (if b then 1.0 else 0.0)
      | none, some x => .ok x
      | none, none => l.reject "a floating point"
  | _ => l.reject "a floating point"

def string (l : Located) : Except Error String :=
  match l.value with
  | .bool b => .ok (toString b)
  | .whole n => .ok (toString n)
  | .real x => .ok (floatText x)
  | .string s => .ok s
  | _ => l.reject "a string"

/-- Names of formats are found in any case. -/
def formatOfName (name : String) : Except Error LogFormat :=
  match LogFormat.all.find? fun f => f.name = Text.lower name with
  | some f => .ok f
  | none => .error (.unknownFormat name)

/-- The name of the format, or a table with that name and any value. -/
def logFormat (l : Located) : Except Error LogFormat :=
  match l.value with
  | .string s => formatOfName s
  | .table [(name, _)] => formatOfName name
  | _ => .error .noFormat

def option (read : Located → Except Error α) (l : Located) : Except Error (Option α) :=
  match l.value with
  | .null => .ok none
  | _ => (read l).map some

def member (l : Located) (name : String) (v : Value) : Located :=
  ⟨.member l.place name, v⟩

def item (l : Located) (i : Nat) (v : Value) : Located :=
  ⟨.item l.place i, v⟩

def dictionary (read : Located → Except Error α) (l : Located) :
    Except Error (List (String × α)) :=
  match l.value with
  | .table ms => ms.mapM fun (name, v) => (read (l.member name v)).map (name, ·)
  | v => .error (.wrongKind (.ofValue v) "a map")

/-- A table, or an array of the fields in order. Items beyond the fields are
not looked at. -/
def record (name : String) (r : Record Located Error α) (l : Located) : Except Error α :=
  match l.value with
  | .table ms =>
      let parts := ms.map fun (name, v) => (name, l.member name v)
      r.run ⟨parts, true, fun _ => .tooShort ms.length name r.names.length⟩ none
  | .array vs =>
      let parts := r.names.zip (vs.zipIdx.map fun (v, i) => l.item i v)
      r.run ⟨parts, false, fun _ => .tooShort vs.length name r.names.length⟩ none
  | v => .error (.wrongKind (.ofValue v) ("struct " ++ name))

end Located

/-- How settings are read from a configuration. -/
def encoding : Encoding Located Error where
  bool := Located.bool
  uint32 := Located.uint32
  uint64 := Located.uint64
  real := Located.real
  string := Located.string
  logFormat := Located.logFormat
  option := Located.option
  dictionary := Located.dictionary
  record := Located.record

def Value.settings (config : Value) : Except Error Settings :=
  Settings.read encoding ⟨.top, config⟩

end Courier.Config
