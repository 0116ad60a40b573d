import Courier.Binary64.Decimal
import Courier.Json.Reader
import Courier.Record

/-! # Decoding JSON

A decoder reads a value of its type from a fragment. Only three causes of
failure are named; everything else that does not fit is `malformed`.
-/

namespace Courier.Json

inductive DecodeError where
  | malformed
  | missingField (name : String)
  | duplicateField (name : String)
  | unknownVariant (found : String) (expected : List String)
  deriving DecidableEq, Repr

/-- Names between backquotes, as alternatives. -/
def alternatives : List String → String
  | [a] => "`" ++ a ++ "`"
  | [a, b] => "`" ++ a ++ "` or `" ++ b ++ "`"
  | names => "one of " ++ String.intercalate ", " (names.map fun n => "`" ++ n ++ "`")

def DecodeError.message? : DecodeError → Option String
  | .malformed => none
  | .missingField name => some ("missing field `" ++ name ++ "`")
  | .duplicateField name => some ("duplicate field `" ++ name ++ "`")
  | .unknownVariant found expected =>
      some ("unknown variant `" ++ found ++ "`, expected " ++ alternatives expected)

abbrev Decoder (α : Type) := Fragment → Except DecodeError α

namespace Decoder

variable {α : Type}

def bool : Decoder Bool
  | .bool b => .ok b
  | _ => .error .malformed

def string : Decoder String
  | .string (some s) => .ok s
  | _ => .error .malformed

/-- A whole number to which `convert` gives a value. -/
def whole (convert : Int → Option α) : Decoder α
  | .number (some (.whole n)) =>
      match convert n with
      | some a => .ok a
      | none => .error .malformed
  | _ => .error .malformed

/-- Conversion of the whole numbers from zero to below `bound`. -/
def below (bound : Nat) (convert : Nat → α) (n : Int) : Option α :=
  if 0 ≤ n ∧ n < bound then some (convert n.toNat) else none

def uint8 : Decoder UInt8 := whole (below UInt8.size UInt8.ofNat)

def uint32 : Decoder UInt32 := whole (below UInt32.size UInt32.ofNat)

def uint64 : Decoder UInt64 := whole (below UInt64.size UInt64.ofNat)

def int32 : Decoder Int32 :=
  whole fun n => if -2147483648 ≤ n ∧ n < 2147483648 then some (Int32.ofInt n) else none

def real : Decoder Float
  | .number (some (.whole n)) => .ok (Decimal.ofInt n).toFloat
  | .number (some (.real x)) => .ok x
  | _ => .error .malformed

/-- A string to which `convert` gives a value. -/
def text (convert : String → Option α) : Decoder α
  | .string (some s) =>
      match convert s with
      | some a => .ok a
      | none => .error .malformed
  | _ => .error .malformed

def option (decode : Decoder α) : Decoder (Option α)
  | .null => .ok none
  | f => (decode f).map some

def items (decode : Decoder α) : Items → Except DecodeError (List α)
  | .done => .ok []
  | .cut => .error .malformed
  | .item head rest => do
      let a ← decode head
      let as ← items decode rest
      return a :: as

def list (decode : Decoder α) : Decoder (List α)
  | .array as => items decode as
  | _ => .error .malformed

def entries (decode : Decoder α) : Members → Except DecodeError (List (String × α))
  | .done => .ok []
  | .cut => .error .malformed
  | .member none _ _ => .error .malformed
  | .member (some name) value rest => do
      let a ← decode value
      let as ← entries decode rest
      return (name, a) :: as

/-- An object with arbitrary names, as name and value of each member. -/
def dictionary (decode : Decoder α) : Decoder (List (String × α))
  | .object _ members => entries decode members
  | _ => .error .malformed

def named (variants : List (String × α)) (name : String) : Except DecodeError α :=
  match variants.find? (·.1 = name) with
  | some (_, a) => .ok a
  | none => .error (.unknownVariant name (variants.map Prod.fst))

/-- One of several named variants: its name, or an object with that name and
`null`. An object that was held back is first seen to have a single member,
and an empty object does for `null` in it. -/
def variant (variants : List (String × α)) : Decoder α
  | .string (some name) => named variants name
  | .object false (.member (some name) value rest) => do
      let a ← named variants name
      match value, rest with
      | .null, .done => return a
      | _, _ => throw .malformed
  | .object true (.member (some name) value .done) => do
      let a ← named variants name
      match value with
      | .null => return a
      | .object _ .done => return a
      | _ => throw .malformed
  | _ => .error .malformed

/-- The members with a name in `names`, in order, up to the first problem:
a name that occurs again, or a text that stops being JSON. -/
def selectMembers (names seen : List String) :
    Members → List (String × Fragment) × Option DecodeError
  | .done => ([], none)
  | .cut => ([], some .malformed)
  | .member none _ _ => ([], some .malformed)
  | .member (some name) value rest =>
      if name ∈ names then
        if name ∈ seen then ([], some (.duplicateField name))
        else
          let (chosen, ending) := selectMembers names (name :: seen) rest
          ((name, value) :: chosen, ending)
      else if value.isComplete then selectMembers names seen rest
      else ([], some .malformed)

/-- Gives each item the name of its position. More items than names are a
problem. -/
def nameItems : List String → Items → List (String × Fragment) × Option DecodeError
  | [], .done => ([], none)
  | [], _ => ([], some .malformed)
  | _ :: _, .done => ([], none)
  | _ :: _, .cut => ([], some .malformed)
  | name :: names, .item head rest =>
      let (chosen, ending) := nameItems names rest
      ((name, head) :: chosen, ending)

/-- A record: an object, or an array of its fields in order. -/
def record (r : Record Fragment DecodeError α) : Decoder α
  | .object _ members =>
      let (chosen, ending) := selectMembers r.names [] members
      r.run ⟨chosen, true, .missingField⟩ ending
  | .array items =>
      let (chosen, ending) := nameItems r.names items
      r.run ⟨chosen, false, fun _ => .malformed⟩ ending
  | _ => .error .malformed

/-- Decodes a text that consists of one value. -/
def decodeText (decode : Decoder α) (s : String) : Except DecodeError α := do
  let (fragment, rest) := Fragment.read s.toList
  let a ← decode fragment
  if (skipSpace rest).isEmpty then return a else throw .malformed

end Decoder

end Courier.Json
