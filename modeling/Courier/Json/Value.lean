/-! # JSON values

A number is whole or a double: whole numbers are those written without point
and exponent that fit in 64 bits, signed or unsigned. Objects keep their
members in the order in which they were written.
-/

namespace Courier.Json

inductive Number where
  | whole (n : Int)
  | real (x : Float)

inductive Value where
  | null
  | bool (b : Bool)
  | number (n : Number)
  | string (s : String)
  | array (items : List Value)
  | object (members : List (String × Value))
  deriving Inhabited

namespace Value

def nat (n : Nat) : Value :=
  .number (.whole n)

def int (n : Int) : Value :=
  .number (.whole n)

/-- `null` stands for an absent value. -/
def ofOption {α : Type} (write : α → Value) : Option α → Value
  | none => .null
  | some a => write a

def ofList {α : Type} (write : α → Value) (as : List α) : Value :=
  .array (as.map write)

/-- The member of that name; of several, the last. -/
def member? (v : Value) (name : String) : Option Value :=
  match v with
  | .object members => (members.reverse.find? (·.1 = name)).map Prod.snd
  | _ => none

end Value

end Courier.Json
