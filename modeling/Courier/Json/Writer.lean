import Courier.Json.Value
import Courier.Json.Text
import Courier.Binary64.Shortest

/-! # Writing JSON

Compact text: no blanks, members in order.
-/

namespace Courier.Json

/-- Doubles that JSON cannot express are written as `null`. -/
def Number.write : Number → List Char
  | .whole n => if n < 0 then '-' :: Nat.toDigits 10 n.natAbs else Nat.toDigits 10 n.natAbs
  | .real x => if x.isFinite then (floatText x).toList else ['n', 'u', 'l', 'l']

mutual

def Value.write : Value → List Char
  | .null => ['n', 'u', 'l', 'l']
  | .bool true => ['t', 'r', 'u', 'e']
  | .bool false => ['f', 'a', 'l', 's', 'e']
  | .number n => n.write
  | .string s => writeString s
  | .array [] => ['[', ']']
  | .array (v :: rest) => '[' :: v.write ++ Value.writeItems rest
  | .object [] => ['\x7b', '\x7d']
  | .object ((name, v) :: rest) =>
      '\x7b' :: writeString name ++ ':' :: v.write ++ Value.writeMembers rest

/-- The items after the first, up to the closing bracket. -/
def Value.writeItems : List Value → List Char
  | [] => [']']
  | v :: rest => ',' :: v.write ++ Value.writeItems rest

/-- The members after the first, up to the closing brace. -/
def Value.writeMembers : List (String × Value) → List Char
  | [] => ['\x7d']
  | (name, v) :: rest =>
      ',' :: writeString name ++ ':' :: v.write ++ Value.writeMembers rest

end

def Value.text (v : Value) : String :=
  String.ofList v.write

end Courier.Json
