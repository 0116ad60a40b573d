import Courier.Json.Value

/-! # Fragments of JSON text

A fragment is what can be told about a text that may stop being JSON
somewhere. Everything before that place is kept, and the place itself is
marked by `cut`; so a reader that goes through a fragment from left to right
meets its own errors and those of the text in the order in which they occur.

Two kinds of value are sound as long as nobody asks for their content:
strings with an escape that names half a character, and numbers beyond the
range of a double. They are kept with content `none`.
-/

namespace Courier.Json

mutual

inductive Fragment where
  | null
  | bool (b : Bool)
  | number (n : Option Number)
  | string (s : Option String)
  | array (items : Items)
  /-- An object; `held` if it was read before it was known what to expect. -/
  | object (held : Bool) (members : Members)
  | cut

inductive Items where
  | done
  | cut
  | item (head : Fragment) (rest : Items)

inductive Members where
  | done
  | cut
  | member (name : Option String) (value : Fragment) (rest : Members)

end

instance : Inhabited Fragment := ⟨.cut⟩

mutual

/-- The text went on being JSON to the end of the value. -/
def Fragment.isComplete : Fragment → Bool
  | .array items => items.isComplete
  | .object _ members => members.isComplete
  | .cut => false
  | _ => true

def Items.isComplete : Items → Bool
  | .done => true
  | .cut => false
  | .item head rest => head.isComplete && rest.isComplete

def Members.isComplete : Members → Bool
  | .done => true
  | .cut => false
  | .member _ value rest => value.isComplete && rest.isComplete

end

mutual

/-- The fragment of a whole value. -/
def Fragment.ofValue : Value → Fragment
  | .null => .null
  | .bool b => .bool b
  | .number n => .number (some n)
  | .string s => .string (some s)
  | .array items => .array (Items.ofValues items)
  | .object members => .object false (Members.ofValues members)

def Items.ofValues : List Value → Items
  | [] => .done
  | v :: rest => .item (Fragment.ofValue v) (Items.ofValues rest)

def Members.ofValues : List (String × Value) → Members
  | [] => .done
  | (name, v) :: rest => .member (some name) (Fragment.ofValue v) (Members.ofValues rest)

end

mutual

/-- The value of a complete fragment with no more than `depth` containers
inside each other. -/
def Fragment.toValue? (depth : Nat) : Fragment → Option Value
  | .null => some .null
  | .bool b => some (.bool b)
  | .number n => n.map .number
  | .string s => s.map .string
  | .array items =>
      if 0 < depth then (items.toValues? (depth - 1)).map .array else none
  | .object _ members =>
      if 0 < depth then (members.toValues? (depth - 1)).map .object else none
  | .cut => none

def Items.toValues? (depth : Nat) : Items → Option (List Value)
  | .done => some []
  | .cut => none
  | .item head rest => do
      let v ← head.toValue? depth
      let vs ← rest.toValues? depth
      return v :: vs

def Members.toValues? (depth : Nat) : Members → Option (List (String × Value))
  | .done => some []
  | .cut => none
  | .member name value rest => do
      let name ← name
      let v ← value.toValue? depth
      let vs ← rest.toValues? depth
      return (name, v) :: vs

end

mutual

/-- Marks every object as read ahead of need. -/
def Fragment.hold : Fragment → Fragment
  | .array items => .array items.hold
  | .object _ members => .object true members.hold
  | f => f

def Items.hold : Items → Items
  | .item head rest => .item head.hold rest.hold
  | items => items

def Members.hold : Members → Members
  | .member name value rest => .member name value.hold rest.hold
  | members => members

end

/-- Containers may be nested this deep where a value is read without
knowing what to expect. -/
def maxDepth : Nat := 127

end Courier.Json
