import Courier.Config.Path

/-! # Arrangements

The members of a table have no order of their own. When a table is laid they come
in some order, which shows only if the names of two members lead to one place: if
they differ in case only, or if one of them is a path. An arrangement tells the
order for each table of a layer. Tables in arrays are not laid.
-/

namespace Courier.Config

structure Arrangement where
  /-- The members of the table to which names lead. -/
  arrange : List String → Members → Members
  perm : ∀ names ms, (arrange names ms).Perm ms

namespace Arrangement

/-- Every table as it was read. -/
def asRead : Arrangement := ⟨fun _ ms => ms, fun _ ms => .refl ms⟩

mutual

def value (a : Arrangement) (names : List String) : Value → Value
  | .table ms => .table (a.arrange names (a.members names ms))
  | .null => .null
  | .bool b => .bool b
  | .whole n => .whole n
  | .real x => .real x
  | .string s => .string s
  | .array vs => .array vs

/-- Arranges each of the members by itself. -/
def members (a : Arrangement) (names : List String) : List (String × Value) → Members
  | [] => []
  | (name, v) :: rest => (name, a.value (names ++ [name]) v) :: a.members names rest

end

def layer (a : Arrangement) (layer : Layer) : Layer :=
  a.arrange [] (a.members [] layer)

mutual

theorem value_asRead (names : List String) (v : Value) : asRead.value names v = v := by
  cases v with
  | table ms => exact congrArg Value.table (members_asRead names ms)
  | _ => rfl

theorem members_asRead (names : List String) (ms : List (String × Value)) :
    asRead.members names ms = ms := by
  cases ms with
  | nil => rfl
  | cons m rest =>
      obtain ⟨name, v⟩ := m
      rw [members, value_asRead, members_asRead names rest]

end

theorem layer_asRead (layer : Layer) : asRead.layer layer = layer :=
  members_asRead [] layer

end Arrangement

end Courier.Config
