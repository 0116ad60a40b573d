import Courier.Text.LowerCase

/-! # Configuration values

A configuration is a table of named values, where tables may contain tables.
What one layer sets is laid over what the layers below have set: tables are
joined member by member, and every other value takes the place of the old one.
Names are in lower case wherever tables are joined.
-/

namespace Courier.Config

inductive Value where
  | null
  | bool (b : Bool)
  /-- A signed 64-bit number. -/
  | whole (n : Int)
  | real (x : Float)
  | string (s : String)
  | array (items : List Value)
  | table (members : List (String × Value))
  deriving Inhabited

/-- Things by name, in the order in which they were set first. -/
abbrev Named (α : Type) := List (String × α)

namespace Named

variable {α : Type}

def get? (ms : Named α) (name : String) : Option α :=
  (ms.find? (·.1 = name)).map Prod.snd

/-- Sets one member; a new one goes to the end. -/
def set : Named α → String → α → Named α
  | [], name, v => [(name, v)]
  | (name', v') :: rest, name, v =>
      if name' = name then (name, v) :: rest else (name', v') :: set rest name v

theorem get?_set (ms : Named α) (name name' : String) (v : α) :
    get? (set ms name v) name' = if name' = name then some v else get? ms name' := by
  induction ms with
  | nil =>
      by_cases h : name = name'
      · simp [set, get?, h]
      · simp [set, get?, h, Ne.symm h]
  | cons m rest ih =>
      obtain ⟨name₁, v₁⟩ := m
      unfold set
      split
      next h =>
        subst h
        by_cases h' : name₁ = name'
        · simp [get?, h']
        · simp [get?, h', Ne.symm h']
      next h =>
        by_cases h₁ : name₁ = name'
        · subst h₁
          simp [get?, h]
        · simpa [get?, h₁] using ih

end Named

abbrev Members := Named Value

namespace Value

/-- The members of a table; every other value has none. -/
def members : Value → Members
  | .table ms => ms
  | _ => []

def items : Value → List Value
  | .array vs => vs
  | _ => []

mutual

/-- Lays a value over the one below it, if there is one. -/
def laidOver : Value → Option Value → Value
  | .table ms, below => layMembers ms (below.getD (.table []))
  | .null, _ => .null
  | .bool b, _ => .bool b
  | .whole n, _ => .whole n
  | .real x, _ => .real x
  | .string s, _ => .string s
  | .array vs, _ => .array vs

/-- Lays members over those of the value below, which becomes a table unless
there are none. -/
def layMembers : List (String × Value) → Value → Value
  | [], below => below
  | (name, v) :: rest, below =>
      let name := Text.lower name
      layMembers rest
        (.table (below.members.set name (v.laidOver (below.members.get? name))))

end

end Value

end Courier.Config
