/-! # Runs of characters

Classes of characters, written as runs of code points.
-/

namespace Courier.Text

/-- The first and the last code point of each run. -/
abbrev Runs := List (Nat × Nat)

namespace Runs

def contains (runs : Runs) (c : Char) : Bool :=
  runs.any fun (first, last) => first ≤ c.toNat && c.toNat ≤ last

end Runs

end Courier.Text
