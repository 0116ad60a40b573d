import Courier.Notification

/-! # Recognising repeated requests

Every request has a key; the keys of the requests that were queued are kept
for good. A request without a key of its own gets one from user, category and
title.
-/

namespace Courier

/-- The keys seen so far, the latest first, each once. -/
structure SeenKeys where
  keys : List String
  nodup : keys.Nodup
  deriving DecidableEq

namespace SeenKeys

def empty : SeenKeys := ⟨[], List.nodup_nil⟩

instance : Inhabited SeenKeys := ⟨empty⟩

/-- The key of a request that brings none. -/
def keyFor (user : String) (category : Category) (title : String) : String :=
  user ++ ":" ++ category.name ++ ":" ++ title

def contains (s : SeenKeys) (key : String) : Bool :=
  s.keys.contains key

/-- Stores a key, and tells whether it is new. -/
def store (s : SeenKeys) (key : String) : SeenKeys × Bool :=
  if h : key ∈ s.keys then (s, false)
  else (⟨key :: s.keys, List.nodup_cons.2 ⟨h, s.nodup⟩⟩, true)

def size (s : SeenKeys) : Nat :=
  s.keys.length

theorem contains_store {s : SeenKeys} {key key' : String} :
    (s.store key).1.contains key' = true ↔ key' = key ∨ s.contains key' = true := by
  unfold store
  split
  next h =>
    constructor
    · exact Or.inr
    · rintro (rfl | hmem)
      · simpa [contains] using h
      · exact hmem
  next => simp [contains]

theorem keys_store_of_new {s : SeenKeys} {key : String} (hnew : s.contains key = false) :
    (s.store key).1.keys = key :: s.keys := by
  have hnotMem : key ∉ s.keys := by simpa [contains] using hnew
  rw [store, dif_neg hnotMem]

end SeenKeys

end Courier
