import Courier.Json.Decode
import Mathlib.Data.List.Nodup

/-! # Decoding what was encoded

A decoder and an encoder fit if the decoder gets every value back from the
fragment of what the encoder makes of it. Records fit if each of their fields
does and their names differ.
-/

namespace Courier

theorem Parts.exists_find? {σ ε : Type} {p : Parts σ ε} (hnodup : (p.entries.map Prod.fst).Nodup)
    {name : String} {s : σ} (hmem : (name, s) ∈ p.entries) : ∃ i, p.find? name = some (i, s) := by
  have hgo : ∀ (entries : List (String × σ)) (i : Nat), (entries.map Prod.fst).Nodup →
      (name, s) ∈ entries → ∃ j, find?.go name i entries = some (j, s) := by
    intro entries
    induction entries with
    | nil => exact fun _ _ hmem => absurd hmem List.not_mem_nil
    | cons entry rest ih =>
        intro i hnodup hmem
        obtain ⟨hnot, hrest⟩ := List.nodup_cons.mp hnodup
        rw [find?.go]
        obtain rfl | hmem := List.mem_cons.mp hmem
        · exact ⟨i, if_pos rfl⟩
        · rw [if_neg]
          · exact ih (i + 1) hrest hmem
          · intro heq
            exact hnot (heq ▸ List.mem_map_of_mem hmem)
  exact hgo p.entries 0 hnodup hmem

namespace Json.Decoder

variable {α β : Type}

/-- The decoder gets back everything that was encoded. -/
def Inverts (decode : Decoder α) (encode : α → Value) : Prop :=
  ∀ a, decode (.ofValue (encode a)) = .ok a

/-! ## Records -/

/-- From the members of an object with these entries, and others, the record is read as `a`. -/
structure Reads (r : Record Fragment DecodeError α) (entries : List (String × Value)) (a : α) :
    Prop where
  names : r.names = entries.map Prod.fst
  read : ∀ parts : Parts Fragment DecodeError,
    (∀ e ∈ entries, ∃ i, parts.find? e.1 = some (i, .ofValue e.2)) → r.read parts = .ok a

theorem reads_field {decode : Decoder α} {name : String} {v : Value} {a : α}
    (hdecode : decode (.ofValue v) = .ok a) (whenNamed whenPlaced : Option α) :
    Reads (.field name decode whenNamed whenPlaced) [(name, v)] a where
  names := rfl
  read := by
    intro parts hparts
    obtain ⟨i, hfind⟩ := hparts _ List.mem_cons_self
    simp only [Record.field, hfind, hdecode]

theorem Reads.map {r : Record Fragment DecodeError α} {entries : List (String × Value)} {a : α}
    (h : Reads r entries a) (f : α → β) : Reads (f <$> r) entries (f a) where
  names := h.names
  read := by
    intro parts hparts
    change (r.map f).read parts = _
    simp only [Record.map, h.read parts hparts]

theorem Reads.seq {f : Record Fragment DecodeError (α → β)} {r : Record Fragment DecodeError α}
    {entries entries' : List (String × Value)} {g : α → β} {a : α} (hf : Reads f entries g)
    (hr : Reads r entries' a) : Reads (f <*> r) (entries ++ entries') (g a) where
  names := by
    change f.names ++ r.names = _
    rw [hf.names, hr.names, List.map_append]
  read := by
    intro parts hparts
    obtain ⟨hfirst, hsecond⟩ := List.forall_mem_append.mp hparts
    change (f.apply r).read parts = _
    simp only [Record.apply, hf.read parts hfirst, hr.read parts hsecond]

theorem selectMembers_ofValues {names seen : List String} {entries : List (String × Value)}
    (hnames : ∀ e ∈ entries, e.1 ∈ names) (hseen : ∀ e ∈ entries, e.1 ∉ seen)
    (hnodup : (entries.map Prod.fst).Nodup) :
    selectMembers names seen (.ofValues entries) =
      (entries.map fun e => (e.1, .ofValue e.2), none) := by
  induction entries generalizing seen with
  | nil => rfl
  | cons e rest ih =>
      obtain ⟨hname, hnames⟩ := List.forall_mem_cons.mp hnames
      obtain ⟨hnew, hseen⟩ := List.forall_mem_cons.mp hseen
      obtain ⟨hnot, hnodup⟩ := List.nodup_cons.mp hnodup
      have hseen' : ∀ e' ∈ rest, e'.1 ∉ e.1 :: seen := by
        intro e' he' hmem
        obtain heq | hold := List.mem_cons.mp hmem
        · exact hnot (heq ▸ List.mem_map_of_mem he')
        · exact hseen e' he' hold
      rw [Members.ofValues, selectMembers, if_pos hname, if_neg hnew, ih hnames hseen' hnodup]
      rfl

/-- An object that holds the fields of a record, each once, is read as the record. -/
theorem Reads.record {r : Record Fragment DecodeError α} {entries : List (String × Value)} {a : α}
    (h : Reads r entries a) (hnodup : (entries.map Prod.fst).Nodup) :
    Decoder.record r (.ofValue (.object entries)) = .ok a := by
  have hselected : selectMembers r.names [] (.ofValues entries) =
      (entries.map fun e => (e.1, .ofValue e.2), none) := by
    apply selectMembers_ofValues _ _ hnodup
    · intro e he
      rw [h.names]
      exact List.mem_map_of_mem he
    · exact fun _ _ => List.not_mem_nil
  have hread : r.read ⟨entries.map fun e => (e.1, .ofValue e.2), true, .missingField⟩ = .ok a := by
    apply h.read
    intro e he
    apply Parts.exists_find?
    · rw [List.map_map]
      exact hnodup
    · exact List.mem_map_of_mem he
  rw [Fragment.ofValue, Decoder.record, hselected]
  simp only [Record.run, hread]

/-! ## Parts -/

theorem inverts_string : Inverts string .string :=
  fun _ => rfl

theorem inverts_option {decode : Decoder α} {encode : α → Value} (h : Inverts decode encode)
    (hvalue : ∀ a, encode a ≠ .null) : Inverts (option decode) (Value.ofOption encode) := by
  intro a
  cases a with
  | none => rfl
  | some a =>
      have hnull : Fragment.ofValue (encode a) ≠ .null := by
        cases hv : encode a with
        | null => exact absurd hv (hvalue a)
        | _ => nofun
      rw [Value.ofOption, option]
      · rw [h a]
        rfl
      · exact hnull

theorem inverts_list {decode : Decoder α} {encode : α → Value} (h : Inverts decode encode) :
    Inverts (list decode) (Value.ofList encode) := by
  intro as
  rw [Value.ofList, Fragment.ofValue, list]
  induction as with
  | nil => rfl
  | cons a as ih =>
      rw [List.map_cons, Items.ofValues, items, h a, ih]
      rfl

end Json.Decoder

end Courier
