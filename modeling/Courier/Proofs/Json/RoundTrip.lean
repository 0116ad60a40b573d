import Courier.Json.Decode
import Courier.Json.Writer
import Courier.Proofs.Json.Numbers
import Courier.Proofs.Json.Strings

/-! # Values read as they were written

What is read from the text of a value is the fragment of this value, whole and
with nothing cut off. The induction is on the fuel of the reader: each of its
calls leaves less text to the next than fuel.
-/

namespace Courier.Json

/-- Every number in the value is whole, and a word can hold it. -/
inductive Value.Exact : Value → Prop where
  | null : Exact .null
  | bool (b : Bool) : Exact (.bool b)
  | number {n : Int} (hn : FitsWord n) : Exact (.number (.whole n))
  | string (s : String) : Exact (.string s)
  | array {items : List Value} (hitems : ∀ v ∈ items, Exact v) : Exact (.array items)
  | object {members : List (String × Value)} (hmembers : ∀ m ∈ members, Exact m.2) :
      Exact (.object members)

/-- Values begin with such a character. -/
def StartsValue (c : Char) : Prop :=
  isSpace c = false ∧ c ≠ ']'

variable {c : Char} {s rest : List Char} {v : Value} {fuel : Nat}

theorem skipSpace_cons (hc : isSpace c = false) (s : List Char) : skipSpace (c :: s) = c :: s := by
  rw [skipSpace, if_neg (Bool.eq_false_iff.mp hc)]

/-- Numbers begin with a sign or a digit. -/
def StartsNumber (c : Char) : Prop :=
  c = '-' ∨ c.isDigit = true

theorem StartsNumber.ne (h : StartsNumber c) {d : Char} (hsign : d ≠ '-')
    (hdigit : d.isDigit = false) : c ≠ d := by
  rintro rfl
  obtain rfl | hdigit' := h
  · exact hsign rfl
  · exact Bool.false_ne_true (hdigit.symm.trans hdigit')

theorem StartsNumber.startsValue (h : StartsNumber c) : StartsValue c := by
  refine ⟨?_, h.ne (by decide) rfl⟩
  simp only [isSpace, Bool.or_eq_false_iff, decide_eq_false_iff_not]
  exact ⟨⟨⟨h.ne (by decide) rfl, h.ne (by decide) rfl⟩, h.ne (by decide) rfl⟩,
    h.ne (by decide) rfl⟩

theorem exists_write_number (n : Int) :
    ∃ c cs, (Number.whole n).write = c :: cs ∧ StartsNumber c := by
  rw [Number.write]
  split
  · exact ⟨'-', _, rfl, .inl rfl⟩
  · obtain ⟨d, ds, hds, hdigit⟩ := Text.exists_toDigits n.natAbs
    exact ⟨d, ds, hds, .inr hdigit⟩

theorem Value.Exact.exists_write (h : v.Exact) : ∃ c cs, v.write = c :: cs ∧ StartsValue c := by
  cases h with
  | null => exact ⟨'n', _, rfl, rfl, by decide⟩
  | bool b => cases b <;> exact ⟨_, _, rfl, rfl, by decide⟩
  | @number n hn =>
      obtain ⟨c, cs, hwrite, hc⟩ := exists_write_number n
      exact ⟨c, cs, hwrite, hc.startsValue⟩
  | string s => exact ⟨'"', _, rfl, rfl, by decide⟩
  | @array items => cases items <;> exact ⟨'[', _, rfl, rfl, by decide⟩
  | @object members => cases members <;> exact ⟨'\x7b', _, rfl, rfl, by decide⟩

/-! ## The reader -/

theorem readValue_array (hs : ∀ after, skipSpace s ≠ ']' :: after) :
    readValue (fuel + 1) ('[' :: s) = (.array (readItems fuel s).1, (readItems fuel s).2) := by
  rw [readValue, skipSpace_cons rfl]
  split
  next heq =>
    obtain ⟨-, rfl⟩ := List.cons.inj heq
    split
    next heq => exact absurd heq (hs _)
    next => rfl
  next heq => cases heq
  next hne _ => exact absurd rfl (hne s)

theorem readValue_object (hs : ∀ after, skipSpace s ≠ '\x7d' :: after) :
    readValue (fuel + 1) ('\x7b' :: s) =
      (.object false (readMembers fuel s).1, (readMembers fuel s).2) := by
  rw [readValue, skipSpace_cons rfl]
  split
  next heq => cases heq
  next heq =>
    obtain ⟨-, rfl⟩ := List.cons.inj heq
    split
    next heq => exact absurd heq (hs _)
    next => rfl
  next _ hne => exact absurd rfl (hne s)

theorem readValue_scalar (hspace : isSpace c = false) (hbracket : c ≠ '[') (hbrace : c ≠ '\x7b')
    (fuel : Nat) (s : List Char) : readValue (fuel + 1) (c :: s) = readScalar (c :: s) := by
  rw [readValue, skipSpace_cons hspace]
  split
  next heq => exact absurd (List.cons.inj heq).1 hbracket
  next heq => exact absurd (List.cons.inj heq).1 hbrace
  next => rfl

theorem readValue_number {n : Int} (hn : FitsWord n) (hrest : EndsValue rest) :
    readValue (fuel + 1) ((Number.whole n).write ++ rest) = (.number (some (.whole n)), rest) := by
  have hread := Literal.read?_write n hrest
  obtain ⟨c, cs, hwrite, hc⟩ := exists_write_number n
  rw [hwrite, List.cons_append] at hread ⊢
  rw [readValue_scalar hc.startsValue.1 (hc.ne (by decide) rfl) (hc.ne (by decide) rfl),
    readScalar.eq_def]
  split
  next heq => exact absurd (List.cons.inj heq).1 (hc.ne (by decide) rfl)
  next heq => exact absurd (List.cons.inj heq).1 (hc.ne (by decide) rfl)
  next heq => exact absurd (List.cons.inj heq).1 (hc.ne (by decide) rfl)
  next heq => exact absurd (List.cons.inj heq).1 (hc.ne (by decide) rfl)
  next =>
    rw [hread]
    dsimp only
    rw [Literal.value?_write hn]

theorem readValue_string (s : String) (rest : List Char) :
    readValue (fuel + 1) (writeString s ++ rest) = (.string (some s), rest) := by
  have hread := readString?_write s rest
  rw [writeString, List.cons_append, List.cons_append, List.append_assoc, List.singleton_append,
    readValue_scalar rfl (by decide) (by decide), readScalar.eq_def]
  split
  next heq => cases heq
  next heq => cases heq
  next heq => cases heq
  next heq =>
    obtain ⟨-, rfl⟩ := List.cons.inj heq
    rw [hread]
  next hne => exact absurd rfl (hne _)

section Members

variable {head : Fragment} {items : Items} {members : Members} {after : List Char}

theorem readItems_more (hhead : readValue fuel s = (head, ',' :: after))
    (hitems : readItems fuel after = (items, rest)) :
    readItems (fuel + 1) s = (.item head items, rest) := by
  rw [readItems, hhead]
  dsimp only
  rw [skipSpace_cons rfl]
  simp only [hitems]

theorem readItems_last (hhead : readValue fuel s = (head, ']' :: rest)) :
    readItems (fuel + 1) s = (.item head .done, rest) := by
  rw [readItems, hhead]
  rfl

theorem readName?_write (name : String) (s : List Char) :
    readName? (skipSpace (writeString name ++ s)) = some (some name, s) := by
  rw [writeString, List.cons_append, List.cons_append, List.append_assoc, List.singleton_append,
    skipSpace_cons rfl, readName?]
  exact readString?_write name s

theorem readColon?_cons (s : List Char) : readColon? (':' :: s) = some s :=
  rfl

theorem readMembers_more (name : String) (hhead : readValue fuel s = (head, ',' :: after))
    (hmembers : readMembers fuel after = (members, rest)) :
    readMembers (fuel + 1) (writeString name ++ ':' :: s) =
      (.member (some name) head members, rest) := by
  rw [readMembers, readName?_write]
  dsimp only
  rw [readColon?_cons]
  dsimp only
  rw [hhead]
  dsimp only
  rw [skipSpace_cons rfl]
  simp only [hmembers]

theorem readMembers_last (name : String) (hhead : readValue fuel s = (head, '\x7d' :: rest)) :
    readMembers (fuel + 1) (writeString name ++ ':' :: s) =
      (.member (some name) head .done, rest) := by
  rw [readMembers, readName?_write]
  dsimp only
  rw [readColon?_cons]
  dsimp only
  rw [hhead]
  rfl

end Members

/-- With this much fuel, values are read as they were written. The text of items
and of members is what stands between their brackets. -/
structure ReadsBack (fuel : Nat) : Prop where
  value : ∀ v rest, v.Exact → EndsValue rest → 2 * v.write.length ≤ fuel →
    readValue fuel (v.write ++ rest) = (.ofValue v, rest)
  items : ∀ v vs rest, (∀ x ∈ v :: vs, x.Exact) →
    2 * (v.write ++ Value.writeItems vs).length ≤ fuel →
      readItems fuel (v.write ++ Value.writeItems vs ++ rest) = (.ofValues (v :: vs), rest)
  members : ∀ name v ms rest, (∀ m ∈ (name, v) :: ms, m.2.Exact) →
    2 * (writeString name ++ ':' :: v.write ++ Value.writeMembers ms).length ≤ fuel →
      readMembers fuel (writeString name ++ ':' :: v.write ++ Value.writeMembers ms ++ rest) =
        (.ofValues ((name, v) :: ms), rest)

theorem length_writeItems_pos (vs : List Value) : 0 < (Value.writeItems vs).length := by
  cases vs <;> exact Nat.succ_pos _

theorem length_writeMembers_pos (ms : List (String × Value)) :
    0 < (Value.writeMembers ms).length := by
  cases ms <;> exact Nat.succ_pos _

theorem endsValue_writeItems (vs : List Value) (rest : List Char) :
    EndsValue (Value.writeItems vs ++ rest) := by
  cases vs with
  | nil => exact endsValue_cons (.inr (.inl rfl)) rest
  | cons => exact endsValue_cons (.inl rfl) _

theorem endsValue_writeMembers (ms : List (String × Value)) (rest : List Char) :
    EndsValue (Value.writeMembers ms ++ rest) := by
  cases ms with
  | nil => exact endsValue_cons (.inr (.inr rfl)) rest
  | cons => exact endsValue_cons (.inl rfl) _

theorem ReadsBack.value_succ (h : ReadsBack fuel) (hv : v.Exact) (hrest : EndsValue rest)
    (hfuel : 2 * v.write.length ≤ fuel + 1) :
    readValue (fuel + 1) (v.write ++ rest) = (.ofValue v, rest) := by
  cases hv with
  | null => exact readValue_scalar rfl (by decide) (by decide) fuel _
  | bool b => cases b <;> exact readValue_scalar rfl (by decide) (by decide) fuel _
  | number hn => exact readValue_number hn hrest
  | string s => exact readValue_string s rest
  | @array items hitems =>
      cases items with
      | nil => rfl
      | cons v vs =>
          have hitems' := h.items v vs rest hitems (by
            simp only [Value.write, List.length_cons, List.length_append] at hfuel ⊢
            omega)
          obtain ⟨c, cs, hwrite, hspace, hbracket⟩ := (hitems v List.mem_cons_self).exists_write
          rw [Value.write, List.cons_append, List.cons_append, readValue_array, hitems']
          · rfl
          · intro after heq
            rw [hwrite, List.cons_append, List.cons_append, skipSpace_cons hspace] at heq
            exact hbracket (List.cons.inj heq).1
  | @object members hmembers =>
      cases members with
      | nil => rfl
      | cons m ms =>
          obtain ⟨name, v⟩ := m
          have hmembers' := h.members name v ms rest hmembers (by
            simp only [Value.write, List.length_cons, List.length_append] at hfuel ⊢
            omega)
          rw [Value.write, List.cons_append, List.cons_append, List.cons_append, readValue_object]
          · simp only [List.append_assoc, List.cons_append] at hmembers' ⊢
            rw [hmembers']
            rfl
          · intro after heq
            rw [writeString] at heq
            cases heq

theorem ReadsBack.items_succ (h : ReadsBack fuel) {vs : List Value}
    (hvs : ∀ x ∈ v :: vs, x.Exact)
    (hfuel : 2 * (v.write ++ Value.writeItems vs).length ≤ fuel + 1) :
    readItems (fuel + 1) (v.write ++ Value.writeItems vs ++ rest) =
      (.ofValues (v :: vs), rest) := by
  obtain ⟨hv, hrest⟩ := List.forall_mem_cons.mp hvs
  rw [List.length_append] at hfuel
  have hpositive := length_writeItems_pos vs
  have hvalue := h.value v _ hv (endsValue_writeItems vs rest) (by omega)
  rw [List.append_assoc]
  cases vs with
  | nil => exact readItems_last hvalue
  | cons v' vs =>
      have hitems := h.items v' vs rest hrest (by
        simp only [Value.writeItems, List.length_cons, List.length_append] at hfuel ⊢
        omega)
      exact readItems_more hvalue hitems

theorem ReadsBack.members_succ (h : ReadsBack fuel) {name : String} {ms : List (String × Value)}
    (hms : ∀ m ∈ (name, v) :: ms, m.2.Exact)
    (hfuel : 2 * (writeString name ++ ':' :: v.write ++ Value.writeMembers ms).length ≤ fuel + 1) :
    readMembers (fuel + 1) (writeString name ++ ':' :: v.write ++ Value.writeMembers ms ++ rest) =
      (.ofValues ((name, v) :: ms), rest) := by
  obtain ⟨hv, hrest⟩ := List.forall_mem_cons.mp hms
  have hpositive := length_writeMembers_pos ms
  simp only [List.length_append, List.length_cons] at hfuel
  have hvalue := h.value v _ hv (endsValue_writeMembers ms rest) (by omega)
  rw [List.append_assoc, List.append_assoc, List.cons_append]
  cases ms with
  | nil => exact readMembers_last name hvalue
  | cons m ms =>
      obtain ⟨name', v'⟩ := m
      have hmembers := h.members name' v' ms rest hrest (by
        simp only [Value.writeMembers, List.length_cons, List.length_append] at hfuel ⊢
        omega)
      exact readMembers_more name hvalue hmembers

theorem readsBack (fuel : Nat) : ReadsBack fuel := by
  induction fuel with
  | zero =>
      refine ⟨?_, ?_, ?_⟩
      · intro v rest hv _ hfuel
        obtain ⟨c, cs, hwrite, -⟩ := hv.exists_write
        rw [hwrite, List.length_cons] at hfuel
        omega
      · intro v vs rest _ hfuel
        have hpositive := length_writeItems_pos vs
        rw [List.length_append] at hfuel
        omega
      · intro name v ms rest _ hfuel
        have hpositive := length_writeMembers_pos ms
        rw [List.length_append] at hfuel
        omega
  | succ fuel ih =>
      exact ⟨fun _ _ => ih.value_succ, fun _ _ _ => ih.items_succ, fun _ _ _ _ => ih.members_succ⟩

/-- A text that a value was written to is read as this value, and nothing is left. -/
theorem read_write (hv : v.Exact) : Fragment.read v.write = (.ofValue v, []) := by
  have hread := (readsBack (2 * v.write.length + 1)).value v [] hv endsValue_nil (Nat.le_succ _)
  rwa [List.append_nil] at hread

/-- What a decoder makes of a value, it makes of the text of this value. -/
theorem decodeText_text {α : Type} {decode : Decoder α} {a : α} (hv : v.Exact)
    (hdecode : decode (.ofValue v) = .ok a) : Decoder.decodeText decode v.text = .ok a := by
  rw [Decoder.decodeText, Value.text, String.toList_ofList, read_write hv]
  simp only [hdecode]
  rfl

end Courier.Json
