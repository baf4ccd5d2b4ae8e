import LorawanGateway.Octets

/-!
Parts of a run of octets, and the words they carry. Adjacent parts make up a longer one, and a word
read at a place writes the octets of that place again.
-/

namespace LorawanGateway.Octets

variable {octets before part rest : Octets} {start middle first second count : Nat}

theorem toNatLE_lt (octets : Octets) : octets.toNatLE < Nat.pow 256 octets.length := by
  induction octets with
  | nil => simp [toNatLE]
  | cons octet rest induction =>
      have low := octet.toNat_lt
      have wider : Nat.pow 256 (rest.length + 1) = Nat.pow 256 rest.length * 256 := rfl
      rw [toNatLE, List.length_cons, wider]
      omega

theorem ofNatLE_toNatLE (octets : Octets) : ofNatLE octets.length octets.toNatLE = octets := by
  induction octets with
  | nil => rfl
  | cons octet rest induction =>
      have low := octet.toNat_lt
      have lowest : (octet.toNat + 256 * toNatLE rest) % 256 = octet.toNat := by omega
      have others : (octet.toNat + 256 * toNatLE rest) / 256 = toNatLE rest := by omega
      rw [toNatLE, List.length_cons, ofNatLE, lowest, others, induction, UInt8.ofNat_toNat]

theorem ofNatLE_mod (width value : Nat) :
    ofNatLE width (value % Nat.pow 256 width) = ofNatLE width value := by
  rw [← toNatLE_ofNatLE]
  have written := ofNatLE_toNatLE (ofNatLE width value)
  rwa [length_ofNatLE] at written

theorem length_slice (inside : start + count ≤ octets.length) :
    (octets.slice start count).length = count := by
  simp only [slice, List.length_take, List.length_drop]
  omega

/-- Two parts next to each other are one part. -/
theorem slice_append_slice (octets : Octets) (next : start + first = middle) :
    octets.slice start first ++ octets.slice middle second =
      octets.slice start (first + second) := by
  subst next
  rw [slice, slice, slice, List.take_add, List.drop_drop]

theorem cons_slice {octet : UInt8} (first : octets[0]? = some octet)
    (all : octets.length ≤ count + 1) : octet :: octets.slice 1 count = octets := by
  cases octets with
  | nil => cases first
  | cons head rest =>
      cases first
      exact congrArg _ (List.take_of_length_le (Nat.le_of_succ_le_succ all))

theorem toList_getElem? (octets : Octets) (start : Nat) :
    octets[start]?.toList = octets.slice start 1 := by
  cases found : octets[start]? with
  | none =>
      have outside := List.getElem?_eq_none_iff.mp found
      rw [slice, List.drop_eq_nil_of_le outside, List.take_nil, Option.toList_none]
  | some octet =>
      obtain ⟨inside, rfl⟩ := List.getElem?_eq_some_iff.mp found
      rw [slice, List.drop_eq_getElem_cons inside, List.take_succ_cons, List.take_zero,
        Option.toList_some]

theorem singleton_eq_slice {octet : UInt8} (found : octets[start]? = some octet) :
    [octet] = octets.slice start 1 := by
  rw [← toList_getElem?, found, Option.toList_some]

@[simp] theorem slice_cons_succ (octet : UInt8) (rest : Octets) (start count : Nat) :
    slice (octet :: rest) (start + 1) count = rest.slice start count :=
  rfl

@[simp] theorem slice_self (long : part.length = count) : part.slice 0 count = part := by
  subst long
  rw [slice, List.drop_zero, List.take_length]

@[simp] theorem slice_append_left (long : part.length = count) :
    (part ++ rest).slice 0 count = part := by
  subst long
  rw [slice, List.drop_zero, List.take_left]

@[simp] theorem slice_append_right (beyond : before.length ≤ start) :
    (before ++ rest).slice start count = rest.slice (start - before.length) count := by
  rw [slice, slice, List.drop_append, List.drop_of_length_le beyond, List.nil_append]

/-- The number at a place is written as the octets of that place. -/
theorem ofNatLE_slice (inside : start + count ≤ octets.length) :
    ofNatLE count (octets.slice start count).toNatLE = octets.slice start count := by
  have written := ofNatLE_toNatLE (octets.slice start count)
  rwa [length_slice inside] at written

theorem toNatLE_slice_lt (inside : start + count ≤ octets.length) :
    (octets.slice start count).toNatLE < Nat.pow 256 count := by
  have bound := toNatLE_lt (octets.slice start count)
  rwa [length_slice inside] at bound

theorem ofNatLE_word16At (inside : start + 2 ≤ octets.length) :
    ofNatLE 2 (octets.word16At start).toNat = octets.slice start 2 := by
  rw [word16At, UInt16.toNat_ofNat_of_lt' (toNatLE_slice_lt inside), ofNatLE_slice inside]

theorem ofNatLE_word32At (inside : start + 4 ≤ octets.length) :
    ofNatLE 4 (octets.word32At start).toNat = octets.slice start 4 := by
  rw [word32At, UInt32.toNat_ofNat_of_lt' (toNatLE_slice_lt inside), ofNatLE_slice inside]

theorem ofNatLE_word64At (inside : start + 8 ≤ octets.length) :
    ofNatLE 8 (octets.word64At start).toNat = octets.slice start 8 := by
  rw [word64At, UInt64.toNat_ofNat_of_lt' (toNatLE_slice_lt inside), ofNatLE_slice inside]

@[simp] theorem ofNat_word16 (word : UInt16) :
    UInt16.ofNat (toNatLE (ofNatLE 2 word.toNat)) = word := by
  rw [toNatLE_ofNatLE, Nat.mod_eq_of_lt word.toNat_lt, UInt16.ofNat_toNat]

@[simp] theorem ofNat_word32 (word : UInt32) :
    UInt32.ofNat (toNatLE (ofNatLE 4 word.toNat)) = word := by
  rw [toNatLE_ofNatLE, Nat.mod_eq_of_lt word.toNat_lt, UInt32.ofNat_toNat]

theorem ofNatLE_word32_inj {word word' : UInt32}
    (same : ofNatLE 4 word.toNat = ofNatLE 4 word'.toNat) : word = word' := by
  rw [← ofNat_word32 word, same, ofNat_word32]

@[simp] theorem ofNat_word64 (word : UInt64) :
    UInt64.ofNat (toNatLE (ofNatLE 8 word.toNat)) = word := by
  rw [toNatLE_ofNatLE, Nat.mod_eq_of_lt word.toNat_lt, UInt64.ofNat_toNat]

end LorawanGateway.Octets
