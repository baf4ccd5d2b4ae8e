import Mathlib.Data.List.Nodup
import LorawanGateway.Json.Record
import LorawanGateway.Proofs.Json.PrintedValue

/-!
The fields of records. An object whose members have different names supplies each member under its
name, and what was written for a field is what is read from it. A record of one field is read from
an array of one item too, and from an object whatever its members of other names.
-/

namespace LorawanGateway.Json

section Members

variable {names : List String} {members : List (String × Json)}

theorem repeats_of_nodup (distinct : (members.map Prod.fst).Nodup) (name : String) :
    repeats name members = false := by
  have counted : members.countP (·.1 == name) = (members.map Prod.fst).count name := by
    rw [List.count, List.countP_map]
    rfl
  rw [repeats, counted]
  exact decide_eq_false (Nat.not_lt.mpr (List.nodup_iff_count_le_one.mp distinct name))

/-- An object whose members have different names is a record with these members. -/
theorem record?_object (distinct : (members.map Prod.fst).Nodup) :
    record? names (.object members) = some ⟨false, fun name => members.lookup name⟩ := by
  have once : ¬ (names.any fun name => repeats name members) = true := by
    simp [repeats_of_nodup distinct]
  rw [record?, if_neg once]

theorem lookup_of_mem {member : String × Json} (distinct : (members.map Prod.fst).Nodup)
    (given : member ∈ members) : members.lookup member.1 = some member.2 := by
  induction members with
  | nil => cases given
  | cons first others induction =>
      obtain ⟨new, distinct⟩ := List.nodup_cons.mp distinct
      rcases List.mem_cons.mp given with rfl | later
      · exact List.lookup_cons_self
      · have other : (member.1 == first.1) = false := by
          rw [beq_eq_false_iff_ne]
          intro same
          exact new (same ▸ List.mem_map_of_mem later)
        rw [List.lookup_cons, other]
        exact induction distinct later

theorem lookup_eq_some_iff_mem {name : String} {value : Json}
    (distinct : (members.map Prod.fst).Nodup) :
    members.lookup name = some value ↔ (name, value) ∈ members := by
  refine ⟨fun found => ?_, lookup_of_mem distinct⟩
  obtain ⟨before, after, rfl, -⟩ := List.lookup_eq_some_iff.mp found
  simp

/-- The members of other names. -/
def without (name : String) (members : List (String × Json)) : List (String × Json) :=
  members.filter (·.1 != name)

theorem nodup_without (name : String) (distinct : (members.map Prod.fst).Nodup) :
    ((without name members).map Prod.fst).Nodup :=
  distinct.sublist (List.filter_sublist.map Prod.fst)

theorem lookup_without_self (name : String) : (without name members).lookup name = none := by
  refine List.lookup_eq_none_iff.mpr fun member given => ?_
  rw [bne_comm]
  exact (List.mem_filter.mp given).2

theorem lookup_without_of_ne {name other : String} (distinct : (members.map Prod.fst).Nodup)
    (different : other ≠ name) : (without name members).lookup other = members.lookup other := by
  ext value
  rw [lookup_eq_some_iff_mem distinct, lookup_eq_some_iff_mem (nodup_without name distinct),
    without, List.mem_filter]
  exact and_iff_left (bne_iff_ne.mpr different)

/-- What is read from an object whose members have different names, as far as its fields say. -/
theorem record?_object_bind {decode : Record → Option α} {result : Option α}
    (distinct : (members.map Prod.fst).Nodup)
    (fields : ∀ record : Record, (∀ member ∈ members, record.field member.1 = some member.2) →
      decode record = result) : (record? names (.object members) >>= decode) = result := by
  rw [record?_object distinct]
  exact fields _ fun _ => lookup_of_mem distinct

end Members

section Supplied

/-- What a value supplies for the field of a record that has no other: an object with at most one
member of the name, or an array of one item. -/
inductive Supplies (name : String) : Json → Option Json → Prop
  | member (others : ∀ member ∈ before ++ after, member.1 ≠ name) :
      Supplies name (.object (before ++ (name, value) :: after)) (some value)
  | noMember (others : ∀ member ∈ members, member.1 ≠ name) : Supplies name (.object members) none
  | item : Supplies name (.array [value]) (some value)

variable {name : String} {value : Json} {supply : Option Json}

theorem countP_name_eq_zero_iff {members : List (String × Json)} :
    members.countP (fun member => member.1 == name) = 0 ↔ ∀ member ∈ members, member.1 ≠ name := by
  simp only [List.countP_eq_zero, beq_iff_eq, ne_eq]

theorem lookup_eq_none_iff_ne {members : List (String × Json)} :
    members.lookup name = none ↔ ∀ member ∈ members, member.1 ≠ name := by
  simp only [List.lookup_eq_none_iff, bne_iff_ne, ne_comm]

theorem repeats_append_cons {before after : List (String × Json)} :
    repeats name (before ++ (name, value) :: after) = false ↔
      ∀ member ∈ before ++ after, member.1 ≠ name := by
  rw [← countP_name_eq_zero_iff, repeats, decide_eq_false_iff_not, List.countP_append,
    List.countP_append, List.countP_cons, if_pos (beq_self_eq_true name)]
  omega

/-- An object that names a field at most once supplies what it first gives it. -/
theorem optional_object {members : List (String × Json)} (once : repeats name members = false)
    (decode : Json → Option α) :
    ((record? [name] (.object members)).bind fun record => record.optional name decode) =
      (members.lookup name).elim (some none) (Record.nullable decode) := by
  cases found : members.lookup name <;> simp [record?, once, Record.optional, found]

theorem Record.nullable_of_ne {decode : Json → Option α} (present : value ≠ .null) :
    Record.nullable decode value = (decode value).map some := by
  cases value with
  | null => exact absurd rfl present
  | bool | number | text | array | object | unreadable => rfl

theorem Supplies.optional (supplied : Supplies name value supply) (decode : Json → Option α) :
    ((record? [name] value).bind fun record => record.optional name decode) =
      supply.elim (some none) (Record.nullable decode) := by
  cases supplied with
  | @member before after value others =>
      have found : (before ++ (name, value) :: after).lookup name = some value := by
        refine List.lookup_eq_some_iff.mpr ⟨before, after, rfl, fun member given => ?_⟩
        exact bne_iff_ne.mpr (others member (List.mem_append_left _ given)).symm
      rw [optional_object (repeats_append_cons.mpr others), found]
  | @noMember members others =>
      have once : repeats name members = false := by
        rw [repeats, countP_name_eq_zero_iff.mpr others]
        rfl
      rw [optional_object once, lookup_eq_none_iff_ne.mpr others]
  | item => simp [record?, Record.optional]

theorem exists_supplies {decode : Json → Option α} {held : Option α}
    (read : ((record? [name] value).bind fun record => record.optional name decode) = some held) :
    ∃ supply, Supplies name value supply := by
  cases value with
  | object members =>
      by_cases twice : repeats name members
      · simp [record?, twice] at read
      · have once := Bool.eq_false_of_not_eq_true twice
        cases found : members.lookup name with
        | none => exact ⟨none, .noMember (lookup_eq_none_iff_ne.mp found)⟩
        | some value =>
            obtain ⟨before, after, rfl, -⟩ := List.lookup_eq_some_iff.mp found
            exact ⟨some value, .member (repeats_append_cons.mp once)⟩
  | array items =>
      match items with
      | [] => simp [record?, Record.optional] at read
      | [item] => exact ⟨some item, .item⟩
      | _ :: _ :: _ => simp [record?] at read
  | null | bool | number | text | unreadable => cases read

theorem optional_eq_some_iff {decode : Json → Option α} {held : Option α} :
    ((record? [name] value).bind fun record => record.optional name decode) = some held ↔
      ∃ supply, Supplies name value supply ∧
        supply.elim (some none) (Record.nullable decode) = some held := by
  constructor
  · intro read
    obtain ⟨supply, supplied⟩ := exists_supplies read
    exact ⟨supply, supplied, supplied.optional decode ▸ read⟩
  · rintro ⟨supply, supplied, decoded⟩
    rw [supplied.optional decode, decoded]

end Supplied

section Readers

@[simp]
theorem bool?_bool (value : Bool) : bool? (.bool value) = some value := rfl

@[simp]
theorem text?_text (value : String) : text? (.text value) = some value := rfl

theorem integerWithin?_integer {lowest highest value : Int}
    (within : lowest ≤ value ∧ value ≤ highest) :
    integerWithin? lowest highest (.integer value) = some value :=
  if_pos within

theorem naturalBelow?_natural {bits value : Nat} (small : value < 2 ^ bits) :
    naturalBelow? bits (.natural value) = some value := by
  have within : (0 : Int) ≤ value ∧ (value : Int) ≤ (1 <<< bits : Nat) - 1 := by
    rw [Nat.one_shiftLeft]
    omega
  rw [naturalBelow?, natural, integerWithin?_integer within]
  rfl

@[simp]
theorem word8?_natural (value : UInt8) : word8? (.natural value.toNat) = some value := by
  rw [word8?, naturalBelow?_natural value.toNat_lt]
  simp

@[simp]
theorem word16?_natural (value : UInt16) : word16? (.natural value.toNat) = some value := by
  rw [word16?, naturalBelow?_natural value.toNat_lt]
  simp

@[simp]
theorem word32?_natural (value : UInt32) : word32? (.natural value.toNat) = some value := by
  rw [word32?, naturalBelow?_natural value.toNat_lt]
  simp

@[simp]
theorem word64?_natural (value : UInt64) : word64? (.natural value.toNat) = some value := by
  rw [word64?, naturalBelow?_natural value.toNat_lt]
  simp

@[simp]
theorem signed8?_integer (value : Int8) : signed8? (.integer value.toInt) = some value := by
  have within : -0x80 ≤ value.toInt ∧ value.toInt ≤ 0x7F := ⟨value.le_toInt, value.toInt_le⟩
  rw [signed8?, integerWithin?_integer within]
  simp

@[simp]
theorem signed32?_integer (value : Int32) : signed32? (.integer value.toInt) = some value := by
  have within : -0x80000000 ≤ value.toInt ∧ value.toInt ≤ 0x7FFFFFFF :=
    ⟨value.le_toInt, value.toInt_le⟩
  rw [signed32?, integerWithin?_integer within]
  simp

theorem double?_double {value : Float} (finite : value.isFinite) :
    double? (.double value) = some value := by
  rw [double, if_pos finite, double?]

theorem list?_map {items : List α} {encode : α → Json} {decode : Json → Option α}
    (inverse : ∀ item ∈ items, decode (encode item) = some item) :
    list? decode (.array (items.map encode)) = some items := by
  rw [list?]
  induction items with
  | nil => rfl
  | cons item items induction =>
      rw [List.map_cons, List.mapM_cons, inverse item List.mem_cons_self,
        induction fun other member => inverse other (List.mem_cons_of_mem item member)]
      rfl

theorem nullable_integer (decode : Json → Option α) (n : Int) :
    Record.nullable decode (.integer n) = (decode (.integer n)).map some := rfl

@[simp]
theorem nullable_orNull_text (value : Option String) :
    Record.nullable text? (orNull .text value) = some value := by
  cases value <;> rfl

end Readers

section Exact

@[simp]
theorem isExact_null : IsExact .null := .null

@[simp]
theorem isExact_bool (value : Bool) : IsExact (.bool value) := .bool value

@[simp]
theorem isExact_text (value : String) : IsExact (.text value) := .text value

@[simp]
theorem isExact_orNull_text (value : Option String) : IsExact (orNull .text value) := by
  cases value with
  | none => exact .null
  | some value => exact .text value

theorem isExact_integer {value : Int} (low : -0x8000000000000000 ≤ value)
    (high : value < 0x10000000000000000) : IsExact (.integer value) :=
  .number ⟨low, high⟩

theorem isExact_natural {value : Nat} (small : value < 2 ^ 64) : IsExact (.natural value) :=
  isExact_integer (by omega) (by omega)

@[simp]
theorem isExact_word8 (value : UInt8) : IsExact (.natural value.toNat) :=
  isExact_natural (Nat.lt_trans value.toNat_lt (by decide))

@[simp]
theorem isExact_word16 (value : UInt16) : IsExact (.natural value.toNat) :=
  isExact_natural (Nat.lt_trans value.toNat_lt (by decide))

@[simp]
theorem isExact_word32 (value : UInt32) : IsExact (.natural value.toNat) :=
  isExact_natural (Nat.lt_trans value.toNat_lt (by decide))

@[simp]
theorem isExact_word64 (value : UInt64) : IsExact (.natural value.toNat) :=
  isExact_natural value.toNat_lt

@[simp]
theorem isExact_signed8 (value : Int8) : IsExact (.integer value.toInt) :=
  isExact_integer (Int.le_trans (by decide) value.le_toInt)
    (Int.lt_trans value.toInt_lt (by decide))

@[simp]
theorem isExact_signed32 (value : Int32) : IsExact (.integer value.toInt) :=
  isExact_integer (Int.le_trans (by decide) value.le_toInt)
    (Int.lt_trans value.toInt_lt (by decide))

theorem isFinite_of_zero {value : Float} (zero : value = 0.0 ∨ value = -0.0) : value.isFinite := by
  obtain rfl | rfl := zero <;> decide

theorem isExact_double {value : Float} (zero : value = 0.0 ∨ value = -0.0) :
    IsExact (.double value) := by
  rw [double, if_pos (isFinite_of_zero zero)]
  exact .number zero

theorem isExact_map {items : List α} {encode : α → Json}
    (each : ∀ item ∈ items, IsExact (encode item)) : IsExact (.array (items.map encode)) :=
  .array (List.forall_mem_map.mpr each)

end Exact

end LorawanGateway.Json
