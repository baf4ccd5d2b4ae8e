import LorawanGateway.Proofs.Datagram.TxpkFields

/-!
The JSON form of a request to send. A request is the same as what its fields hold, and reading one
from an object reads each field on its own from the member of its name. So a request is read back
from its form, and what one member says decides about one field.
-/

namespace LorawanGateway.Txpk

/-- What a field of a request holds. -/
def get (txpk : Txpk) : (field : Field) → Option field.Value
  | .immediate => txpk.immediate
  | .counter => txpk.counter
  | .gpsTime => txpk.gpsTime
  | .withoutCrc => txpk.withoutCrc
  | .frequency => txpk.frequency
  | .rfChain => txpk.rfChain
  | .power => txpk.power
  | .modulation => txpk.modulation
  | .dataRate => txpk.dataRate
  | .codingRate => txpk.codingRate
  | .invertPolarity => txpk.invertPolarity
  | .preamble => txpk.preamble
  | .deviation => txpk.deviation
  | .size => txpk.size
  | .data => txpk.data

def ofFields (held : (field : Field) → Option field.Value) : Txpk where
  immediate := held .immediate
  counter := held .counter
  gpsTime := held .gpsTime
  withoutCrc := held .withoutCrc
  frequency := held .frequency
  rfChain := held .rfChain
  power := held .power
  modulation := held .modulation
  dataRate := held .dataRate
  codingRate := held .codingRate
  invertPolarity := held .invertPolarity
  preamble := held .preamble
  deviation := held .deviation
  size := held .size
  data := held .data

theorem get_ofFields (held : (field : Field) → Option field.Value) :
    (ofFields held).get = held := by
  funext field
  cases field <;> rfl

theorem get_injective : Function.Injective get :=
  fun txpk other (same : txpk.get = other.get) => congrArg ofFields same

/-- A request with another content of one field. -/
def put (field : Field) (held : Option field.Value) (txpk : Txpk) : Txpk :=
  ofFields (Function.update txpk.get field held)

theorem get_put (field : Field) (held : Option field.Value) (txpk : Txpk) :
    (txpk.put field held).get = Function.update txpk.get field held :=
  get_ofFields _

/-- What an object supplies for a field. -/
def found? (members : List (String × Json)) (field : Field) : Option (Option field.Value) :=
  field? ⟨false, fun name => members.lookup name⟩ field.name field.decode?

section Reading

variable {members : List (String × Json)} {txpk : Txpk} {field : Field} {value : Json}

/-- Reading a request reads each field on its own. -/
theorem ofJson?_object_eq_some_iff (distinct : (members.map Prod.fst).Nodup) :
    ofJson? (.object members) = some txpk ↔
      ∀ field, found? members field = some (txpk.get field) := by
  rw [ofJson?, Json.record?_object distinct, Option.bind_eq_bind, Option.bind_some]
  constructor
  · intro read
    -- One field after the other, in the order they are read in.
    iterate 15 obtain ⟨_, _, read⟩ := Option.bind_eq_some_iff.mp read
    cases read
    intro field
    cases field <;> assumption
  · intro found
    exact Json.bind_eq_some (found .immediate) <| Json.bind_eq_some (found .counter) <|
      Json.bind_eq_some (found .gpsTime) <| Json.bind_eq_some (found .withoutCrc) <|
      Json.bind_eq_some (found .frequency) <| Json.bind_eq_some (found .rfChain) <|
      Json.bind_eq_some (found .power) <| Json.bind_eq_some (found .modulation) <|
      Json.bind_eq_some (found .dataRate) <| Json.bind_eq_some (found .codingRate) <|
      Json.bind_eq_some (found .invertPolarity) <| Json.bind_eq_some (found .preamble) <|
      Json.bind_eq_some (found .deviation) <| Json.bind_eq_some (found .size) <|
      Json.bind_eq_some (found .data) rfl

theorem found?_eq (members : List (String × Json)) (field : Field) : found? members field =
    (members.lookup field.name).elim (some none) (Json.Record.nullable field.decode?) := by
  simp only [found?, field?, Json.Record.withDefault]
  cases members.lookup field.name <;> rfl

theorem found?_of_mem (distinct : (members.map Prod.fst).Nodup)
    (given : (field.name, value) ∈ members) :
    found? members field = Json.Record.nullable field.decode? value := by
  rw [found?_eq, Json.lookup_of_mem distinct given, Option.elim_some]

theorem found?_of_not_mem (missing : field.name ∉ members.map Prod.fst) :
    found? members field = some none := by
  have nothing : members.lookup field.name = none :=
    List.lookup_eq_none_iff.mpr fun member given =>
      bne_iff_ne.mpr fun same => missing (same ▸ List.mem_map_of_mem given)
  rw [found?_eq, nothing, Option.elim_none]

theorem found?_without_self : found? (Json.without field.name members) field = some none := by
  rw [found?_eq, Json.lookup_without_self, Option.elim_none]

theorem found?_without_of_ne {other : Field} (distinct : (members.map Prod.fst).Nodup)
    (different : other ≠ field) :
    found? (Json.without field.name members) other = found? members other := by
  have named : other.name ≠ field.name := fun same => different (Field.name_injective same)
  rw [found?_eq, found?_eq, Json.lookup_without_of_ne distinct named]

/-- What one member says decides about one field: the others are read as they are without it. -/
theorem ofJson?_object_of_mem (distinct : (members.map Prod.fst).Nodup)
    (given : (field.name, value) ∈ members) :
    ofJson? (.object members) = (Json.Record.nullable field.decode? value).bind fun held =>
      (ofJson? (.object (Json.without field.name members))).map (put field held) := by
  have others := Json.nodup_without field.name distinct
  ext txpk
  simp only [ofJson?_object_eq_some_iff distinct, Option.bind_eq_some_iff, Option.map_eq_some_iff,
    ofJson?_object_eq_some_iff others]
  constructor
  · intro found
    refine ⟨txpk.get field, found?_of_mem distinct given ▸ found field, txpk.put field none,
      fun other => ?_, get_injective ?_⟩
    · rw [get_put]
      by_cases same : other = field
      · subst same
        rw [found?_without_self, Function.update_self]
      · rw [found?_without_of_ne distinct same, found other, Function.update_of_ne same]
    · rw [get_put, get_put, Function.update_idem, Function.update_eq_self]
  · rintro ⟨held, decoded, rest, found, rfl⟩ other
    rw [get_put]
    by_cases same : other = field
    · subst same
      rw [found?_of_mem distinct given, decoded, Function.update_self]
    · rw [← found?_without_of_ne distinct same, found other, Function.update_of_ne same]

end Reading

section Writing

variable {txpk : Txpk}

/-- The members that a request is written as. -/
def members (txpk : Txpk) : List (String × Json) :=
  Field.all.flatMap fun field => Json.member? field.name field.encode (txpk.get field)

theorem toJson_eq (txpk : Txpk) : txpk.toJson = .object txpk.members := by
  simp only [toJson, List.append_assoc, members, Field.all, List.flatMap_cons, List.flatMap_nil,
    List.append_nil]
  rfl

theorem nodup_members (txpk : Txpk) : (txpk.members.map Prod.fst).Nodup := by
  have listed : (txpk.members.map Prod.fst).Sublist (Field.all.map Field.name) := by
    rw [members, List.map_flatMap]
    induction Field.all with
    | nil => exact .slnil
    | cons field fields induction =>
        have first : ((Json.member? field.name field.encode (txpk.get field)).map Prod.fst).Sublist
            [field.name] := by
          cases txpk.get field with
          | none => exact List.nil_sublist _
          | some value => exact List.Sublist.refl _
        exact first.append induction
  exact Field.nodup_names.sublist listed

theorem mem_members {name : String} {value : Json} : (name, value) ∈ txpk.members ↔
    ∃ field held, txpk.get field = some held ∧ field.name = name ∧ field.encode held = value := by
  rw [members, List.mem_flatMap]
  constructor
  · rintro ⟨field, -, given⟩
    cases held : txpk.get field with
    | none =>
        rw [held] at given
        cases given
    | some item =>
        rw [held] at given
        cases List.mem_singleton.mp given
        exact ⟨field, item, held, rfl, rfl⟩
  · rintro ⟨field, item, held, rfl, rfl⟩
    refine ⟨field, field.mem_all, ?_⟩
    rw [held]
    exact List.mem_singleton_self _

/-- A request is read back from its members in any order. -/
theorem ofJson?_object_of_perm {given : List (String × Json)} (order : given.Perm txpk.members)
    (exact : ∀ field held, txpk.get field = some held → field.IsExact held) :
    ofJson? (.object given) = some txpk := by
  have distinct : (given.map Prod.fst).Nodup :=
    (order.map Prod.fst).nodup_iff.mpr txpk.nodup_members
  rw [ofJson?_object_eq_some_iff distinct]
  intro field
  cases held : txpk.get field with
  | none =>
      refine found?_of_not_mem fun named => ?_
      obtain ⟨⟨name, value⟩, member, same⟩ := List.mem_map.mp named
      obtain ⟨other, item, holds, named, -⟩ := mem_members.mp (order.mem_iff.mp member)
      cases Field.name_injective (named.trans same)
      cases held.symm.trans holds
  | some item =>
      have member := mem_members.mpr ⟨field, item, held, rfl, rfl⟩
      rw [found?_of_mem distinct (order.mem_iff.mpr member)]
      exact Field.nullable_encode (exact field item held)

end Writing

section Laws

variable {given : List (String × Json)} {field : Field} {n : Int}

/-- An integer that does not fit its field is refused. -/
theorem ofJson?_object_of_unfit (distinct : (given.map Prod.fst).Nodup)
    (integral : field.range?.isSome) (member : (field.name, .integer n) ∈ given)
    (unfit : ¬ field.Fits n) : ofJson? (.object given) = none := by
  have refused : field.decode? (.integer n) = none :=
    Option.eq_none_iff_forall_ne_some.mpr fun held read =>
      unfit (Field.fits_of_decode?_integer integral read)
  rw [ofJson?_object_of_mem distinct member, Json.nullable_integer, refused]
  rfl

/-- An integer that fits its field is what the field holds, and decides about nothing else. -/
theorem ofJson?_object_of_fits (distinct : (given.map Prod.fst).Nodup)
    (member : (field.name, .integer n) ∈ given) (fits : field.Fits n) :
    ∃ held, field.encode held = .integer n ∧ ofJson? (.object given) =
      (ofJson? (.object (Json.without field.name given))).map (put field (some held)) := by
  obtain ⟨held, read, form⟩ := Field.exists_decode?_integer fits
  refine ⟨held, form, ?_⟩
  rw [ofJson?_object_of_mem distinct member, Json.nullable_integer, read]
  rfl

theorem found?_of_absent (distinct : (given.map Prod.fst).Nodup)
    (absent : field.name ∉ given.map Prod.fst ∨ (field.name, .null) ∈ given) :
    found? given field = some none := by
  rcases absent with missing | null
  · exact found?_of_not_mem missing
  · rw [found?_of_mem distinct null]
    rfl

/-- A field that is `null` is read as one that is left out. -/
theorem ofJson?_object_of_absent (distinct : (given.map Prod.fst).Nodup)
    (absent : field.name ∉ given.map Prod.fst ∨ (field.name, .null) ∈ given) :
    ofJson? (.object given) = ofJson? (.object (Json.without field.name given)) := by
  ext txpk
  rw [ofJson?_object_eq_some_iff distinct,
    ofJson?_object_eq_some_iff (Json.nodup_without field.name distinct)]
  refine forall_congr' fun other => ?_
  by_cases same : other = field
  · rw [same, found?_of_absent distinct absent, found?_without_self]
  · rw [found?_without_of_ne distinct same]

theorem get_eq_none_of_absent (distinct : (given.map Prod.fst).Nodup)
    (absent : field.name ∉ given.map Prod.fst ∨ (field.name, .null) ∈ given) {txpk : Txpk}
    (read : ofJson? (.object given) = some txpk) : txpk.get field = none := by
  have found := (ofJson?_object_eq_some_iff distinct).mp read field
  rw [found?_of_absent distinct absent] at found
  exact (Option.some.inj found).symm

/-- A request is read back from its JSON form, in whatever order its members stand, as long as its
frequency is finite and its time fits 64 bits with a sign. In any object an integer is taken by a
field for integers just when it fits, and then the field holds that integer; a field that is `null`
or left out is absent. -/
theorem json_form_faithful :
    (∀ txpk : Txpk, (∀ frequency, txpk.frequency = some frequency → frequency.isFinite) →
      (∀ time, txpk.gpsTime = some time → time < 0x8000000000000000) →
      ∃ written, txpk.toJson = .object written ∧
        ∀ given : List (String × Json), given.Perm written → ofJson? (.object given) = some txpk) ∧
    ∀ given : List (String × Json), (given.map Prod.fst).Nodup → ∀ field : Field,
      (∀ n, field.range?.isSome → (field.name, .integer n) ∈ given →
        (field.Fits n → ∃ held, field.encode held = .integer n ∧ ofJson? (.object given) =
          (ofJson? (.object (Json.without field.name given))).map (put field (some held))) ∧
        (¬ field.Fits n → ofJson? (.object given) = none)) ∧
      (field.name ∉ given.map Prod.fst ∨ (field.name, .null) ∈ given →
        ofJson? (.object given) = ofJson? (.object (Json.without field.name given)) ∧
        ∀ txpk, ofJson? (.object given) = some txpk → txpk.get field = none) := by
  refine ⟨fun txpk finite signed => ?_, fun given distinct field => ⟨fun n integral member => ?_,
    fun absent => ?_⟩⟩
  · refine ⟨txpk.members, txpk.toJson_eq, fun given order => ofJson?_object_of_perm order ?_⟩
    intro field held holds
    cases field with
    | frequency => exact finite held holds
    | gpsTime => exact signed held holds
    | _ => trivial
  · exact ⟨ofJson?_object_of_fits distinct member, ofJson?_object_of_unfit distinct integral member⟩
  · exact ⟨ofJson?_object_of_absent distinct absent, fun _ => get_eq_none_of_absent distinct absent⟩

/-- A request with every field at the end of its range. -/
def utmost : Txpk where
  immediate := some false
  counter := some 0xFFFFFFFF
  gpsTime := some 0x7FFFFFFFFFFFFFFF
  withoutCrc := some true
  frequency := some 868.1
  rfChain := some 0xFF
  power := some (-0x80)
  modulation := some "FSK"
  dataRate := some (.bitsPerSecond 0xFFFFFFFF)
  codingRate := some ""
  invertPolarity := some false
  preamble := some 0xFFFF
  deviation := some 0xFFFFFFFF
  size := some 0xFFFF
  data := some "A\x00="

/-- A member beside one with the least power. -/
def leastPower : List (String × Json) := [("ipol", .bool true), ("powe", .integer (-0x80))]

theorem json_form_faithful_utmost :
    (∃ written, utmost.toJson = .object written ∧
      ∀ given : List (String × Json), given.Perm written →
        ofJson? (.object given) = some utmost) ∧
    (∃ held, Field.power.encode held = .integer (-0x80) ∧ ofJson? (.object leastPower) =
      (ofJson? (.object (Json.without "powe" leastPower))).map (put .power (some held))) ∧
    ofJson? (.object [("tmms", .integer 0x8000000000000000)]) = none ∧
    ∀ txpk, ofJson? (.object [("tmst", .null)]) = some txpk → txpk.get .counter = none := by
  have unfit : ¬ Field.gpsTime.Fits 0x8000000000000000 := by
    rintro ⟨_, _, _, _, _, signed⟩
    exact absurd signed (by decide)
  obtain ⟨back, object⟩ := json_form_faithful
  refine ⟨back utmost ?_ ?_, ?_, ?_, ?_⟩
  · rintro _ ⟨⟩
    decide
  · rintro _ ⟨⟩
    decide
  · exact ((object leastPower (by decide) .power).1 (-0x80) rfl (.tail _ (.head _))).1
      ⟨-0x80, 0x7F, rfl, by decide, by decide⟩
  · exact ((object _ (by decide) .gpsTime).1 _ rfl (.head _)).2 unfit
  · exact ((object _ (by decide) .counter).2 (.inr (.head _))).2

end Laws

end LorawanGateway.Txpk
