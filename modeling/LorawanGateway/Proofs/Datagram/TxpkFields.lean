import Mathlib.Data.Option.Basic
import Mathlib.Logic.Function.Basic
import LorawanGateway.Datagram.Txpk
import LorawanGateway.Proofs.Json.Fields

/-!
The fields of a request to send: their names, what they hold, and how that is written and read. A
field for integers takes just the integers of its range that fit 64 bits with a sign, and what any
field was written as is read as what it held.
-/

namespace LorawanGateway

namespace Json

variable {lowest highest n : Int}

/-- The values of a field stand for the integers of a range, and an integer that fits 64 bits with
a sign is read as the value that stands for it. -/
structure KeepsIntegers (lowest highest : Int) (toInt : α → Int) (decode? : Json → Option α) :
    Prop where
  range : ∀ n, (∃ value, toInt value = n) ↔ lowest ≤ n ∧ n ≤ highest
  reads : ∀ n value, decode? (.integer n) = some value ↔ toInt value = n ∧ n < 0x8000000000000000

theorem wholeWithin?_integer_eq_some_iff {m : Int} :
    wholeWithin? lowest highest (.integer n) = some m ↔
      (lowest ≤ n ∧ n ≤ highest) ∧ n < 0x8000000000000000 ∧ n = m := by
  rw [wholeWithin?, integer, wholeNumber?]
  split <;> simp_all [Option.filter]

theorem bind_eq_some {α β : Type} {first : Option α} {next : α → Option β} {item : α} {result : β}
    (taken : first = some item) (later : next item = some result) :
    first.bind next = some result :=
  Option.bind_eq_some_iff.mpr ⟨item, taken, later⟩

theorem keepsIntegers_signed {ofInt : Int → α} {toInt : α → Int}
    (within : ∀ value, lowest ≤ toInt value ∧ toInt value ≤ highest)
    (inverse : ∀ value, ofInt (toInt value) = value)
    (kept : ∀ n, lowest ≤ n ∧ n ≤ highest → toInt (ofInt n) = n) :
    KeepsIntegers lowest highest toInt fun form =>
      (wholeWithin? lowest highest form).map ofInt where
  range n := ⟨fun ⟨value, stands⟩ => stands ▸ within value, fun fits => ⟨ofInt n, kept n fits⟩⟩
  reads n value := by
    simp only [Option.map_eq_some_iff, wholeWithin?_integer_eq_some_iff]
    constructor
    · rintro ⟨_, ⟨fits, signed, rfl⟩, rfl⟩
      exact ⟨kept n fits, signed⟩
    · rintro ⟨rfl, signed⟩
      exact ⟨_, ⟨within value, signed, rfl⟩, inverse value⟩

theorem keepsIntegers_word (bits : Nat) {ofNat : Nat → α} {toNat : α → Nat}
    (small : ∀ value, toNat value < 2 ^ bits) (inverse : ∀ value, ofNat (toNat value) = value)
    (kept : ∀ n, n < 2 ^ bits → toNat (ofNat n) = n) :
    KeepsIntegers 0 ((1 <<< bits : Nat) - 1) (fun value => (toNat value : Int))
      fun form => (wholeBelow? bits form).map ofNat := by
  have decodes : (fun form => (wholeBelow? bits form).map ofNat) = fun form =>
      (wholeWithin? 0 ((1 <<< bits : Nat) - 1) form).map fun n => ofNat n.toNat := by
    funext form
    rw [wholeBelow?, Option.map_map]
    rfl
  rw [decodes, Nat.one_shiftLeft]
  refine keepsIntegers_signed (fun value => ?_) inverse fun n fits => ?_
  · have := small value
    omega
  · rw [kept n.toNat (by omega)]
    omega

end Json

namespace Txpk

/-- The fields in the order they are written and read in. -/
inductive Field where
  | immediate
  | counter
  | gpsTime
  | withoutCrc
  | frequency
  | rfChain
  | power
  | modulation
  | dataRate
  | codingRate
  | invertPolarity
  | preamble
  | deviation
  | size
  | data
  deriving DecidableEq

namespace Field

def name : Field → String
  | immediate => "imme"
  | counter => "tmst"
  | gpsTime => "tmms"
  | withoutCrc => "ncrc"
  | frequency => "freq"
  | rfChain => "rfch"
  | power => "powe"
  | modulation => "modu"
  | dataRate => "datr"
  | codingRate => "codr"
  | invertPolarity => "ipol"
  | preamble => "prea"
  | deviation => "fdev"
  | size => "size"
  | data => "data"

abbrev Value : Field → Type
  | immediate | withoutCrc | invertPolarity => Bool
  | counter | deviation => UInt32
  | gpsTime => UInt64
  | frequency => Float
  | rfChain => UInt8
  | power => Int8
  | modulation | codingRate | data => String
  | dataRate => SpelledRate
  | preamble | size => UInt16

def encode : (field : Field) → field.Value → Json
  | immediate | withoutCrc | invertPolarity => .bool
  | counter | deviation => fun value => .natural value.toNat
  | gpsTime => fun value => .natural value.toNat
  | frequency => .double
  | rfChain => fun value => .natural value.toNat
  | power => fun value => .integer value.toInt
  | modulation | codingRate | data => .text
  | dataRate => SpelledRate.toJson
  | preamble | size => fun value => .natural value.toNat

def decode? : (field : Field) → Json → Option field.Value
  | immediate | withoutCrc | invertPolarity => Json.bool?
  | counter | deviation => fun value => (Json.wholeBelow? 32 value).map Nat.toUInt32
  | gpsTime => fun value => (Json.wholeBelow? 64 value).map Nat.toUInt64
  | frequency => Json.double?
  | rfChain => fun value => (Json.wholeBelow? 8 value).map Nat.toUInt8
  | power => fun value => (Json.wholeWithin? (-128) 127 value).map Int.toInt8
  | modulation | codingRate | data => Json.text?
  | dataRate => SpelledRate.ofJson?
  | preamble | size => fun value => (Json.wholeBelow? 16 value).map Nat.toUInt16

/-- The least and the greatest integer of a field that holds integers. -/
def range? : Field → Option (Int × Int)
  | counter | deviation => some (0, 0xFFFFFFFF)
  | gpsTime => some (0, 0xFFFFFFFFFFFFFFFF)
  | rfChain => some (0, 0xFF)
  | power => some (-0x80, 0x7F)
  | preamble | size => some (0, 0xFFFF)
  | _ => none

def all : List Field :=
  [immediate, counter, gpsTime, withoutCrc, frequency, rfChain, power, modulation, dataRate,
    codingRate, invertPolarity, preamble, deviation, size, data]

/-- The values that are read from their JSON form: fractional numbers have to be finite, and
integers have to fit 64 bits with a sign. -/
def IsExact : (field : Field) → field.Value → Prop
  | frequency, value => value.isFinite
  | gpsTime, value => value < 0x8000000000000000
  | _, _ => True

/-- Whether an integer fits a field that holds integers, and 64 bits with a sign. -/
def Fits (field : Field) (n : Int) : Prop :=
  ∃ lowest highest, field.range? = some (lowest, highest) ∧ (lowest ≤ n ∧ n ≤ highest) ∧
    -0x8000000000000000 ≤ n ∧ n < 0x8000000000000000

theorem le_of_range? {field : Field} {lowest highest : Int}
    (range : field.range? = some (lowest, highest)) : -0x80 ≤ lowest := by
  cases field <;> cases range <;> decide

/-- The fields for integers differ in their widths alone. -/
theorem exists_keepsIntegers {field : Field} {lowest highest : Int}
    (range : field.range? = some (lowest, highest)) :
    ∃ toInt : field.Value → Int, (∀ value, field.encode value = .integer (toInt value)) ∧
      Json.KeepsIntegers lowest highest toInt field.decode? := by
  have word8 := Json.keepsIntegers_word 8 UInt8.toNat_lt (fun _ => UInt8.ofNat_toNat)
    fun _ => UInt8.toNat_ofNat_of_lt'
  have word16 := Json.keepsIntegers_word 16 UInt16.toNat_lt (fun _ => UInt16.ofNat_toNat)
    fun _ => UInt16.toNat_ofNat_of_lt'
  have word32 := Json.keepsIntegers_word 32 UInt32.toNat_lt (fun _ => UInt32.ofNat_toNat)
    fun _ => UInt32.toNat_ofNat_of_lt'
  have word64 := Json.keepsIntegers_word 64 UInt64.toNat_lt (fun _ => UInt64.ofNat_toNat)
    fun _ => UInt64.toNat_ofNat_of_lt'
  have signed8 : Json.KeepsIntegers (-0x80) 0x7F Int8.toInt fun form =>
      (Json.wholeWithin? (-0x80) 0x7F form).map Int.toInt8 :=
    Json.keepsIntegers_signed (fun value => ⟨value.le_toInt, value.toInt_le⟩)
      (fun value => Int8.ofInt_toInt value)
      fun n fits => Int8.toInt_ofInt_of_le fits.1 (Int.lt_add_one_of_le fits.2)
  cases field <;> cases range
  · exact ⟨_, fun _ => rfl, word32⟩
  · exact ⟨_, fun _ => rfl, word64⟩
  · exact ⟨_, fun _ => rfl, word8⟩
  · exact ⟨_, fun _ => rfl, signed8⟩
  · exact ⟨_, fun _ => rfl, word16⟩
  · exact ⟨_, fun _ => rfl, word32⟩
  · exact ⟨_, fun _ => rfl, word16⟩

theorem exists_decode?_integer {field : Field} {n : Int} (fits : field.Fits n) :
    ∃ held, field.decode? (.integer n) = some held ∧ field.encode held = .integer n := by
  obtain ⟨lowest, highest, range, within, -, signed⟩ := fits
  obtain ⟨toInt, encodes, keeps⟩ := exists_keepsIntegers range
  obtain ⟨held, rfl⟩ := (keeps.range n).mpr within
  exact ⟨held, (keeps.reads _ held).mpr ⟨rfl, signed⟩, encodes held⟩

theorem fits_of_decode?_integer {field : Field} {held : field.Value} {n : Int}
    (integral : field.range?.isSome) (read : field.decode? (.integer n) = some held) :
    field.Fits n := by
  obtain ⟨⟨lowest, highest⟩, range⟩ := Option.isSome_iff_exists.mp integral
  obtain ⟨toInt, -, keeps⟩ := exists_keepsIntegers range
  obtain ⟨rfl, signed⟩ := (keeps.reads n held).mp read
  have within := (keeps.range _).mp ⟨held, rfl⟩
  have low := le_of_range? range
  exact ⟨lowest, highest, range, within, by omega, signed⟩

theorem nullable_encode_of_range {field : Field} {held : field.Value} {lowest highest : Int}
    (range : field.range? = some (lowest, highest)) (exact : field.IsExact held) :
    Json.Record.nullable field.decode? (field.encode held) = some (some held) := by
  obtain ⟨toInt, encodes, keeps⟩ := exists_keepsIntegers range
  have signed : toInt held < 0x8000000000000000 := by
    have small := ((keeps.range _).mp ⟨held, rfl⟩).2
    -- Only the GPS time has a range beyond 64 bits with a sign.
    cases field with
    | gpsTime =>
        injection encodes held with form
        injection form with form
        rw [← form]
        exact Int.ofNat_lt.mpr (UInt64.lt_iff_toNat_lt.mp exact)
    | counter | rfChain | power | preamble | deviation | size =>
        cases range
        exact Int.lt_of_le_of_lt small (by decide)
    | _ => cases range
  have read : field.decode? (.integer (toInt held)) = some held :=
    (keeps.reads _ _).mpr ⟨rfl, signed⟩
  rw [encodes held, Json.nullable_integer, read, Option.map_some]

theorem nullable_encode {field : Field} {held : field.Value} (exact : field.IsExact held) :
    Json.Record.nullable field.decode? (field.encode held) = some (some held) := by
  cases range : field.range? with
  | some bounds => exact nullable_encode_of_range range exact
  | none =>
      cases field with
      | immediate | withoutCrc | invertPolarity | modulation | codingRate | data => rfl
      | frequency =>
          have form : encode frequency held = .number (.double held) := if_pos exact
          rw [form]
          rfl
      | dataRate =>
          cases held with
          | name text => rfl
          | bitsPerSecond rate =>
              have read : decode? dataRate (.integer rate.toNat) = some (.bitsPerSecond rate) := by
                have word := Json.word32?_natural rate
                rw [decode?, SpelledRate.ofJson?, ← Json.natural, word]
                rfl
              rw [encode, SpelledRate.toJson, Json.natural, Json.nullable_integer, read,
                Option.map_some]
      | _ => cases range

theorem mem_all (field : Field) : field ∈ all := by
  cases field <;> decide

theorem nodup_names : (all.map name).Nodup := by
  decide

theorem name_injective : Function.Injective name := fun field other same =>
  List.inj_on_of_nodup_map nodup_names field.mem_all other.mem_all same

end Field

end Txpk

end LorawanGateway
