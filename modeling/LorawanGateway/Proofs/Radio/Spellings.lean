import Mathlib.Data.List.Nodup
import LorawanGateway.Radio.Modulation

/-!
Which texts spell radio settings. Each setting is read from its own names and from no other text; a
LoRa data rate is spelled by a spreading factor and a bandwidth, one behind the other.
-/

namespace LorawanGateway

variable {text : String}

theorem findName_eq_ok_iff {kind : WireKind} {all : List α} {name : α → String} {value : α}
    (listed : ∀ value, value ∈ all) (distinct : (all.map name).Nodup) :
    findName kind all name text = .ok value ↔ name value = text := by
  rw [findName]
  constructor
  · intro read
    split at read
    · rename_i found
      cases read
      simpa using List.find?_some found
    · cases read
  · rintro rfl
    split
    · rename_i other found
      have same : name other = name value := by simpa using List.find?_some found
      rw [List.inj_on_of_nodup_map distinct (listed other) (listed value) same]
    · rename_i missed
      have refused := List.find?_eq_none.mp missed value (listed value)
      exact absurd BEq.rfl refused

namespace SpreadingFactor

theorem ofName_eq_ok_iff {factor : SpreadingFactor} :
    ofName text = .ok factor ↔ factor.name = text :=
  findName_eq_ok_iff (by rintro ⟨⟩ <;> decide) (by decide)

end SpreadingFactor

namespace Bandwidth

theorem ofName_eq_ok_iff {bandwidth : Bandwidth} :
    ofName text = .ok bandwidth ↔ bandwidth.name = text :=
  findName_eq_ok_iff (by rintro ⟨⟩ <;> decide) (by decide)

end Bandwidth

namespace Modulation

theorem ofName_eq_ok_iff {modulation : Modulation} :
    ofName text = .ok modulation ↔ modulation.name = text :=
  findName_eq_ok_iff (by rintro ⟨⟩ <;> decide) (by decide)

end Modulation

namespace CodingRate

variable {rate : CodingRate}

theorem ofName_eq_ok_iff : ofName text = .ok rate ↔ rate.name = text :=
  findName_eq_ok_iff (by rintro ⟨⟩ <;> decide) (by decide)

/-- The texts that are read as a coding rate. -/
def spellings : CodingRate → List String
  | .cr45 => ["4/5"]
  | .cr46 => ["4/6", "2/3"]
  | .cr47 => ["4/7"]
  | .cr48 => ["4/8", "1/2"]
  | .off => ["OFF"]

theorem ofNameOrFraction_eq_ok_iff : ofNameOrFraction text = .ok rate ↔ text ∈ rate.spellings := by
  rw [ofNameOrFraction]
  split
  · rename_i twoThirds
    subst twoThirds
    cases rate <;> decide
  · rename_i notTwoThirds
    split
    · rename_i half
      subst half
      cases rate <;> decide
    · rename_i notHalf
      rw [ofName_eq_ok_iff]
      cases rate <;> simp [spellings, name, notTwoThirds, notHalf, eq_comm]

end CodingRate

namespace DataRate

theorem append_of_splitAtBandwidth? {chars before after : List Char}
    (split : splitAtBandwidth? chars = some (before, after)) : before ++ after = chars := by
  fun_induction splitAtBandwidth? chars generalizing before after with
  | case1 => cases split
  | case2 rest =>
      cases split
      rfl
  | case3 c rest _ induction =>
      obtain ⟨⟨first, others⟩, found, made⟩ := Option.map_eq_some_iff.mp split
      cases made
      rw [List.cons_append, induction found]

/-- A name is split before its bandwidth. -/
theorem splitAtBandwidth?_name (factor : SpreadingFactor) (bandwidth : Bandwidth) :
    splitAtBandwidth? (factor.name ++ bandwidth.name).toList =
      some (factor.name.toList, bandwidth.name.toList) := by
  cases factor <;> cases bandwidth <;> decide

theorem ofLoraName_eq_ok_iff {rate : DataRate} : ofLoraName text = .ok rate ↔
    ∃ factor bandwidth, text = factor.name ++ bandwidth.name ∧ rate = .lora factor bandwidth := by
  constructor
  · intro read
    rw [ofLoraName] at read
    split at read
    · cases read
    · rename_i before after found
      split at read
      · rename_i factor bandwidth readFactor readBandwidth
        cases read
        refine ⟨factor, bandwidth, ?_, rfl⟩
        rw [SpreadingFactor.ofName_eq_ok_iff.mp readFactor,
          Bandwidth.ofName_eq_ok_iff.mp readBandwidth, ← String.ofList_append,
          append_of_splitAtBandwidth? found, String.ofList_toList]
      · cases read
  · rintro ⟨factor, bandwidth, rfl, rfl⟩
    have readFactor : SpreadingFactor.ofName (String.ofList factor.name.toList) = .ok factor :=
      SpreadingFactor.ofName_eq_ok_iff.mpr (String.ofList_toList ..).symm
    have readBandwidth : Bandwidth.ofName (String.ofList bandwidth.name.toList) = .ok bandwidth :=
      Bandwidth.ofName_eq_ok_iff.mpr (String.ofList_toList ..).symm
    simp only [ofLoraName, splitAtBandwidth?_name, readFactor, readBandwidth]

end DataRate

end LorawanGateway
