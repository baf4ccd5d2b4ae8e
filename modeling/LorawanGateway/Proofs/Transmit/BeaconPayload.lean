import Mathlib.Data.Nat.Basic
import LorawanGateway.Proofs.Octets
import LorawanGateway.Proofs.Radio.ChecksumBits
import LorawanGateway.Proofs.Transmit.BeaconTimes

/-!
The payload of beacons and what it tells. Each part stands at a place that the layout fixes, and is
as long as it says. Coordinates are kept within 24 bits, so that the three octets of each give it
back with its sign. A payload therefore tells its content, and a content has one payload.
-/

namespace LorawanGateway

/-- What the receivers of a beacon learn from it. -/
structure BeaconContent where
  second : UInt32
  info : UInt8
  latitude : Int
  longitude : Int
  deriving DecidableEq, Repr

/-- A word of 24 bits, read in two's complement. -/
def signed24 (word : Nat) : Int := if word < 0x800000 then word else (word : Int) - 0x1000000

namespace BeaconLayout

/-- Where the part of the gateway begins, behind the time and its check. -/
def gatewayStart (layout : BeaconLayout) : Nat := layout.reservedBefore + 6

/-- Whether some octets are a beacon of a layout with a content, read part by part. -/
structure Carries (layout : BeaconLayout) (octets : Octets) (content : BeaconContent) : Prop where
  size : octets.length = layout.size
  reservedBefore : octets.slice 0 layout.reservedBefore = List.replicate layout.reservedBefore 0
  second : octets.word32At layout.reservedBefore = content.second
  timeCheck : octets.word16At (layout.reservedBefore + 4) =
    Checksum.bitwise (octets.slice 0 (layout.reservedBefore + 4))
  info : octets[layout.gatewayStart]? = some content.info
  latitude : signed24 (octets.slice (layout.gatewayStart + 1) 3).toNatLE = content.latitude
  longitude : signed24 (octets.slice (layout.gatewayStart + 4) 3).toNatLE = content.longitude
  reservedAfter : octets.slice (layout.gatewayStart + 7) layout.reservedAfter =
    List.replicate layout.reservedAfter 0
  gatewayCheck : octets.word16At (layout.gatewayStart + 7 + layout.reservedAfter) =
    Checksum.bitwise (octets.slice layout.gatewayStart (7 + layout.reservedAfter))

variable {layout : BeaconLayout} {octets : Octets} {content other : BeaconContent}

theorem Carries.content_eq (carries : layout.Carries octets content)
    (others : layout.Carries octets other) : content = other := by
  have info := Option.some.inj (carries.info.symm.trans others.info)
  cases content
  cases other
  simp only [BeaconContent.mk.injEq]
  exact ⟨carries.second.symm.trans others.second, info,
    carries.latitude.symm.trans others.latitude, carries.longitude.symm.trans others.longitude⟩

end BeaconLayout

theorem Binary.toIntWithin_bounds (mode : Rounding) {lowest highest : Int} (number : Binary)
    (below : lowest ≤ 0) (above : 0 ≤ highest) :
    lowest ≤ number.toIntWithin mode lowest highest ∧
      number.toIntWithin mode lowest highest ≤ highest := by
  cases number with
  | notANumber => exact ⟨below, above⟩
  | infinite negative =>
      rw [toIntWithin]
      split <;> omega
  | finite negative significand exponent =>
      rw [toIntWithin]
      omega

/-- A coordinate that 24 bits can hold. -/
def FitsCoordinate (value : Int) : Prop := -0x800000 ≤ value ∧ value < 0x800000

theorem fitsCoordinate_fixedPoint (degrees span : Float) :
    FitsCoordinate (fixedPoint degrees span) := by
  have bounds := (Binary.ofDouble (degrees / span * 8388608.0)).toIntWithin_bounds .towardZero
    (by decide : coordinateRange.1 ≤ 0) (by decide : 0 ≤ coordinateRange.2)
  exact ⟨bounds.1, Int.lt_add_one_of_le bounds.2⟩

theorem signed24_mod {value : Int} (fits : FitsCoordinate value) :
    signed24 (value % 0x1000000).toNat = value := by
  obtain ⟨low, high⟩ := fits
  rw [signed24]
  split <;> omega

theorem signed24_mod_self {word : Nat} (small : word < 0x1000000) :
    (signed24 word % 0x1000000).toNat = word := by
  rw [signed24]
  split <;> omega

namespace BeaconPlanner

variable {planner : BeaconPlanner} {octets : Octets} {second : Nat}

def content (planner : BeaconPlanner) (second : Nat) : BeaconContent where
  second := .ofNat second
  info := planner.config.info
  latitude := planner.latitude
  longitude := planner.longitude

@[simp] theorem length_timePart (planner : BeaconPlanner) (second : Nat) :
    (planner.timePart second).length = planner.layout.reservedBefore + 4 := by
  rw [timePart, List.length_append, List.length_replicate, Octets.length_ofNatLE]

@[simp] theorem length_coordinateOctets (value : Int) : (coordinateOctets value).length = 3 :=
  Octets.length_ofNatLE ..

@[simp] theorem length_gatewayPart (planner : BeaconPlanner) :
    planner.gatewayPart.length = 7 + planner.layout.reservedAfter := by
  simp only [gatewayPart, List.length_cons, List.length_append, length_coordinateOctets,
    List.length_replicate]
  omega

@[simp] theorem length_checked (octets : Octets) : (checked octets).length = octets.length + 2 := by
  rw [checked, List.length_append, Octets.length_ofNatLE]

theorem length_payload (planner : BeaconPlanner) (second : Nat) :
    (planner.payload second).length = planner.payloadSize := by
  simp only [payload, List.length_append, length_checked, length_timePart, length_gatewayPart,
    payloadSize, BeaconLayout.size]
  omega

/-- What stands in the part of the gateway, at the same distance from its beginning. -/
theorem slice_payload (planner : BeaconPlanner) (second place count : Nat) :
    (planner.payload second).slice (planner.layout.gatewayStart + place) count =
      (checked planner.gatewayPart).slice place count := by
  have long : (checked (planner.timePart second)).length = planner.layout.gatewayStart := by
    rw [length_checked, length_timePart, BeaconLayout.gatewayStart]
  rw [payload, Octets.slice_append_right (long ▸ Nat.le_add_right ..), long,
    Nat.add_sub_cancel_left]

theorem toNatLE_coordinateOctets (value : Int) :
    (coordinateOctets value).toNatLE = (value % 0x1000000).toNat := by
  rw [coordinateOctets, Octets.toNatLE_ofNatLE, Nat.pow_eq]
  omega

theorem carries_payload (latitude : FitsCoordinate planner.latitude)
    (longitude : FitsCoordinate planner.longitude) (second : Nat) :
    planner.layout.Carries (planner.payload second) (planner.content second) where
  size := planner.length_payload second
  reservedBefore := by simp [payload, checked, timePart]
  second := planner.word32At_payload second
  timeCheck := by simp [payload, checked, Octets.word16At, Checksum.crc16_eq_bitwise]
  info := by
    have first := planner.slice_payload second 0 1
    rw [Nat.add_zero, ← Octets.toList_getElem?] at first
    simpa [checked, gatewayPart, Octets.slice, Option.toList_eq_singleton_iff, content] using first
  latitude := by
    rw [slice_payload]
    simp [checked, gatewayPart, toNatLE_coordinateOctets, signed24_mod latitude, content]
  longitude := by
    rw [slice_payload]
    simp [checked, gatewayPart, toNatLE_coordinateOctets, signed24_mod longitude, content]
  reservedAfter := by
    rw [slice_payload]
    simp [checked, gatewayPart]
  gatewayCheck := by
    have whole := planner.slice_payload second 0 (7 + planner.layout.reservedAfter)
    rw [Nat.add_zero] at whole
    rw [Octets.word16At, Nat.add_assoc, slice_payload, whole]
    simp [checked, Checksum.crc16_eq_bitwise]

/-- A part that its check follows. -/
theorem slice_eq_checked {part : Octets} {start count place : Nat}
    (inside : start + (count + 2) ≤ octets.length) (behind : start + count = place)
    (found : octets.slice start count = part)
    (check : octets.word16At place = Checksum.bitwise (octets.slice start count)) :
    octets.slice start (count + 2) = checked part := by
  have written : Octets.ofNatLE 2 (octets.word16At place).toNat = octets.slice place 2 :=
    Octets.ofNatLE_word16At (by omega)
  rw [check, found] at written
  rw [← Octets.slice_append_slice octets behind, found, ← written, checked,
    Checksum.crc16_eq_bitwise]

theorem coordinateOctets_of_slice {start : Nat} {value : Int}
    (inside : start + 3 ≤ octets.length)
    (read : signed24 (octets.slice start 3).toNatLE = value) :
    octets.slice start 3 = coordinateOctets value := by
  have small := Octets.toNatLE_slice_lt inside
  rw [coordinateOctets, ← read, signed24_mod_self small, Octets.ofNatLE_slice inside]

theorem slice_timePart (carries : planner.layout.Carries octets (planner.content second)) :
    octets.slice 0 (planner.layout.reservedBefore + 4) = planner.timePart second := by
  have size := carries.size
  rw [BeaconLayout.size] at size
  let place := planner.layout.reservedBefore
  have time : Octets.ofNatLE 4 (octets.word32At place).toNat = octets.slice place 4 :=
    Octets.ofNatLE_word32At (by omega)
  have low : (planner.content second).second.toNat = second % Nat.pow 256 4 := UInt32.toNat_ofNat'
  rw [carries.second, low, Octets.ofNatLE_mod] at time
  rw [← Octets.slice_append_slice octets (Nat.zero_add _), carries.reservedBefore, ← time, timePart]

theorem slice_gatewayPart (carries : planner.layout.Carries octets (planner.content second)) :
    octets.slice planner.layout.gatewayStart (7 + planner.layout.reservedAfter) =
      planner.gatewayPart := by
  have size := carries.size
  rw [BeaconLayout.size] at size
  have inside : planner.layout.gatewayStart = planner.layout.reservedBefore + 6 := rfl
  have info := Octets.singleton_eq_slice carries.info
  have latitude := coordinateOctets_of_slice (by omega) carries.latitude
  have longitude := coordinateOctets_of_slice (by omega) carries.longitude
  calc octets.slice planner.layout.gatewayStart (1 + 3 + 3 + planner.layout.reservedAfter)
    _ = octets.slice planner.layout.gatewayStart 1 ++
          octets.slice (planner.layout.gatewayStart + 1) 3 ++
          octets.slice (planner.layout.gatewayStart + 4) 3 ++
          octets.slice (planner.layout.gatewayStart + 7) planner.layout.reservedAfter := by
        simp only [Octets.slice_append_slice octets rfl]
    _ = planner.gatewayPart := by
        rw [← info, latitude, longitude, carries.reservedAfter, List.append_assoc,
          List.append_assoc, gatewayPart, content, List.append_assoc, List.singleton_append]

theorem payload_of_carries (carries : planner.layout.Carries octets (planner.content second)) :
    octets = planner.payload second := by
  have size := carries.size
  rw [BeaconLayout.size] at size
  have inside : planner.layout.gatewayStart = planner.layout.reservedBefore + 6 := rfl
  have time := slice_eq_checked (by omega) (Nat.zero_add _) (slice_timePart carries)
    carries.timeCheck
  have gateway := slice_eq_checked (by omega) (Nat.add_assoc ..).symm (slice_gatewayPart carries)
    carries.gatewayCheck
  rw [payload, ← time, ← gateway, Octets.slice_append_slice octets (by omega),
    Octets.slice_self (by omega)]

theorem carries_iff (latitude : FitsCoordinate planner.latitude)
    (longitude : FitsCoordinate planner.longitude) (octets : Octets) (second : Nat) :
    planner.layout.Carries octets (planner.content second) ↔ octets = planner.payload second :=
  ⟨payload_of_carries, fun same => same ▸ carries_payload latitude longitude second⟩

theorem content_eq_iff (planner other : BeaconPlanner) (second otherSecond : Nat) :
    planner.content second = other.content otherSecond ↔
      second % 0x100000000 = otherSecond % 0x100000000 ∧ planner.config.info = other.config.info ∧
        planner.latitude = other.latitude ∧ planner.longitude = other.longitude := by
  rw [content, content, BeaconContent.mk.injEq, ← UInt32.toNat_inj, UInt32.toNat_ofNat',
    UInt32.toNat_ofNat']

/-- With one layout, two payloads are the same just when they carry the same content. -/
theorem payload_eq_iff {other : BeaconPlanner} (sameLayout : planner.layout = other.layout)
    (latitude : FitsCoordinate planner.latitude) (longitude : FitsCoordinate planner.longitude)
    (north : FitsCoordinate other.latitude) (east : FitsCoordinate other.longitude)
    (second otherSecond : Nat) :
    planner.payload second = other.payload otherSecond ↔
      second % 0x100000000 = otherSecond % 0x100000000 ∧ planner.config.info = other.config.info ∧
        planner.latitude = other.latitude ∧ planner.longitude = other.longitude := by
  rw [← content_eq_iff, ← carries_iff north east, ← sameLayout]
  have mine := carries_payload latitude longitude second
  exact ⟨mine.content_eq, fun same => same ▸ mine⟩

/-- The payload of a beacon has the size of its layout and is the only run of octets that carries
its content. At one data rate, two payloads are the same just when the seconds agree in 32 bits
and the gateways in what they tell of themselves. -/
theorem payload_decodes_uniquely {config : BeaconConfig} {position : Coordinates}
    (made : ofConfig config position = .ok planner) (second : Nat) :
    (planner.payload second).length = planner.payloadSize ∧
    (∀ octets : Octets, planner.layout.Carries octets (planner.content second) ↔
      octets = planner.payload second) ∧
    ∀ (otherConfig : BeaconConfig) (elsewhere : Coordinates) (other : BeaconPlanner)
      (otherSecond : Nat), ofConfig otherConfig elsewhere = .ok other →
      otherConfig.dataRate = config.dataRate →
      (planner.payload second = other.payload otherSecond ↔
        second % 0x100000000 = otherSecond % 0x100000000 ∧ config.info = otherConfig.info ∧
          planner.latitude = other.latitude ∧ planner.longitude = other.longitude) := by
  obtain ⟨layout, bandwidth, ofRate, -, rfl⟩ := parts_of_ofConfig made
  have fits := fitsCoordinate_fixedPoint
  refine ⟨length_payload _ second, fun octets => carries_iff (fits ..) (fits ..) octets second,
    fun otherConfig elsewhere other otherSecond otherMade sameRate => ?_⟩
  obtain ⟨otherLayout, otherBandwidth, ofSameRate, -, rfl⟩ := parts_of_ofConfig otherMade
  have sameLayout : layout = otherLayout := by
    rw [sameRate, ofRate] at ofSameRate
    exact Except.ok.inj ofSameRate
  subst sameLayout
  apply payload_eq_iff
  · rfl
  all_goals exact fits ..

/-- A planner at 45 degrees north and 90 degrees west. -/
def plannerTelling (info : UInt8) : BeaconPlanner where
  config := { info }
  layout := ⟨.sf9, 2, 0⟩
  bandwidth := .bw125
  latitude := fixedPoint 45 90
  longitude := fixedPoint (-90) 180

theorem payloads_of_two_infos :
    ofConfig { info := 1 } ⟨45, -90, 0⟩ = .ok (plannerTelling 1) ∧
    ofConfig { info := 2 } ⟨45, -90, 0⟩ = .ok (plannerTelling 2) ∧
    ((plannerTelling 1).payload 1000000128).length = 17 ∧
    (plannerTelling 1).payload 1000000128 = (plannerTelling 1).payload (1000000128 + 0x100000000) ∧
    (plannerTelling 1).payload 1000000128 ≠ (plannerTelling 2).payload 1000000128 := by
  have one : ofConfig { info := 1 } ⟨45, -90, 0⟩ = .ok (plannerTelling 1) := rfl
  have two : ofConfig { info := 2 } ⟨45, -90, 0⟩ = .ok (plannerTelling 2) := rfl
  obtain ⟨size, -, same⟩ := payload_decodes_uniquely one 1000000128
  refine ⟨one, two, size, ?_, fun equal => ?_⟩
  · exact (same _ _ _ _ one rfl).mpr ⟨by decide, rfl, rfl, rfl⟩
  · have infos := ((same _ _ _ _ two rfl).mp equal).2.1
    exact absurd infos (by decide)

end BeaconPlanner

end LorawanGateway
