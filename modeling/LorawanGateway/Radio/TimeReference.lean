import LorawanGateway.Time.Instant

/-!
Pairing of the concentrator's counter with GPS time. The counter has 32 bits and wraps about every
71 minutes; a reference says which GPS time one of its values had and how fast it really runs.
-/

namespace LorawanGateway

/-- The start of GPS time, in seconds since the start of 1970. -/
def gpsEpoch : Int := 315964800

/-- The instant of a GPS time, leap seconds left aside; what no calendar shows is taken for the
start of 1970. Seconds beyond the signed range count as negative. -/
def Instant.ofGps (gps : Span) : Instant :=
  let signed : Int :=
    if gps.seconds < 0x8000000000000000 then gps.seconds
    else (gps.seconds : Int) - 0x10000000000000000
  let seconds := gpsEpoch + signed
  if Instant.inCalendar seconds then ⟨seconds * Span.perSecond + gps.subsecond⟩ else .epoch

/-- One value of the counter, its GPS time, and the ratio of the counter's rate to its nominal
one. -/
structure TimeReference where
  counter : UInt32
  gps : Span
  rate : Float

namespace TimeReference

def utc (reference : TimeReference) : Instant := .ofGps reference.gps

/-- The seconds from the reference to a later counter value. -/
def elapsed (reference : TimeReference) (counter : UInt32) : Float :=
  (counter - reference.counter).toUInt64.toFloat / (1e6 * reference.rate)

/-- The GPS time of a counter value, if there is one. -/
def gpsAt? (reference : TimeReference) (counter : UInt32) : Option Span :=
  (Span.ofSeconds? (reference.elapsed counter)).bind reference.gps.add?

/-- The smallest and the largest signed 64-bit number. -/
def signedRange : Int × Int := (-0x8000000000000000, 0x7FFFFFFFFFFFFFFF)

/-- The instant of a counter value, if the calendar shows it. -/
def utcAt? (reference : TimeReference) (counter : UInt32) : Option Instant :=
  let microseconds := (Binary.ofDouble (reference.elapsed counter * 1e6)).toIntWithin
    .towardZero signedRange.1 signedRange.2
  reference.utc.addMicroseconds? microseconds

/-- The counter value at a GPS time, rounded to the nearest, a half away from zero. -/
def counterAt (reference : TimeReference) (gps : Span) : UInt32 :=
  let seconds := gps.toSeconds - reference.gps.toSeconds
  let ticks := (Binary.ofDouble (seconds * 1e6 * reference.rate)).toIntWithin
    .halfAway signedRange.1 signedRange.2
  reference.counter + UInt32.ofNat (ticks % 0x100000000).toNat

end TimeReference

/-- What is known of GPS time: the last reference, and whether it still holds. -/
structure GpsClock where
  last : Option TimeReference := none
  valid : Bool := false

namespace GpsClock

def update (_ : GpsClock) (reference : TimeReference) : GpsClock := ⟨some reference, true⟩

def invalidate (clock : GpsClock) : GpsClock := { clock with valid := false }

/-- The reference, if one holds. -/
def reference? (clock : GpsClock) : Option TimeReference :=
  if clock.valid then clock.last else none

end GpsClock

end LorawanGateway
