import LorawanGateway.Time.Span

/-!
Instants of universal time and their calendar form. Days and years follow the Gregorian calendar,
extended to all years.
-/

namespace LorawanGateway

/-- An instant, in nanoseconds since the start of 1970. -/
structure Instant where
  nanoseconds : Int
  deriving DecidableEq, Repr

structure Date where
  year : Int
  month : Nat
  day : Nat
  deriving DecidableEq, Repr

/-- The date that lies `days` after the first of January 1970. Years are counted from March, so
that a leap day ends one. -/
def Date.ofDays (days : Int) : Date :=
  let shifted := days + 719468
  let era := shifted / 146097
  let dayOfEra := (shifted % 146097).toNat
  let yearOfEra :=
    (dayOfEra - dayOfEra / 1460 + dayOfEra / 36524 - dayOfEra / 146096) / 365
  let dayOfYear := dayOfEra - (365 * yearOfEra + yearOfEra / 4 - yearOfEra / 100)
  let march := (5 * dayOfYear + 2) / 153
  let month := if march < 10 then march + 3 else march - 9
  { year := era * 400 + yearOfEra + if month ≤ 2 then 1 else 0
    month := month
    day := dayOfYear - (153 * march + 2) / 5 + 1 }

namespace Instant

/-- The first and the last second that a calendar of six-digit years shows: the years -262143 to
262142. -/
def secondRange : Int × Int := (-8334601228800, 8210266876799)

def inCalendar (seconds : Int) : Bool :=
  secondRange.1 ≤ seconds && seconds ≤ secondRange.2

def epoch : Instant := ⟨0⟩

def seconds (instant : Instant) : Int := instant.nanoseconds / Span.perSecond

/-- The nanoseconds beyond the whole seconds. -/
def subsecond (instant : Instant) : Nat := (instant.nanoseconds % Span.perSecond).toNat

def ofSeconds (seconds : Int) : Instant := ⟨seconds * Span.perSecond⟩

/-- The instant some microseconds later, if the calendar shows it. -/
def addMicroseconds? (instant : Instant) (count : Int) : Option Instant :=
  let later : Instant := ⟨instant.nanoseconds + count * 1000⟩
  if inCalendar later.seconds then some later else none

def secondOfDay (instant : Instant) : Nat := (instant.seconds % 86400).toNat

def date (instant : Instant) : Date := .ofDays (instant.seconds / 86400)

/-- A number in at least `width` digits. -/
def padded (width value : Nat) : String :=
  let digits := toString value
  String.ofList (List.replicate (width - digits.length) '0') ++ digits

/-- A year in at least four digits, with a sign unless it has exactly four. -/
def yearText (year : Int) : String :=
  if year < 0 then "-" ++ padded 4 year.natAbs
  else if year ≤ 9999 then padded 4 year.natAbs
  else "+" ++ toString year.natAbs

/-- The day as `YYYY-MM-DD`. -/
def dateText (instant : Instant) : String :=
  let date := instant.date
  yearText date.year ++ "-" ++ padded 2 date.month ++ "-" ++ padded 2 date.day

/-- The time of day as `HH:MM:SS`. -/
def clockText (instant : Instant) : String :=
  let second := instant.secondOfDay
  padded 2 (second / 3600) ++ ":" ++ padded 2 (second / 60 % 60) ++ ":" ++ padded 2 (second % 60)

/-- The instant to the microsecond, as in a received packet. -/
def preciseText (instant : Instant) : String :=
  instant.dateText ++ "T" ++ instant.clockText ++ "." ++
    padded 6 (instant.subsecond / 1000) ++ "Z"

def reportText (instant : Instant) : String :=
  instant.dateText ++ " " ++ instant.clockText ++ " GMT"

end Instant

end LorawanGateway
