import LorawanGateway.Proofs.Text.PlainText
import LorawanGateway.Time.Instant

/-!
The texts of instants: plain, and of a bounded length where the calendar shows the instant.
-/

namespace LorawanGateway.Instant

open LorawanGateway.Text

variable {instant : Instant}

theorem within_padded {width longest value : Nat} (narrow : width ≤ longest)
    (wide : 0 < longest) (below : value < 10 ^ longest) :
    Within longest (padded width value) := by
  have digits := within_toString wide below
  have zero : IsPlain '0' := by decide
  have whole : Within (toString value).length (toString value) :=
    ⟨digits.plain, Nat.le_refl _⟩
  refine ((within_replicate _ zero).append whole).mono ?_
  have short := digits.short
  omega

/-- The years of the calendar have at most six digits. -/
theorem natAbs_year_lt (shown : inCalendar instant.seconds = true) :
    instant.date.year.natAbs < 10 ^ 6 := by
  obtain ⟨first, last⟩ := (Bool.and_eq_true ..).mp shown
  have early : -8334601228800 ≤ instant.seconds := of_decide_eq_true first
  have late : instant.seconds ≤ 8210266876799 := of_decide_eq_true last
  simp only [date, Date.ofDays]
  omega

theorem month_lt (days : Int) : (Date.ofDays days).month < 10 ^ 2 := by
  simp only [Date.ofDays]
  split <;> omega

theorem day_lt (days : Int) : (Date.ofDays days).day < 10 ^ 2 := by
  simp only [Date.ofDays]
  omega

theorem within_yearText {year : Int} (small : year.natAbs < 10 ^ 6) :
    Within 7 (yearText year) := by
  have digits : Within 6 (padded 4 year.natAbs) :=
    within_padded (by decide) (by decide) small
  rw [yearText]
  split
  · exact (show Within 1 "-" by decide).append digits
  · split
    · exact digits.mono (by decide)
    · exact (show Within 1 "+" by decide).append (within_toString (by decide) small)

theorem within_dateText (shown : inCalendar instant.seconds = true) :
    Within 13 instant.dateText := by
  have hyphen : Within 1 "-" := by decide
  have year : Within 7 (yearText instant.date.year) := within_yearText (natAbs_year_lt shown)
  have month : Within 2 (padded 2 instant.date.month) :=
    within_padded (by decide) (by decide) (month_lt _)
  have day : Within 2 (padded 2 instant.date.day) :=
    within_padded (by decide) (by decide) (day_lt _)
  exact (((year.append hyphen).append month).append hyphen).append day

theorem within_clockText (instant : Instant) : Within 8 instant.clockText := by
  have inDay : instant.secondOfDay < 86400 := by
    rw [secondOfDay]
    omega
  have colon : Within 1 ":" := by decide
  have hours : Within 2 (padded 2 (instant.secondOfDay / 3600)) :=
    within_padded (by decide) (by decide) (by omega)
  have minutes : Within 2 (padded 2 (instant.secondOfDay / 60 % 60)) :=
    within_padded (by decide) (by decide) (by omega)
  have seconds : Within 2 (padded 2 (instant.secondOfDay % 60)) :=
    within_padded (by decide) (by decide) (by omega)
  exact (((hours.append colon).append minutes).append colon).append seconds

theorem within_preciseText (shown : inCalendar instant.seconds = true) :
    Within 30 instant.preciseText := by
  have inSecond : instant.subsecond < 1000000000 := by
    rw [subsecond, Span.perSecond]
    omega
  have fraction : Within 6 (padded 6 (instant.subsecond / 1000)) :=
    within_padded (by decide) (by decide) (by omega)
  have mark : Within 1 "T" := by decide
  have point : Within 1 "." := by decide
  have zone : Within 1 "Z" := by decide
  exact (((((within_dateText shown).append mark).append (within_clockText instant)).append
    point).append fraction).append zone

theorem within_reportText (shown : inCalendar instant.seconds = true) :
    Within 26 instant.reportText := by
  have blank : Within 1 " " := by decide
  have zone : Within 4 " GMT" := by decide
  exact (((within_dateText shown).append blank).append (within_clockText instant)).append zone

end LorawanGateway.Instant
