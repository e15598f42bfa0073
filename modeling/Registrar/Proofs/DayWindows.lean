import Registrar.DateWindow

/-!
# Windows of whole days

The number of a day is found again from its name in the calendar (`toDays_ofDays`), so no
representable instant is on the last day that has a name.  A window can therefore be made of any
two such instants unless they are the wrong way round or one of its two midnights is not
representable, and it holds exactly the instants of its days (`window_of_days`).
-/

namespace Registrar

namespace Date

section Calendar

variable {dayOfEra : Int}

/-- The year of its era that a day is in. -/
def yearOf (dayOfEra : Int) : Int :=
  (dayOfEra - dayOfEra / 1460 + dayOfEra / 36524 - dayOfEra / 146096) / 365

/-- The days of an era that are before one of its years. -/
def daysBefore (year : Int) : Int :=
  365 * year + year / 4 - year / 100

theorem yearOf_bounds (hfirst : 0 ≤ dayOfEra) (hlast : dayOfEra < 146097) :
    0 ≤ yearOf dayOfEra ∧ yearOf dayOfEra < 400 := by
  unfold yearOf
  omega

/-- The centuries have 36524 days, but the last one of an era has one day more. -/
theorem yearOf_div_hundred (hfirst : 0 ≤ dayOfEra) (hlast : dayOfEra < 146097) :
    yearOf dayOfEra / 100 = dayOfEra / 36524 - dayOfEra / 146096 := by
  unfold yearOf
  have hcentury : dayOfEra / 36524 = 0 ∨ dayOfEra / 36524 = 1 ∨ dayOfEra / 36524 = 2 ∨
      dayOfEra / 36524 = 3 ∨ dayOfEra / 36524 = 4 := by
    omega
  rcases hcentury with h | h | h | h | h <;> rw [h] <;> omega

theorem yearOf_div_four (hfirst : 0 ≤ dayOfEra) (hlast : dayOfEra < 146097) :
    yearOf dayOfEra / 4 ≤ dayOfEra / 1460 ∧ dayOfEra / 1460 ≤ yearOf dayOfEra / 4 + 1 := by
  have hbounds := yearOf_bounds hfirst hlast
  have hcentury := yearOf_div_hundred hfirst hlast
  have hyear : yearOf dayOfEra =
    (dayOfEra - dayOfEra / 1460 + dayOfEra / 36524 - dayOfEra / 146096) / 365 := rfl
  generalize yearOf dayOfEra = year at *
  omega

/-- A year begins on the day it is said to, and has at most 366 days. -/
theorem daysBefore_yearOf (hfirst : 0 ≤ dayOfEra) (hlast : dayOfEra < 146097) :
    daysBefore (yearOf dayOfEra) ≤ dayOfEra ∧ dayOfEra ≤ daysBefore (yearOf dayOfEra) + 365 := by
  have hleap := yearOf_div_four hfirst hlast
  have hcentury := yearOf_div_hundred hfirst hlast
  have hyear : yearOf dayOfEra =
    (dayOfEra - dayOfEra / 1460 + dayOfEra / 36524 - dayOfEra / 146096) / 365 := rfl
  unfold daysBefore
  generalize yearOf dayOfEra = year at *
  omega

/-- The name of a day of a year, both counted from March. -/
def ofYearDay (year dayOfYear : Int) : Date :=
  let shifted := (5 * dayOfYear + 2) / 153
  let month := (shifted + 2) % 12 + 1
  let day := dayOfYear - (153 * shifted + 2) / 5 + 1
  ⟨year + if month ≤ 2 then 1 else 0, month.toNat, day.toNat⟩

theorem ofDays_eq_ofYearDay (days : Int) :
    ofDays days =
      let dayOfEra := (days + 719468) % 146097
      ofYearDay (yearOf dayOfEra + (days + 719468) / 146097 * 400)
        (dayOfEra - daysBefore (yearOf dayOfEra)) :=
  rfl

/-- Year, month and day counted from March are found again from the name of a day. -/
theorem ofYearDay_parts (year : Int) {dayOfYear : Int} (hfirst : 0 ≤ dayOfYear)
    (hlast : dayOfYear ≤ 365) :
    let named := ofYearDay year dayOfYear
    let month := (5 * dayOfYear + 2) / 153
    (if named.month ≤ 2 then named.year - 1 else named.year) = year ∧
      ((named.month : Int) + 9) % 12 = month ∧
      (153 * month + 2) / 5 + named.day - 1 = dayOfYear := by
  refine ⟨?_, ?_, ?_⟩
  · by_cases hturn : ((5 * dayOfYear + 2) / 153 + 2) % 12 + 1 ≤ 2
    · have hnamed : (ofYearDay year dayOfYear).month ≤ 2 := by
        simp only [ofYearDay]
        omega
      rw [if_pos hnamed]
      simp only [ofYearDay, if_pos hturn]
      omega
    · have hnamed : ¬ (ofYearDay year dayOfYear).month ≤ 2 := by
        simp only [ofYearDay]
        omega
      rw [if_neg hnamed]
      simp only [ofYearDay, if_neg hturn]
      omega
  · simp only [ofYearDay]
    omega
  · simp only [ofYearDay]
    omega

theorem toDays_ofYearDay {era year dayOfYear : Int} (hyear : 0 ≤ year ∧ year < 400)
    (hday : 0 ≤ dayOfYear ∧ dayOfYear ≤ 365) :
    (ofYearDay (year + era * 400) dayOfYear).toDays =
      era * 146097 + (daysBefore year + dayOfYear) - 719468 := by
  obtain ⟨hsame, hmonth, hrest⟩ := ofYearDay_parts (year + era * 400) hday.1 hday.2
  simp only [toDays, hsame, hmonth, hrest, daysBefore]
  omega

end Calendar

theorem toDays_ofDays (days : Int) : (ofDays days).toDays = days := by
  have hsplit := Int.emod_add_mul_ediv (days + 719468) 146097
  have hfirst := Int.emod_nonneg (days + 719468) (show (146097 : Int) ≠ 0 by decide)
  have hlast := Int.emod_lt_of_pos (days + 719468) (show (0 : Int) < 146097 by decide)
  have hbegun := daysBefore_yearOf hfirst hlast
  rw [ofDays_eq_ofYearDay, toDays_ofYearDay (yearOf_bounds hfirst hlast) (by omega)]
  omega

end Date

namespace Timestamp

variable {instant : Timestamp} {day : Int}

/-- An instant between the first and the last one that there are. -/
structure Representable (instant : Timestamp) : Prop where
  notBefore : least ≤ instant
  notAfter : instant ≤ greatest

instance : Decidable instant.Representable :=
  decidable_of_iff (least ≤ instant ∧ instant ≤ greatest)
    ⟨fun h => ⟨h.1, h.2⟩, fun h => ⟨h.notBefore, h.notAfter⟩⟩

theorem le_dayNumber_iff : day ≤ instant.dayNumber ↔ day * nanosPerDay ≤ instant.nanos :=
  Int.le_ediv_iff_mul_le (by decide)

theorem dayNumber_lt_iff : instant.dayNumber < day ↔ instant.nanos < day * nanosPerDay :=
  Int.ediv_lt_iff_lt_mul (by decide)

theorem midnight?_eq_some
    (h : least.nanos ≤ day * nanosPerDay ∧ day * nanosPerDay ≤ greatest.nanos) :
    midnight? day = some ⟨day * nanosPerDay⟩ :=
  if_pos h

theorem midnight?_eq_none
    (h : ¬ (least.nanos ≤ day * nanosPerDay ∧ day * nanosPerDay ≤ greatest.nanos)) :
    midnight? day = none :=
  if_neg h

theorem dayNumber_mono {earlier later : Timestamp} (h : earlier ≤ later) :
    earlier.dayNumber ≤ later.dayNumber :=
  Int.ediv_le_ediv (by decide) h

theorem Representable.dayNumber_bounds (h : instant.Representable) :
    least.dayNumber ≤ instant.dayNumber ∧ instant.dayNumber ≤ greatest.dayNumber :=
  ⟨dayNumber_mono h.notBefore, dayNumber_mono h.notAfter⟩

theorem Representable.date_ne_last (h : instant.Representable) : instant.date ≠ Date.last := by
  intro hlast
  have hday : Date.last.toDays = instant.dayNumber := hlast ▸ Date.toDays_ofDays instant.dayNumber
  have hgreatest : greatest.dayNumber < Date.last.toDays := by decide
  have hbounds := h.dayNumber_bounds
  omega

end Timestamp

namespace DateWindow

open Timestamp

variable {instant : Timestamp}

/-- The midnight that starts the day of a representable instant may be before the first one. -/
theorem startOfDay_spec (h : instant.Representable) :
    if instant.dayNumber * nanosPerDay < least.nanos then
      ∃ message, startOfDay instant = .error (.badRequest message)
    else startOfDay instant = .ok ⟨instant.dayNumber * nanosPerDay⟩ := by
  have hbegun : instant.dayNumber * nanosPerDay ≤ instant.nanos :=
    le_dayNumber_iff.mp (Int.le_refl _)
  have hlast : instant.nanos ≤ greatest.nanos := h.notAfter
  unfold startOfDay
  split
  case isTrue hearly =>
    rw [midnight?_eq_none (by omega)]
    exact ⟨_, rfl⟩
  case isFalse hearly =>
    rw [midnight?_eq_some (by omega)]

/-- The midnight that ends the day of a representable instant may be after the last one. -/
theorem endOfDay_spec (h : instant.Representable) :
    if greatest.nanos < (instant.dayNumber + 1) * nanosPerDay then
      ∃ message, endOfDay instant = .error (.badRequest message)
    else endOfDay instant = .ok ⟨(instant.dayNumber + 1) * nanosPerDay⟩ := by
  have hnext : instant.nanos < (instant.dayNumber + 1) * nanosPerDay :=
    dayNumber_lt_iff.mp (Int.lt_succ _)
  have hfirst : least.nanos ≤ instant.nanos := h.notBefore
  simp only [endOfDay, if_neg h.date_ne_last]
  split
  case isTrue hlate =>
    rw [midnight?_eq_none (by omega)]
    exact ⟨_, rfl⟩
  case isFalse hlate =>
    rw [midnight?_eq_some (by omega)]

theorem moveEach_spec {move : Timestamp → Result Timestamp} {bad : Timestamp → Prop}
    [DecidablePred bad] {moved : Timestamp → Timestamp} {given : Option Timestamp}
    (h : ∀ t ∈ given,
      if bad t then ∃ message, move t = .error (.badRequest message) else move t = .ok (moved t)) :
    if ∃ t ∈ given, bad t then ∃ message, moveEach move given = .error (.badRequest message)
    else moveEach move given = .ok (given.map moved) := by
  cases given with
  | none => simp [moveEach]
  | some t =>
    have ht := h t rfl
    by_cases hbad : bad t
    · rw [if_pos hbad] at ht
      obtain ⟨message, ht⟩ := ht
      rw [if_pos ⟨t, rfl, hbad⟩, moveEach, ht]
      exact ⟨message, rfl⟩
    · rw [if_neg hbad] at ht
      rw [if_neg (by simpa using hbad), moveEach, ht]
      rfl

/-- Why there is no window from the day of one instant to the day of another. -/
inductive Unmade (start stop : Option Timestamp) : Prop
  | reversed {first last : Timestamp} (hfirst : first ∈ start) (hlast : last ∈ stop)
      (h : last < first)
  | startsTooEarly {first : Timestamp} (hfirst : first ∈ start)
      (h : first.dayNumber * nanosPerDay < least.nanos)
  | endsTooLate {last : Timestamp} (hlast : last ∈ stop)
      (h : greatest.nanos < (last.dayNumber + 1) * nanosPerDay)

theorem isReversed_iff {start stop : Option Timestamp} :
    isReversed start stop = true ↔ ∃ first ∈ start, ∃ last ∈ stop, last < first := by
  cases start <;> cases stop <;> simp [isReversed]

/-- The window from the midnight that starts the one day to the midnight that ends the other. -/
def ofMidnights (start stop : Option Timestamp) : DateWindow where
  start := start.map fun first => ⟨first.dayNumber * nanosPerDay⟩
  stop := stop.map fun last => ⟨(last.dayNumber + 1) * nanosPerDay⟩

theorem contains_ofMidnights {start stop : Option Timestamp} :
    (ofMidnights start stop).contains instant = true ↔
      (∀ first ∈ start, first.dayNumber ≤ instant.dayNumber) ∧
      ∀ last ∈ stop, instant.dayNumber ≤ last.dayNumber := by
  have hfirst (first : Timestamp) :
      (⟨first.dayNumber * nanosPerDay⟩ : Timestamp) ≤ instant ↔
        first.dayNumber ≤ instant.dayNumber :=
    le_dayNumber_iff.symm
  have hlast (last : Timestamp) :
      instant < (⟨(last.dayNumber + 1) * nanosPerDay⟩ : Timestamp) ↔
        instant.dayNumber ≤ last.dayNumber :=
    dayNumber_lt_iff.symm.trans Int.lt_add_one_iff
  simp [contains, ofMidnights, Option.all_eq_true, hfirst, hlast]

theorem make_spec {start stop : Option Timestamp} (hstart : ∀ first ∈ start, first.Representable)
    (hstop : ∀ last ∈ stop, last.Representable) :
    (Unmade start stop ∧ ∃ message, make start stop = .error (.badRequest message)) ∨
    (¬ Unmade start stop ∧ make start stop = .ok (ofMidnights start stop)) := by
  have hfirst := moveEach_spec fun first hmem => startOfDay_spec (hstart first hmem)
  have hlast := moveEach_spec fun last hmem => endOfDay_spec (hstop last hmem)
  unfold make
  split
  case isTrue hreversed =>
    obtain ⟨first, hmem, last, hmem', h⟩ := isReversed_iff.mp hreversed
    exact .inl ⟨.reversed hmem hmem' h, _, rfl⟩
  case isFalse hreversed =>
    split at hfirst
    case isTrue hearly =>
      obtain ⟨first, hmem, h⟩ := hearly
      obtain ⟨message, hfirst⟩ := hfirst
      rw [hfirst]
      exact .inl ⟨.startsTooEarly hmem h, message, rfl⟩
    case isFalse hearly =>
      split at hlast
      case isTrue hlate =>
        obtain ⟨last, hmem, h⟩ := hlate
        obtain ⟨message, hlast⟩ := hlast
        rw [hfirst, hlast]
        exact .inl ⟨.endsTooLate hmem h, message, rfl⟩
      case isFalse hlate =>
        rw [hfirst, hlast]
        refine .inr ⟨?_, rfl⟩
        rintro (⟨hmem, hmem', h⟩ | ⟨hmem, h⟩ | ⟨hmem, h⟩)
        · exact hreversed (isReversed_iff.mpr ⟨_, hmem, _, hmem', h⟩)
        · exact hearly ⟨_, hmem, h⟩
        · exact hlate ⟨_, hmem, h⟩

/-- Two instants give no window if they are the wrong way round, or if one of the midnights that
start the day of the first and end the day of the second is outside the range of instants.
Otherwise there is one, and it holds what is on these days and the days between them. -/
theorem window_of_days {start stop : Option Timestamp}
    (hstart : ∀ first ∈ start, first.Representable) (hstop : ∀ last ∈ stop, last.Representable) :
    (Unmade start stop → ∃ message, make start stop = .error (.badRequest message)) ∧
    (¬ Unmade start stop → ∃ window, make start stop = .ok window ∧
      ∀ instant,
        (window.contains instant = true ↔
          (∀ first ∈ start, first.dayNumber ≤ instant.dayNumber) ∧
          ∀ last ∈ stop, instant.dayNumber ≤ last.dayNumber) ∧
        ((∀ first ∈ start, first ≤ instant) → (∀ last ∈ stop, instant ≤ last) →
          window.contains instant = true)) := by
  rcases make_spec hstart hstop with ⟨hunmade, herror⟩ | ⟨hmade, hok⟩
  · exact ⟨fun _ => herror, fun hmade => absurd hunmade hmade⟩
  · refine ⟨fun hunmade => absurd hunmade hmade, fun _ => ⟨_, hok, fun instant => ?_⟩⟩
    refine ⟨contains_ofMidnights, fun hafter hbefore => contains_ofMidnights.mpr ⟨?_, ?_⟩⟩
    · exact fun first hmem => dayNumber_mono (hafter first hmem)
    · exact fun last hmem => dayNumber_mono (hbefore last hmem)

/-! The last instant of 1969 and the first one of 1970 give the window of their two days.  Of the
first day of the range and of the last one a midnight is missing. -/

theorem window_of_days_aroundEpoch :
    (∃ window, make (some ⟨-1⟩) (some ⟨0⟩) = .ok window ∧
      window.contains ⟨-nanosPerDay⟩ = true ∧ ¬ window.contains ⟨-nanosPerDay - 1⟩ = true ∧
      window.contains ⟨nanosPerDay - 1⟩ = true ∧ ¬ window.contains ⟨nanosPerDay⟩ = true) ∧
    (∃ message, make (some least) none = .error (.badRequest message)) ∧
    ∃ message, make none (some greatest) = .error (.badRequest message) := by
  have hmade : ¬ Unmade (some ⟨-1⟩) (some ⟨0⟩) := by
    rintro (⟨⟨⟩, ⟨⟩, h⟩ | ⟨⟨⟩, h⟩ | ⟨⟨⟩, h⟩)
    all_goals exact absurd h (by decide)
  refine ⟨?_, ?_, ?_⟩
  · obtain ⟨window, hwindow, hcontains⟩ := (window_of_days (by decide) (by decide)).2 hmade
    refine ⟨window, hwindow, ?_, ?_, ?_, ?_⟩
    all_goals
      rw [(hcontains _).1]
      decide
  · exact (window_of_days (by decide) (by decide)).1 (.startsTooEarly rfl (by decide))
  · exact (window_of_days (by decide) (by decide)).1 (.endsTooLate rfl (by decide))

end DateWindow

end Registrar
