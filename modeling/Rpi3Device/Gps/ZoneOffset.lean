import Rpi3Device.Calendar
import Rpi3Device.Gps.NmeaReader

/-!
# The zone offset of the reader

The reader counts the seconds of the local and of the universal date as if every
year had 365 days, and takes the difference. The count overflows 32 bits, which
cancels. A leap day does not: when the two dates are in different years and the
earlier one is a leap year, the offset is off by a day.
-/

namespace Rpi3Device.Gps
open Calendar

structure Tm.Shows (tm : Tm) (c : Civil) : Prop where
  year : tm.year.toInt + 1900 = c.year
  yday : tm.yday.toInt = c.yday
  hour : tm.hour.toInt = c.hour
  min : tm.min.toInt = c.min
  sec : tm.sec.toInt = c.sec

/-- What a correct conversion makes of the instant `t`. -/
def Tm.IsTimeOf (tm : Tm) (t : ℤ) : Prop := ∃ c : Civil, c.instant = t ∧ tm.Shows c

namespace NmeaReader

/-- The seconds of the date, in years of 365 days since 1900. -/
def plainSeconds (c : Civil) : ℤ :=
  c.sec + 60 * (c.min + 60 * (c.hour + 24 * (c.yday + 365 * (c.year - 1900))))

theorem secondsOf_eq {tm : Tm} {c : Civil} (h : tm.Shows c) :
    secondsOf tm = Int32.ofInt (plainSeconds c) := by
  have hyear : c.year - 1900 = tm.year.toInt := by
    rw [← h.year]
    ring
  rw [plainSeconds, hyear, ← h.yday, ← h.hour, ← h.min, ← h.sec]
  simp only [Int32.ofInt_add, Int32.ofInt_mul, Int32.ofInt_toInt]
  rfl

theorem plainSeconds_eq (c : Civil) : plainSeconds c =
    c.instant + 86400 * (365 * 70 - (leapDaysBefore c.year - leapDaysBefore 1970)) := by
  unfold plainSeconds Civil.instant Civil.secondOfDay daysBefore
  ring

theorem leapDays_eq (y y' : ℤ) (hy : y ≤ y' + 1) (hy' : y' ≤ y + 1) :
    |leapDaysBefore y' - leapDaysBefore y| ≤ 1 ∧
      (leapDaysBefore y' - leapDaysBefore y = 0 ↔ y = y' ∨ ¬ IsLeap (min y y')) := by
  have hsucc (z : ℤ) : leapDaysBefore (z + 1) - leapDaysBefore z = leapDay z := by
    rw [leapDaysBefore_succ]
    ring
  have hbound (z : ℤ) : |leapDay z| ≤ 1 :=
    abs_le.mpr ⟨by linarith [leapDay_nonneg z], leapDay_le_one z⟩
  rcases lt_trichotomy y y' with hlt | rfl | hgt
  · obtain rfl : y' = y + 1 := by omega
    rw [hsucc, leapDay_eq_zero_iff, min_eq_left hlt.le]
    exact ⟨hbound y, (or_iff_right hlt.ne).symm⟩
  · simp
  · obtain rfl : y = y' + 1 := by omega
    have hneg : leapDaysBefore y' - leapDaysBefore (y' + 1) = -leapDay y' := by
      rw [← hsucc]
      ring
    rw [hneg, abs_neg, neg_eq_zero, leapDay_eq_zero_iff, min_eq_right hgt.le]
    exact ⟨hbound y', (or_iff_right hgt.ne').symm⟩

section Offset
variable {now d : ℤ} {tmUtc tmLocal : Tm}

theorem utcDiff_toInt {utc loc : Civil} (hutc : tmUtc.Shows utc) (hloc : tmLocal.Shows loc)
    (hd : |loc.instant - utc.instant| ≤ 14 * 3600)
    (hleap : |leapDaysBefore loc.year - leapDaysBefore utc.year| ≤ 1) (r : NmeaReader) :
    (updateUtcDiff tmUtc tmLocal r).utcDiff.toInt =
      -(loc.instant - utc.instant) +
        86400 * (leapDaysBefore loc.year - leapDaysBefore utc.year) := by
  have hdiff : plainSeconds utc - plainSeconds loc = -(loc.instant - utc.instant) +
      86400 * (leapDaysBefore loc.year - leapDaysBefore utc.year) := by
    rw [plainSeconds_eq, plainSeconds_eq]
    ring
  have hword : (updateUtcDiff tmUtc tmLocal r).utcDiff =
      Int32.ofInt (plainSeconds utc - plainSeconds loc) := by
    rw [Int32.ofInt_sub, ← secondsOf_eq hutc, ← secondsOf_eq hloc]
    rfl
  rw [abs_le] at hd hleap
  rw [hword, Int32.toInt_ofInt_of_le (by omega) (by omega), hdiff]

theorem utcDiff_eq_iff (hutc : tmUtc.IsTimeOf now) (hlocal : tmLocal.IsTimeOf (now + d))
    (hd : |d| ≤ 14 * 3600) (r : NmeaReader) :
    (updateUtcDiff tmUtc tmLocal r).utcDiff.toInt = -d ↔
      tmUtc.year = tmLocal.year ∨
        ¬ IsLeap (min tmUtc.year.toInt tmLocal.year.toInt + 1900) := by
  obtain ⟨utc, rfl, hutc⟩ := hutc
  obtain ⟨loc, hinstant, hlocal⟩ := hlocal
  have hoffset : loc.instant - utc.instant = d := by omega
  have hrange := abs_le.mp hd
  obtain ⟨hone, hzero⟩ := leapDays_eq utc.year loc.year
    (Civil.year_le_succ (by omega)) (Civil.year_le_succ (by omega))
  have hyears : utc.year = loc.year ↔ tmUtc.year = tmLocal.year := by
    rw [← hutc.year, ← hlocal.year, add_left_inj, Int32.toInt_inj]
  have hmin : min utc.year loc.year = min tmUtc.year.toInt tmLocal.year.toInt + 1900 := by
    rw [← hutc.year, ← hlocal.year, min_add_add_right]
  rw [← hyears, ← hmin, ← hzero, utcDiff_toInt hutc hlocal (hoffset ▸ hd) hone, hoffset]
  omega

end Offset

def eveUtc : Tm :=
  { sec := 0, min := 30, hour := 23, mday := 31, mon := 11, year := 116, yday := 365 }

def eveLocal : Tm := { sec := 0, min := 30, hour := 0, mday := 1, mon := 0, year := 117 }

theorem eveUtc_isTimeOf : eveUtc.IsTimeOf 1483227000 := by
  let c : Civil :=
    { year := 2016, yday := 365, hour := 23, min := 30, sec := 0, yday_range := by decide,
      hour_range := by decide, min_range := by decide, sec_range := by decide }
  exact ⟨c, by decide, by decide, by decide, by decide, by decide, by decide⟩

theorem eveLocal_isTimeOf : eveLocal.IsTimeOf (1483227000 + 3600) := by
  let c : Civil :=
    { year := 2017, yday := 0, hour := 0, min := 30, sec := 0, yday_range := by decide,
      hour_range := by decide, min_range := by decide, sec_range := by decide }
  exact ⟨c, by decide, by decide, by decide, by decide, by decide, by decide⟩

theorem utcDiff_eq_iff_eve :
    (updateUtcDiff eveUtc eveLocal (init eveUtc eveUtc)).utcDiff.toInt = -3600 ↔
      eveUtc.year = eveLocal.year ∨
        ¬ IsLeap (min eveUtc.year.toInt eveLocal.year.toInt + 1900) :=
  utcDiff_eq_iff eveUtc_isTimeOf eveLocal_isTimeOf (by decide) _

theorem utcDiff_fails : ¬ ∀ (now d : ℤ) (tmUtc tmLocal : Tm) (r : NmeaReader),
    tmUtc.IsTimeOf now → tmLocal.IsTimeOf (now + d) → |d| ≤ 14 * 3600 →
      (updateUtcDiff tmUtc tmLocal r).utcDiff.toInt = -d := by
  intro h
  have heve := h 1483227000 3600 eveUtc eveLocal (init eveUtc eveUtc) eveUtc_isTimeOf
    eveLocal_isTimeOf (by decide)
  exact absurd heve (by decide)

end NmeaReader
end Rpi3Device.Gps
