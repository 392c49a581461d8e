import Mathlib.Tactic

/-!
# Civil dates of the Gregorian calendar

Instants are counted in seconds from the beginning of 1970, without leap seconds.
A civil date gives the year, the day of the year and the time of day, and carries
the ranges of its fields. The years of two instants less than 365 days apart
differ by at most one.
-/

namespace Rpi3Device.Calendar

def IsLeap (y : ℤ) : Prop := y % 4 = 0 ∧ (y % 100 ≠ 0 ∨ y % 400 = 0)

instance (y : ℤ) : Decidable (IsLeap y) := inferInstanceAs (Decidable (_ ∧ (_ ∨ _)))

def leapDay (y : ℤ) : ℤ := if IsLeap y then 1 else 0

def daysIn (y : ℤ) : ℤ := 365 + leapDay y

def leapDaysBefore (y : ℤ) : ℤ := (y - 1) / 4 - (y - 1) / 100 + (y - 1) / 400

/-- The days from the beginning of 1970 to the beginning of `y`. -/
def daysBefore (y : ℤ) : ℤ := 365 * (y - 1970) + (leapDaysBefore y - leapDaysBefore 1970)

theorem leapDay_nonneg (y : ℤ) : 0 ≤ leapDay y := by
  unfold leapDay
  split <;> norm_num

theorem leapDay_le_one (y : ℤ) : leapDay y ≤ 1 := by
  unfold leapDay
  split <;> norm_num

theorem leapDay_eq_zero_iff (y : ℤ) : leapDay y = 0 ↔ ¬ IsLeap y := by
  by_cases hleap : IsLeap y
  · simp [leapDay, hleap]
  · simp [leapDay, hleap]

theorem daysIn_ge (y : ℤ) : 365 ≤ daysIn y := by
  unfold daysIn
  linarith [leapDay_nonneg y]

theorem leapDaysBefore_succ (y : ℤ) : leapDaysBefore (y + 1) = leapDaysBefore y + leapDay y := by
  unfold leapDaysBefore leapDay
  by_cases hleap : IsLeap y
  · rw [if_pos hleap]
    unfold IsLeap at hleap
    omega
  · rw [if_neg hleap]
    unfold IsLeap at hleap
    omega

theorem daysBefore_succ (y : ℤ) : daysBefore (y + 1) = daysBefore y + daysIn y := by
  unfold daysBefore daysIn
  rw [leapDaysBefore_succ]
  ring

theorem daysBefore_lt_succ (y : ℤ) : daysBefore y + 365 ≤ daysBefore (y + 1) := by
  rw [daysBefore_succ]
  linarith [daysIn_ge y]

theorem daysBefore_strictMono : StrictMono daysBefore := by
  apply strictMono_int_of_lt_succ
  intro y
  linarith [daysBefore_lt_succ y]

structure Civil where
  year : ℤ
  yday : ℤ
  hour : ℤ
  min : ℤ
  sec : ℤ
  yday_range : 0 ≤ yday ∧ yday < daysIn year
  hour_range : 0 ≤ hour ∧ hour < 24
  min_range : 0 ≤ min ∧ min < 60
  sec_range : 0 ≤ sec ∧ sec < 60

namespace Civil

def secondOfDay (c : Civil) : ℤ := c.sec + 60 * (c.min + 60 * c.hour)

def instant (c : Civil) : ℤ := c.secondOfDay + 86400 * (c.yday + daysBefore c.year)

theorem secondOfDay_range (c : Civil) : 0 ≤ c.secondOfDay ∧ c.secondOfDay < 86400 := by
  have hhour := c.hour_range
  have hmin := c.min_range
  have hsec := c.sec_range
  unfold secondOfDay
  omega

theorem instant_range (c : Civil) :
    86400 * daysBefore c.year ≤ c.instant ∧ c.instant < 86400 * daysBefore (c.year + 1) := by
  have hday := c.yday_range
  have hsecond := c.secondOfDay_range
  rw [daysBefore_succ]
  unfold instant
  constructor <;> linarith

theorem year_le_succ {c c' : Civil} (h : c'.instant < c.instant + 86400 * 365) :
    c'.year ≤ c.year + 1 := by
  by_contra hyear
  have hyears : c.year + 1 + 1 ≤ c'.year := by omega
  have hdays := daysBefore_strictMono.monotone hyears
  have hgap := daysBefore_lt_succ (c.year + 1)
  have hc := c.instant_range.2
  have hc' := c'.instant_range.1
  linarith

end Civil

end Rpi3Device.Calendar
