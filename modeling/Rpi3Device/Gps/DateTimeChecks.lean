import Rpi3Device.Gps.SentenceFields

/-!
# Which dates and times the reader accepts

`str2int` signals a text that is not a number by -1. Of the date, day and month
are tested for that; the year is tested after 2000 was added, so that a bad year
is taken for 1999. Of the time, only the length is tested, and the date is stored
before that test.
-/

namespace Rpi3Device.Gps

def AllDigits (text : List UInt8) : Prop := ∀ b ∈ text, 48 ≤ b ∧ b < 58

instance (text : List UInt8) : Decidable (AllDigits text) :=
  List.decidableBAll (fun b => 48 ≤ b ∧ b < 58) text

theorem allDigits_append {as bs : List UInt8} :
    AllDigits (as ++ bs) ↔ AllDigits as ∧ AllDigits bs :=
  List.forall_mem_append

def digitsFrom (n : ℕ) (text : List UInt8) : ℕ :=
  text.foldl (fun n b => n * 10 + (b.toNat - 48)) n

def digitsValue (text : List UInt8) : ℕ := digitsFrom 0 text

theorem digit_toInt32 {b : UInt8} (hb : 48 ≤ b ∧ b < 58) :
    (b - 48).toInt8.toInt32 = Int32.ofNat (b.toNat - 48) := by
  have hlow : 48 ≤ b.toNat := UInt8.le_iff_toNat_le.mp hb.1
  have hhigh : b.toNat < 58 := UInt8.lt_iff_toNat_lt.mp hb.2
  have hb' : b = UInt8.ofNat b.toNat := (UInt8.ofNat_toNat).symm
  rw [hb']
  interval_cases b.toNat <;> rfl

theorem str2intFrom_digits {text : List UInt8} (h : AllDigits text) (n : ℕ) :
    str2intFrom (Int32.ofNat n) text = Int32.ofNat (digitsFrom n text) := by
  induction text generalizing n with
  | nil => rfl
  | cons b text ih =>
    obtain ⟨hb, htext⟩ := List.forall_mem_cons.mp h
    have hnext : Int32.ofNat n * 10 + (b - 48).toInt8.toInt32 =
        Int32.ofNat (n * 10 + (b.toNat - 48)) := by
      rw [digit_toInt32 hb, Int32.ofNat_add, Int32.ofNat_mul]
      rfl
    rw [str2intFrom, if_pos hb, hnext]
    exact ih htext (n * 10 + (b.toNat - 48))

theorem str2intFrom_fails {text : List UInt8} (h : ¬ AllDigits text) (result : Int32) :
    str2intFrom result text = -1 := by
  induction text generalizing result with
  | nil => exact absurd (List.forall_mem_nil _) h
  | cons b text ih =>
    rw [str2intFrom]
    split
    · rename_i hb
      apply ih
      intro htext
      exact h (List.forall_mem_cons.mpr ⟨hb, htext⟩)
    · rfl

theorem str2int_digits {text : List UInt8} (h : AllDigits text) :
    str2int text = Int32.ofNat (digitsValue text) := str2intFrom_digits h 0

theorem str2int_fails {text : List UInt8} (h : ¬ AllDigits text) : str2int text = -1 :=
  str2intFrom_fails h 0

theorem digitsFrom_lt {text : List UInt8} (h : AllDigits text) {n k : ℕ} (hn : n < 10 ^ k) :
    digitsFrom n text < 10 ^ (k + text.length) := by
  induction text generalizing n k with
  | nil => exact hn
  | cons b text ih =>
    obtain ⟨hb, htext⟩ := List.forall_mem_cons.mp h
    have hdigit : b.toNat < 58 := UInt8.lt_iff_toNat_lt.mp hb.2
    have hnext : n * 10 + (b.toNat - 48) < 10 ^ (k + 1) := by
      rw [pow_succ]
      omega
    have hrest := ih htext hnext
    rwa [Nat.add_assoc, Nat.add_comm 1] at hrest

theorem digitsValue_lt {text : List UInt8} (h : AllDigits text) (hlen : text.length ≤ 2) :
    digitsValue text < 100 := by
  have hpow : digitsValue text < 10 ^ (0 + text.length) := digitsFrom_lt h (by norm_num)
  rw [Nat.zero_add] at hpow
  exact hpow.trans_le (Nat.pow_le_pow_right (by norm_num) hlen)

theorem ofNat_nonneg {n : ℕ} (hn : n < 2 ^ 31) : ¬ Int32.ofNat n < 0 := by
  rw [Int32.lt_iff_toInt_lt, Int32.toInt_ofNat_of_lt hn]
  exact not_lt.mpr (Int.natCast_nonneg n)

theorem str2int_neg_iff {text : List UInt8} (hlen : text.length ≤ 2) :
    str2int text < 0 ↔ ¬ AllDigits text := by
  by_cases h : AllDigits text
  · have hvalue := digitsValue_lt h hlen
    rw [str2int_digits h]
    exact iff_of_false (ofNat_nonneg (by omega)) (not_not.mpr h)
  · rw [str2int_fails h]
    exact iff_of_true (by decide) h

theorem or_neg_iff (a b : Int32) : a ||| b < 0 ↔ a < 0 ∨ b < 0 := by
  have hmsb (x : Int32) : x < 0 ↔ x.toBitVec.msb = true := by
    rw [← BitVec.slt_zero_eq_msb]
    exact Iff.rfl
  rw [hmsb, hmsb, hmsb, Int32.toBitVec_or, BitVec.msb_or, Bool.or_eq_true]

namespace Token
variable (tok : Token)

theorem slice_length (i j : ℕ) : (tok.slice i j).length ≤ j - i := by
  simp [slice]

theorem slice_append {i j k : ℕ} (hij : i ≤ j) (hjk : j ≤ k) :
    tok.slice i k = tok.slice i j ++ tok.slice j k := by
  have hcut := between_append tok.buf (Nat.add_le_add_left hij tok.p)
    (Nat.add_le_add_left hjk tok.p)
  simpa only [slice, between, Nat.add_sub_add_left] using hcut

def IsDate : Prop := tok.length = 6 ∧ AllDigits (tok.slice 0 6)

/-- Four decimal digits and at least two further characters. -/
def IsTime : Prop := 6 ≤ tok.length ∧ AllDigits (tok.slice 0 4)

def year : Int32 :=
  if AllDigits (tok.slice 4 6) then Int32.ofNat (digitsValue (tok.slice 4 6) + 2000) else 1999

theorem year_eq : str2int (tok.slice 4 6) + 2000 = tok.year := by
  unfold year
  split
  · rename_i hyear
    rw [str2int_digits hyear, Int32.ofNat_add]
    rfl
  · rename_i hyear
    rw [str2int_fails hyear]
    rfl

theorem year_nonneg : ¬ tok.year < 0 := by
  unfold year
  split
  · rename_i hyear
    have hvalue := digitsValue_lt hyear (tok.slice_length 4 6)
    exact ofNat_nonneg (by omega)
  · decide

end Token

structure SameClock (r r' : NmeaReader) : Prop where
  year : r'.utcYear = r.utcYear
  mon : r'.utcMon = r.utcMon
  day : r'.utcDay = r.utcDay
  timestamp : r'.fix.timestamp = r.fix.timestamp

/-- Zero is returned for good tokens only, and otherwise -1 with nothing changed. -/
structure Checks (good : Prop) (r : NmeaReader) (res : Int32 × NmeaReader) : Prop where
  accepted : res.1 = 0 → good
  rejected : res.1 ≠ 0 → res.1 = -1 ∧ SameClock r res.2

theorem checks_rejected (good : Prop) {r r' : NmeaReader} :
    Checks good r (-1, r') ↔ SameClock r r' := by
  constructor
  · intro h
    exact (h.rejected (by simp)).2
  · intro h
    exact ⟨fun hzero => absurd hzero (by simp), fun _ => ⟨rfl, h⟩⟩

theorem checks_accepted (good : Prop) {r r' : NmeaReader} : Checks good r (0, r') ↔ good := by
  constructor
  · intro h
    exact h.accepted rfl
  · intro h
    exact ⟨fun _ => h, fun hne => absurd rfl hne⟩

structure NmeaReader.HasDate (r : NmeaReader) (date : Token) : Prop where
  day : r.utcDay = Int32.ofNat (digitsValue (date.slice 0 2))
  mon : r.utcMon = Int32.ofNat (digitsValue (date.slice 2 4))
  year : r.utcYear = date.year

/-- A time that is long enough begins with four digits. -/
def TimeChecked (time : Token) : Prop := 6 ≤ time.length → AllDigits (time.slice 0 4)

/-- A date of six characters whose day and month are digits is a date and comes
with a time, or is the date the reader has and comes with a short time. -/
def DateChecked (date time : Token) (r : NmeaReader) : Prop :=
  date.length = 6 → AllDigits (date.slice 0 4) →
    if time.length < 6 then r.HasDate date
    else AllDigits (date.slice 4 6) ∧ AllDigits (time.slice 0 4)

namespace NmeaReader
variable (libc : Libc) (now : Tm) (date time : Token) (r : NmeaReader)

theorem updateTime_short (h : time.length < 6) : r.updateTime libc now time = (-1, r) := by
  have hend : time.end_ < time.p + 6 := by
    unfold Token.length at h
    omega
  rw [updateTime, if_pos hend]

theorem updateTime_long (h : ¬ time.length < 6) :
    ∃ r', r.updateTime libc now time = (0, r') := by
  have hend : ¬ time.end_ < time.p + 6 := by
    unfold Token.length at h
    omega
  rw [updateTime, if_neg hend]
  exact ⟨_, rfl⟩

theorem updateTime_checks_iff :
    Checks time.IsTime r (r.updateTime libc now time) ↔ TimeChecked time := by
  by_cases hlen : time.length < 6
  · rw [updateTime_short libc now time r hlen, checks_rejected]
    exact iff_of_true ⟨rfl, rfl, rfl, rfl⟩ fun h => absurd h (not_le.mpr hlen)
  · obtain ⟨r', hr'⟩ := updateTime_long libc now time r hlen
    rw [hr', checks_accepted]
    constructor
    · intro h _
      exact h.2
    · intro h
      exact ⟨not_lt.mp hlen, h (not_lt.mp hlen)⟩

theorem dayAndMonth_iff : AllDigits (date.slice 0 4) ↔
    AllDigits (date.slice 0 2) ∧ AllDigits (date.slice 2 4) := by
  rw [date.slice_append (i := 0) (j := 2) (by omega) (by omega), allDigits_append]

theorem isDate_iff : date.IsDate ↔
    date.length = 6 ∧ AllDigits (date.slice 0 4) ∧ AllDigits (date.slice 4 6) := by
  rw [Token.IsDate, date.slice_append (i := 0) (j := 4) (by omega) (by omega), allDigits_append]

theorem length_eq_iff : date.length = 6 ↔ date.p + 6 = date.end_ := by
  unfold Token.length
  omega

theorem fields_neg_iff :
    (str2int (date.slice 0 2) ||| str2int (date.slice 2 4) |||
        (str2int (date.slice 4 6) + 2000)) < 0 ↔ ¬ AllDigits (date.slice 0 4) := by
  rw [or_neg_iff, or_neg_iff, str2int_neg_iff (date.slice_length 0 2),
    str2int_neg_iff (date.slice_length 2 4), date.year_eq, or_iff_left date.year_nonneg,
    dayAndMonth_iff, not_and_or]

theorem updateDate_malformed (h : date.length ≠ 6 ∨ ¬ AllDigits (date.slice 0 4)) :
    r.updateDate libc now date time = (-1, r) := by
  by_cases hlen : date.length = 6
  · have hneg := (fields_neg_iff date).mpr (h.resolve_left (not_not.mpr hlen))
    rw [updateDate, if_neg (not_not.mpr ((length_eq_iff date).mp hlen))]
    exact if_pos hneg
  · rw [updateDate, if_pos fun heq => hlen ((length_eq_iff date).mpr heq)]

def setDate : NmeaReader :=
  { r with
    utcYear := date.year
    utcMon := Int32.ofNat (digitsValue (date.slice 2 4))
    utcDay := Int32.ofNat (digitsValue (date.slice 0 2)) }

theorem updateDate_stored (hlen : date.length = 6) (hdigits : AllDigits (date.slice 0 4)) :
    r.updateDate libc now date time = (r.setDate date).updateTime libc now time := by
  have hneg : ¬ _ := (fields_neg_iff date).not.mpr (not_not.mpr hdigits)
  obtain ⟨hday, hmon⟩ := (dayAndMonth_iff date).mp hdigits
  rw [updateDate, if_neg (not_not.mpr ((length_eq_iff date).mp hlen))]
  refine (if_neg hneg).trans ?_
  rw [str2int_digits hday, str2int_digits hmon, date.year_eq]
  rfl

theorem sameClock_setDate_iff : SameClock r (r.setDate date) ↔ r.HasDate date := by
  constructor
  · intro h
    exact ⟨h.day.symm, h.mon.symm, h.year.symm⟩
  · intro h
    exact ⟨h.year.symm, h.mon.symm, h.day.symm, rfl⟩

theorem updateDate_checks_iff :
    Checks (date.IsDate ∧ time.IsTime) r (r.updateDate libc now date time) ↔
      DateChecked date time r := by
  by_cases hform : date.length = 6 ∧ AllDigits (date.slice 0 4)
  · obtain ⟨hlen, hdigits⟩ := hform
    have hchecked : DateChecked date time r ↔ if time.length < 6 then r.HasDate date
        else AllDigits (date.slice 4 6) ∧ AllDigits (time.slice 0 4) := by
      constructor
      · intro h
        exact h hlen hdigits
      · intro h _ _
        exact h
    rw [hchecked, updateDate_stored libc now date time r hlen hdigits]
    by_cases hshort : time.length < 6
    · rw [if_pos hshort, updateTime_short libc now time _ hshort, checks_rejected]
      exact sameClock_setDate_iff date r
    · obtain ⟨r', hr'⟩ := updateTime_long libc now time (r.setDate date) hshort
      rw [if_neg hshort, hr', checks_accepted, isDate_iff, Token.IsTime]
      simp only [hlen, hdigits, not_lt.mp hshort, true_and]
  · have hbad : date.length ≠ 6 ∨ ¬ AllDigits (date.slice 0 4) := not_and_or.mp hform
    rw [updateDate_malformed libc now date time r hbad, checks_rejected]
    exact iff_of_true ⟨rfl, rfl, rfl, rfl⟩ fun hlen hdigits => absurd ⟨hlen, hdigits⟩ hform

theorem update_checks_iff :
    Checks (date.IsDate ∧ time.IsTime) r (r.updateDate libc now date time) ∧
        Checks time.IsTime r (r.updateTime libc now time) ↔
      DateChecked date time r ∧ TimeChecked time :=
  and_congr (updateDate_checks_iff libc now date time r) (updateTime_checks_iff libc now time r)

/-- The date `0101xx` is accepted with the time `120000`. -/
theorem update_checks_fails :
    ¬ ∀ (libc : Libc) (now : Tm) (date time : Token) (r : NmeaReader),
      Checks (date.IsDate ∧ time.IsTime) r (r.updateDate libc now date time) ∧
        Checks time.IsTime r (r.updateTime libc now time) := by
  intro h
  let now : Tm := { sec := 0, min := 0, hour := 0, mday := 1, mon := 0, year := 117 }
  let date : Token := ⟨[48, 49, 48, 49, 120, 120], 0, 6⟩
  let time : Token := ⟨[49, 50, 48, 48, 48, 48], 0, 6⟩
  have hdate := (h ⟨fun _ => 0, fun _ => 0⟩ now date time (init now now)).1
  have hstored := updateDate_stored ⟨fun _ => 0, fun _ => 0⟩ now date time (init now now)
    (by decide) (by decide)
  obtain ⟨r', hr'⟩ := updateTime_long ⟨fun _ => 0, fun _ => 0⟩ now time
    ((init now now).setDate date) (by decide)
  rw [hstored, hr', checks_accepted] at hdate
  exact absurd hdate.1.2 (by decide)

end NmeaReader
end Rpi3Device.Gps
