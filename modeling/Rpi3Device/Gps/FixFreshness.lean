import Rpi3Device.TransitionSystem
import Rpi3Device.Gps.NmeaReader

/-!
# Which sentence a reported position comes from

The reader keeps its fix between sentences. Only a GGA and an RMC with status
`A` clear its flags before they write to it, and every identified sentence sets
the accuracy flag before the flags are tested. A sentence of another kind thus
reports the fix it found. The position part of the fix decides what its callback
says: each update leaves it alone, except that of latitude and longitude.
-/

namespace Rpi3Device.Gps
open TransitionSystem

def GpsLocation.position (fix : GpsLocation) : Option (Float × Float) :=
  if fix.flags &&& hasLatLong = 0 then none else some (fix.latitude, fix.longitude)

theorem or_and_distrib_right (f g h : UInt16) : (f ||| g) &&& h = (f &&& h) ||| (g &&& h) := by
  simp [← UInt16.toBitVec_inj, BitVec.and_or_distrib_right]

structure SameReading (r r' : NmeaReader) : Prop where
  overflow : r'.overflow = r.overflow
  callback : r'.callback = r.callback

theorem SameReading.trans {r s t : NmeaReader} (h : SameReading r s) (h' : SameReading s t) :
    SameReading r t :=
  ⟨h'.overflow.trans h.overflow, h'.callback.trans h.callback⟩

structure KeepsPosition (r r' : NmeaReader) : Prop where
  reading : SameReading r r'
  position : r'.fix.position = r.fix.position

theorem KeepsPosition.refl (r : NmeaReader) : KeepsPosition r r := ⟨⟨rfl, rfl⟩, rfl⟩

theorem KeepsPosition.trans {r s t : NmeaReader} (h : KeepsPosition r s)
    (h' : KeepsPosition s t) : KeepsPosition r t :=
  ⟨h.reading.trans h'.reading, h'.position.trans h.position⟩

theorem KeepsPosition.of_flag (flag : UInt16) (hflag : flag &&& hasLatLong = 0)
    {r r' : NmeaReader} (hflags : r'.fix.flags = r.fix.flags ||| flag)
    (hlat : r'.fix.latitude = r.fix.latitude) (hlon : r'.fix.longitude = r.fix.longitude)
    (hreading : SameReading r r') : KeepsPosition r r' := by
  have hbits : (r.fix.flags ||| flag) &&& hasLatLong = r.fix.flags &&& hasLatLong := by
    rw [or_and_distrib_right, hflag, UInt16.or_zero]
  exact ⟨hreading, by simp only [GpsLocation.position, hflags, hbits, hlat, hlon]⟩

namespace NmeaReader

theorem withDate_keeps (now : Tm) (r : NmeaReader) : KeepsPosition r (r.withDate now) := by
  unfold withDate
  split
  · exact ⟨⟨rfl, rfl⟩, rfl⟩
  · exact .refl r

theorem updateTime_keeps (libc : Libc) (now : Tm) (tok : Token) (r : NmeaReader) :
    KeepsPosition r (r.updateTime libc now tok).2 := by
  unfold updateTime
  split
  · exact .refl r
  · exact (withDate_keeps now r).trans ⟨⟨rfl, rfl⟩, rfl⟩

theorem updateDate_keeps (libc : Libc) (now : Tm) (date time : Token) (r : NmeaReader) :
    KeepsPosition r (r.updateDate libc now date time).2 := by
  unfold updateDate
  split
  · exact .refl r
  · simp only
    split
    · exact .refl r
    · refine .trans ?_ (updateTime_keeps libc now time _)
      exact ⟨⟨rfl, rfl⟩, rfl⟩

theorem updateAltitude_keeps (libc : Libc) (altitude : Token) (r : NmeaReader) :
    KeepsPosition r (r.updateAltitude libc altitude).2 := by
  unfold updateAltitude
  split
  · exact .refl r
  · exact .of_flag hasAltitude (by decide) rfl rfl rfl ⟨rfl, rfl⟩

theorem updateBearing_keeps (libc : Libc) (bearing : Token) (r : NmeaReader) :
    KeepsPosition r (r.updateBearing libc bearing).2 := by
  unfold updateBearing
  split
  · exact .refl r
  · exact .of_flag hasBearing (by decide) rfl rfl rfl ⟨rfl, rfl⟩

theorem updateSpeed_keeps (libc : Libc) (speed : Token) (r : NmeaReader) :
    KeepsPosition r (r.updateSpeed libc speed).2 := by
  unfold updateSpeed
  split
  · exact .refl r
  · exact .of_flag hasSpeed (by decide) rfl rfl rfl ⟨rfl, rfl⟩

theorem updateAccuracy_keeps (r : NmeaReader) : KeepsPosition r r.updateAccuracy.2 :=
  .of_flag hasAccuracy (by decide) rfl rfl rfl ⟨rfl, rfl⟩

theorem updateLatlong_position (libc : Libc) (latitude : Token) (latitudeHemi : UInt8)
    (longitude : Token) (longitudeHemi : UInt8) (r : NmeaReader) :
    (r.updateLatlong libc latitude latitudeHemi longitude longitudeHemi).2.fix.position =
      (latlong libc latitude latitudeHemi longitude longitudeHemi).or r.fix.position := by
  unfold updateLatlong
  cases latlong libc latitude latitudeHemi longitude longitudeHemi with
  | none => rfl
  | some place =>
    have hbits : (r.fix.flags ||| hasLatLong) &&& hasLatLong ≠ 0 := by
      intro h
      rw [or_and_distrib_right, UInt16.or_eq_zero_iff] at h
      exact absurd h.2 (by decide)
    simp only [GpsLocation.position, if_neg hbits, Option.some_or]

theorem updateLatlong_reading (libc : Libc) (latitude : Token) (latitudeHemi : UInt8)
    (longitude : Token) (longitudeHemi : UInt8) (r : NmeaReader) :
    SameReading r (r.updateLatlong libc latitude latitudeHemi longitude longitudeHemi).2 := by
  unfold updateLatlong
  cases latlong libc latitude latitudeHemi longitude longitudeHemi with
  | none => exact ⟨rfl, rfl⟩
  | some place => exact ⟨rfl, rfl⟩

theorem clearFlags_reading (r : NmeaReader) : SameReading r r.clearFlags := ⟨rfl, rfl⟩

theorem clearFlags_position (r : NmeaReader) : r.clearFlags.fix.position = none := by
  simp [clearFlags, GpsLocation.position]

end NmeaReader

namespace NmeaTokenizer

/-- The sentences that carry a position: GGA, and RMC with status `A`. -/
def ReportsPosition (t : NmeaTokenizer) : Prop :=
  t.sentenceId = gga ∨ t.sentenceId = rmc ∧ (t.get 2).at_ 0 = 65

instance (t : NmeaTokenizer) : Decidable t.ReportsPosition :=
  inferInstanceAs (Decidable (_ ∨ _ ∧ _))

def placeAt (libc : Libc) (t : NmeaTokenizer) (k : ℕ) : Option (Float × Float) :=
  NmeaReader.latlong libc (t.get k) ((t.get (k + 1)).at_ 0) (t.get (k + 2))
    ((t.get (k + 3)).at_ 0)

def sentencePlace (libc : Libc) (t : NmeaTokenizer) : Option (Float × Float) :=
  t.placeAt libc (if t.sentenceId = gga then 2 else 3)

end NmeaTokenizer

namespace NmeaReader
variable (libc : Libc) (now : Tm) (t : NmeaTokenizer) (r : NmeaReader)

theorem parseGga_position : (r.parseGga libc now t).fix.position = t.placeAt libc 2 := by
  simp only [parseGga]
  rw [(updateAltitude_keeps libc _ _).position, updateLatlong_position,
    (updateTime_keeps libc now _ _).position, clearFlags_position, Option.or_none]
  rfl

theorem parseGga_reading : SameReading r (r.parseGga libc now t) :=
  (clearFlags_reading r).trans <| (updateTime_keeps libc now _ _).reading.trans <|
    (updateLatlong_reading libc _ _ _ _ _).trans (updateAltitude_keeps libc _ _).reading

theorem parseRmc_position (hstatus : (t.get 2).at_ 0 = 65) :
    (r.parseRmc libc now t).fix.position = t.placeAt libc 3 := by
  simp only [parseRmc, if_pos hstatus]
  rw [(updateSpeed_keeps libc _ _).position, (updateBearing_keeps libc _ _).position,
    updateLatlong_position, (updateDate_keeps libc now _ _ _).position, clearFlags_position,
    Option.or_none]
  rfl

theorem parseRmc_reading : SameReading r (r.parseRmc libc now t) := by
  unfold parseRmc
  split
  · exact (clearFlags_reading r).trans <| (updateDate_keeps libc now _ _ _).reading.trans <|
      (updateLatlong_reading libc _ _ _ _ _).trans <|
        (updateBearing_keeps libc _ _).reading.trans (updateSpeed_keeps libc _ _).reading
  · exact ⟨rfl, rfl⟩

theorem parseSentence_reading : SameReading r (r.parseSentence libc now t) := by
  unfold parseSentence
  split
  · exact parseGga_reading libc now t r
  · split
    · exact ⟨rfl, rfl⟩
    · split
      · exact parseRmc_reading libc now t r
      · exact ⟨rfl, rfl⟩

theorem parseSentence_position : (r.parseSentence libc now t).fix.position =
    if t.ReportsPosition then t.sentencePlace libc else r.fix.position := by
  by_cases hgga : t.sentenceId = gga
  · have hrep : t.ReportsPosition := .inl hgga
    rw [if_pos hrep, NmeaTokenizer.sentencePlace, if_pos hgga, parseSentence, if_pos hgga]
    exact parseGga_position libc now t r
  · rw [parseSentence, if_neg hgga]
    by_cases hrmc : t.sentenceId = rmc
    · have hgsa : t.sentenceId ≠ gsa := by
        rw [hrmc]
        decide
      rw [if_neg hgsa, if_pos hrmc]
      by_cases hstatus : (t.get 2).at_ 0 = 65
      · have hrep : t.ReportsPosition := .inr ⟨hrmc, hstatus⟩
        rw [if_pos hrep, NmeaTokenizer.sentencePlace, if_neg hgga]
        exact parseRmc_position libc now t r hstatus
      · have hrep : ¬ t.ReportsPosition := by simp [NmeaTokenizer.ReportsPosition, hgga, hstatus]
        rw [if_neg hrep, parseRmc, if_neg hstatus]
    · have hrep : ¬ t.ReportsPosition := by simp [NmeaTokenizer.ReportsPosition, hgga, hrmc]
      rw [if_neg hrep, if_neg hrmc, ite_self]

end NmeaReader

def tokenize (sentence : List UInt8) : NmeaTokenizer :=
  NmeaTokenizer.init sentence 0 sentence.length

def Identified (sentence : List UInt8) : Prop :=
  9 ≤ sentence.length ∧ ((tokenize sentence).get 0).p + 5 ≤ ((tokenize sentence).get 0).end_

instance (sentence : List UInt8) : Decidable (Identified sentence) :=
  inferInstanceAs (Decidable (_ ∧ _))

/-- A position in a callback that a sentence triggered is the position of that
sentence, which is a GGA or an RMC with status `A`. -/
def Callback.Fresh (libc : Libc) : Callback → Prop
  | .parsed sentence fix => ∀ place, fix.position = some place →
      (tokenize sentence).ReportsPosition ∧
        (tokenize sentence).sentencePlace libc = some place
  | .latest _ => True

namespace NmeaReader
variable (libc : Libc) (now : Tm) (r : NmeaReader)

def parsed : NmeaReader := (r.parseSentence libc now (tokenize r.in_)).updateAccuracy.2

theorem parsed_reading : SameReading r (r.parsed libc now) :=
  (parseSentence_reading libc now _ r).trans (updateAccuracy_keeps _).reading

theorem parsed_position : (r.parsed libc now).fix.position =
    if (tokenize r.in_).ReportsPosition then (tokenize r.in_).sentencePlace libc
    else r.fix.position := by
  rw [parsed, (updateAccuracy_keeps _).position]
  exact parseSentence_position libc now _ r

/-- The accuracy flag is set whatever the sentence was, so the test of the flags
before the callback never fails. -/
theorem parse_eq : r.parse libc now =
    if Identified r.in_ then
      (r.parsed libc now, if r.callback then [.parsed r.in_ (r.parsed libc now).fix] else [])
    else (r, []) := by
  have hflags : (r.parsed libc now).fix.flags ≠ 0 := by
    intro h
    exact absurd (UInt16.or_eq_zero_iff.mp h).2 (by decide)
  have hcb := (parsed_reading libc now r).callback
  by_cases hpos : r.pos < 9
  · have hid : ¬ Identified r.in_ := fun hid => absurd hid.1 (not_le.mpr hpos)
    rw [if_neg hid, parse, if_pos hpos]
  · rw [parse, if_neg hpos]
    by_cases htok : ((tokenize r.in_).get 0).end_ < ((tokenize r.in_).get 0).p + 5
    · have hid : ¬ Identified r.in_ := fun hid => absurd hid.2 (not_le.mpr htok)
      rw [if_neg hid]
      exact if_pos htok
    · have hid : Identified r.in_ := ⟨not_lt.mp hpos, not_lt.mp htok⟩
      rw [if_pos hid, ← hcb]
      refine (if_neg htok).trans ?_
      exact congrArg (Prod.mk _) (if_congr (and_iff_right hflags) rfl rfl)

theorem parse_callbacks : (r.parse libc now).2 =
    if Identified r.in_ ∧ r.callback then [.parsed r.in_ (r.parsed libc now).fix] else [] := by
  rw [parse_eq, apply_ite Prod.snd, ite_and]

theorem parse_fresh_iff : (∀ e ∈ (r.parse libc now).2, e.Fresh libc) ↔
    (Identified r.in_ → r.callback → r.fix.position.isSome →
      (tokenize r.in_).ReportsPosition) := by
  rw [parse_callbacks]
  by_cases hsent : Identified r.in_ ∧ r.callback
  · have hplace := parsed_position libc now r
    rw [if_pos hsent, List.forall_mem_singleton]
    simp only [hsent.1, hsent.2, forall_const, Callback.Fresh]
    by_cases hrep : (tokenize r.in_).ReportsPosition
    · rw [if_pos hrep] at hplace
      exact ⟨fun _ _ => hrep, fun _ place h => ⟨hrep, hplace.symm.trans h⟩⟩
    · rw [if_neg hrep] at hplace
      constructor
      · intro h hsome
        obtain ⟨place, hsome⟩ := Option.isSome_iff_exists.mp hsome
        exact (h place (hplace.trans hsome)).1
      · intro h place hsome
        exact absurd (h (by rw [← hplace, hsome]; rfl)) hrep
  · rw [if_neg hsent]
    constructor
    · intro _ hid hcb
      exact absurd ⟨hid, hcb⟩ hsent
    · intro _ e he
      cases he

end NmeaReader

/-- A byte of the daemon, with the date of the clock when it is handled, or a
change of the location callback. -/
inductive Input where
  | byte (c : UInt8) (now : Tm)
  | setCallback (cb : Bool)

def NmeaReader.step (libc : Libc) (r : NmeaReader) : Input → NmeaReader × List Callback
  | .byte c now => r.addc libc now c
  | .setCallback cb => r.setCallback cb

def nmeaMachine (libc : Libc) : Machine NmeaReader Input Callback where
  step r i := some (r.step libc i)

def NmeaReader.Completes (r : NmeaReader) (c : UInt8) : Prop :=
  r.overflow = false ∧ r.pos < nmeaMaxSize ∧ c = 10

instance (r : NmeaReader) (c : UInt8) : Decidable (r.Completes c) :=
  inferInstanceAs (Decidable (_ ∧ _ ∧ _))

/-- A sentence that is parsed while a callback is set and the reader keeps a
position is one that carries a position itself. -/
def SentenceOk (r : NmeaReader) : Input → Prop
  | .byte c _ => r.Completes c → Identified (r.in_ ++ [c]) → r.callback →
      r.fix.position.isSome → (tokenize (r.in_ ++ [c])).ReportsPosition
  | .setCallback _ => True

instance (r : NmeaReader) (i : Input) : Decidable (SentenceOk r i) :=
  match i with
  | .byte _ _ => inferInstanceAs (Decidable (_ → _ → _ → _ → _))
  | .setCallback _ => inferInstanceAs (Decidable True)

theorem addc_fresh_iff (libc : Libc) (now : Tm) (c : UInt8) (r : NmeaReader) :
    (∀ e ∈ (r.addc libc now c).2, e.Fresh libc) ↔ SentenceOk r (.byte c now) := by
  by_cases hcomp : r.Completes c
  · obtain ⟨hover, hpos, hc⟩ := hcomp
    have hcall : (r.addc libc now c).2 =
        (NmeaReader.parse libc now { r with in_ := r.in_ ++ [c] }).2 := by
      simp [NmeaReader.addc, hover, not_le.mpr hpos, hc]
    rw [hcall, NmeaReader.parse_fresh_iff]
    exact ⟨fun h _ => h, fun h => h ⟨hover, hpos, hc⟩⟩
  · have hcall : (r.addc libc now c).2 = [] := by
      simp only [NmeaReader.addc]
      by_cases hover : r.overflow
      · rw [if_pos hover]
      · rw [if_neg hover]
        by_cases hpos : nmeaMaxSize ≤ r.pos
        · rw [if_pos hpos]
        · rw [if_neg hpos, if_neg]
          intro hc
          exact hcomp ⟨by simpa using hover, not_le.mp hpos, hc⟩
    rw [hcall]
    simp [SentenceOk, hcomp]

theorem step_fresh_iff {libc : Libc} {r r' : NmeaReader} {i : Input} {es : List Callback}
    (hstep : (nmeaMachine libc).step r i = some (r', es)) :
    (∀ e ∈ es, e.Fresh libc) ↔ SentenceOk r i := by
  have hes : es = (r.step libc i).2 := (congrArg Prod.snd (Option.some.inj hstep)).symm
  rw [hes]
  cases i with
  | byte c now => exact addc_fresh_iff libc now c r
  | setCallback cb =>
    refine ⟨fun _ => trivial, fun _ e he => ?_⟩
    simp only [NmeaReader.step, NmeaReader.setCallback] at he
    split at he
    · rw [List.mem_singleton.mp he]
      trivial
    · cases he

/-- The callbacks of a stream are all fresh exactly when no sentence without a
position of its own finds one in the reader. -/
theorem callbacks_fresh_iff (libc : Libc) (tmUtc tmLocal : Tm) (is : List Input) :
    ∃ r tr, (nmeaMachine libc).exec (fun _ _ => True) (.init tmUtc tmLocal) is = some (r, tr) ∧
      ((∀ e ∈ tr, e.Fresh libc) ↔
        (nmeaMachine libc).exec SentenceOk (.init tmUtc tmLocal) is = some (r, tr)) := by
  have htotal (r : NmeaReader) (i : Input) : ∃ res, (nmeaMachine libc).step r i = some res :=
    ⟨r.step libc i, rfl⟩
  obtain ⟨r, tr, hexec⟩ := Machine.exec_of_total htotal (.init tmUtc tmLocal) is
  exact ⟨r, tr, hexec, Machine.exec_events_iff step_fresh_iff hexec⟩

theorem exec_partial_line (libc : Libc) (now : Tm) {l : List UInt8} {r : NmeaReader}
    (hover : r.overflow = false) (hl : ∀ b ∈ l, b ≠ 10)
    (hlen : r.pos + l.length ≤ nmeaMaxSize) :
    (nmeaMachine libc).exec (fun _ _ => True) r (l.map (.byte · now)) =
      some ({ r with in_ := r.in_ ++ l }, []) := by
  induction l generalizing r with
  | nil => simp [Machine.exec]
  | cons b l ih =>
    have hb : b ≠ 10 := hl b (by simp)
    have hpos : ¬ nmeaMaxSize ≤ r.pos := by
      rw [List.length_cons] at hlen
      omega
    have hstep : (nmeaMachine libc).step r (.byte b now) =
        some ({ r with in_ := r.in_ ++ [b] }, []) := by
      simp [nmeaMachine, NmeaReader.step, NmeaReader.addc, hover, hpos, hb]
    have hrest := ih (r := { r with in_ := r.in_ ++ [b] }) hover
      (fun b hb => hl b (by simp [hb])) (by simp [NmeaReader.pos] at hlen ⊢; omega)
    simp only [List.map_cons, Machine.exec, if_true, hstep, hrest]
    simp

theorem exec_line (libc : Libc) (now : Tm) {l : List UInt8} {r : NmeaReader}
    (hover : r.overflow = false) (hin : r.in_ = []) (hl : ∀ b ∈ l, b ≠ 10)
    (hlen : l.length < nmeaMaxSize) :
    (nmeaMachine libc).exec (fun _ _ => True) r ((l ++ [10]).map (.byte · now)) =
      some ({ (NmeaReader.parse libc now { r with in_ := l ++ [10] }).1 with in_ := [] },
        (NmeaReader.parse libc now { r with in_ := l ++ [10] }).2) := by
  have hpos : r.pos + l.length ≤ nmeaMaxSize := by
    simp only [NmeaReader.pos, hin, List.length_nil]
    omega
  have hread := exec_partial_line libc now hover hl hpos
  rw [hin, List.nil_append] at hread
  rw [List.map_append]
  refine Machine.exec_append hread ?_
  simp [Machine.exec, nmeaMachine, NmeaReader.step, NmeaReader.addc, hover, NmeaReader.pos,
    not_le.mpr hlen]

structure IsLine (l : List UInt8) : Prop where
  newline : ∀ b ∈ l, b ≠ 10
  fits : l.length < nmeaMaxSize
  identified : Identified (l ++ [10])

structure NmeaTokenizer.CarriesPlace (t : NmeaTokenizer) : Prop where
  id : t.sentenceId = gga
  latitude : (t.get 2).p + 6 ≤ (t.get 2).end_
  longitude : (t.get 4).p + 6 ≤ (t.get 4).end_

theorem NmeaTokenizer.CarriesPlace.isSome {t : NmeaTokenizer} (h : t.CarriesPlace)
    (libc : Libc) : (t.sentencePlace libc).isSome := by
  rw [sentencePlace, if_pos h.id, placeAt, NmeaReader.latlong, if_neg (not_lt.mpr h.latitude)]
  simp only [Nat.reduceAdd]
  rw [if_neg (not_lt.mpr h.longitude)]
  rfl

theorem exec_gga (libc : Libc) (now : Tm) {l : List UInt8} {r : NmeaReader}
    (hover : r.overflow = false) (hin : r.in_ = []) (hl : IsLine l)
    (hplace : (tokenize (l ++ [10])).CarriesPlace) :
    ∃ r' tr, (nmeaMachine libc).exec (fun _ _ => True) r ((l ++ [10]).map (.byte · now)) =
      some (r', tr) ∧ SameReading r r' ∧ r'.in_ = [] ∧ r'.fix.position.isSome := by
  have hread := NmeaReader.parsed_reading libc now { r with in_ := l ++ [10] }
  have hparse := NmeaReader.parse_eq libc now { r with in_ := l ++ [10] }
  rw [if_pos hl.identified] at hparse
  refine ⟨_, _, exec_line libc now hover hin hl.newline hl.fits, ?_, rfl, ?_⟩
  · rw [hparse]
    generalize NmeaReader.parsed libc now { r with in_ := l ++ [10] } = parsed at hread
    exact ⟨hread.overflow, hread.callback⟩
  · rw [hparse]
    simp only
    rw [NmeaReader.parsed_position, if_pos (.inl hplace.id)]
    exact hplace.isSome libc

theorem exec_stale (libc : Libc) (now : Tm) {l : List UInt8} {r : NmeaReader}
    (hover : r.overflow = false) (hin : r.in_ = []) (hcb : r.callback = true)
    (hpos : r.fix.position.isSome) (hl : IsLine l)
    (hnone : ¬ (tokenize (l ++ [10])).ReportsPosition) :
    ∃ r' tr, (nmeaMachine libc).exec (fun _ _ => True) r ((l ++ [10]).map (.byte · now)) =
      some (r', tr) ∧ ¬ ∀ e ∈ tr, e.Fresh libc := by
  refine ⟨_, _, exec_line libc now hover hin hl.newline hl.fits, fun hfresh => hnone ?_⟩
  have hiff := NmeaReader.parse_fresh_iff libc now { r with in_ := l ++ [10] }
  exact hiff.mp hfresh hl.identified hcb hpos

def ggaLine : List UInt8 :=
  "$GPGGA,123519,4807.038,N,01131.000,E,1,08,0.9,545.4,M,46.9,M,,*47\r".toList.map Char.toUInt8

def rmcLine : List UInt8 := "$GPRMC,123520,V,,,,,,,230394,,,N*53\r".toList.map Char.toUInt8

def march23 : Tm := { sec := 19, min := 35, hour := 12, mday := 23, mon := 2, year := 94 }

def voidStream : List Input :=
  [.setCallback true] ++ ((ggaLine ++ [10]).map (.byte · march23) ++
    (rmcLine ++ [10]).map (.byte · march23))

/-- Whatever the library functions compute, the RMC reports the position of the GGA. -/
theorem void_rmc_reports_position : ¬ ∃ libc : Libc, ∀ r tr,
    (nmeaMachine libc).exec (fun _ _ => True) (.init march23 march23) voidStream =
      some (r, tr) → ∀ e ∈ tr, e.Fresh libc := by
  intro h
  obtain ⟨libc, hclaim⟩ := h
  have hgga : IsLine ggaLine := ⟨by decide +kernel, by decide +kernel, by decide +kernel⟩
  have hrmc : IsLine rmcLine := ⟨by decide +kernel, by decide +kernel, by decide +kernel⟩
  have hplace : (tokenize (ggaLine ++ [10])).CarriesPlace :=
    ⟨by decide +kernel, by decide +kernel, by decide +kernel⟩
  have hcb : (nmeaMachine libc).exec (fun _ _ => True) (.init march23 march23)
      [.setCallback true] =
        some ({ NmeaReader.init march23 march23 with callback := true }, []) := rfl
  obtain ⟨r, tr, hfirst, hread, hin, hpos⟩ := exec_gga libc march23
    (r := { NmeaReader.init march23 march23 with callback := true }) rfl rfl hgga hplace
  obtain ⟨r', tr', hsecond, hstale⟩ :=
    exec_stale libc march23 hread.overflow hin hread.callback hpos hrmc (by decide +kernel)
  have hexec := Machine.exec_append hcb (Machine.exec_append hfirst hsecond)
  exact hstale fun e he => hclaim _ _ hexec e (by simp [he])

end Rpi3Device.Gps
