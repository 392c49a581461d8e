import Rpi3Device.LineFramer
import Rpi3Device.Gps.FixFreshness

/-!
# The lines the NMEA reader parses

`addc` frames the daemon's bytes as `LineFramer` does, with a buffer for 83 of
them: neither the parser nor a change of callback touches the line or the mode.
The buffers handed to the parser are the lines that fit, except one that follows
an odd number of lines of exactly 84 bytes: the newline of such a line overflows
the buffer and is not seen as a newline.
-/

namespace Rpi3Device.Gps
open TransitionSystem LineFramer

namespace NmeaReader
variable (libc : Libc) (now : Tm) (r : NmeaReader) (c : UInt8)

def handed : Option (List UInt8) := if r.Completes c then some (r.in_ ++ [c]) else none

theorem parse_reading : SameReading r (r.parse libc now).1 := by
  rw [parse_eq]
  split
  · exact parsed_reading libc now r
  · exact ⟨rfl, rfl⟩

def framer : Framer UInt8 := ⟨r.overflow, r.in_⟩

theorem handed_eq : r.handed c = (LineFramer.step 10 nmeaMaxSize r.framer c).2 := by
  by_cases hoverflow : r.overflow
  · simp [handed, Completes, LineFramer.step, framer, hoverflow]
  · by_cases hpos : nmeaMaxSize ≤ r.in_.length
    · simp [handed, Completes, LineFramer.step, framer, pos, hoverflow, hpos]
    · by_cases hc : c = 10
      · simp [handed, Completes, LineFramer.step, framer, pos, hoverflow, hpos, hc, not_le.mp hpos]
      · simp [handed, Completes, LineFramer.step, framer, hoverflow, hpos, hc]

theorem addc_framer :
    (r.addc libc now c).1.framer = (LineFramer.step 10 nmeaMaxSize r.framer c).1 := by
  unfold addc LineFramer.step
  by_cases hoverflow : r.overflow
  · simp [framer, hoverflow]
  · by_cases hpos : nmeaMaxSize ≤ r.in_.length
    · simp [framer, pos, hoverflow, hpos]
    · by_cases hc : c = 10
      · have hparse := (parse_reading libc now { r with in_ := r.in_ ++ [c] }).overflow
        rw [Bool.not_eq_true] at hoverflow
        simpa [framer, pos, hoverflow, hpos, ← hc] using hparse
      · simp [framer, pos, hoverflow, hpos, hc]

end NmeaReader

def Input.c : Input → Option UInt8
  | .byte c _ => some c
  | .setCallback _ => none

def stream (is : List Input) : List UInt8 := is.filterMap Input.c

namespace NmeaReader
variable (libc : Libc)

def after (r : NmeaReader) (is : List Input) : NmeaReader :=
  is.foldl (fun r i => (r.step libc i).1) r

def buffers : NmeaReader → List Input → List (List UInt8)
  | _, [] => []
  | r, i :: is => (i.c.bind r.handed).toList ++ buffers (r.step libc i).1 is

theorem buffers_eq (r : NmeaReader) (is : List Input) :
    r.buffers libc is = emitted 10 nmeaMaxSize r.framer (stream is) := by
  induction is generalizing r with
  | nil => rfl
  | cons i is ih =>
    cases i with
    | byte c now =>
      have hstream : stream (.byte c now :: is) = c :: stream is := rfl
      rw [hstream, buffers, ih, emitted, ← addc_framer libc now r c, ← handed_eq r c]
      rfl
    | setCallback cb =>
      rw [buffers, ih]
      rfl

theorem step_pos {r : NmeaReader} (hr : r.pos ≤ nmeaMaxSize) (i : Input) :
    (r.step libc i).1.pos ≤ nmeaMaxSize := by
  cases i with
  | byte c now =>
    have hheld := step_held 10 nmeaMaxSize (f := r.framer) hr c
    rwa [← addc_framer libc now r c] at hheld
  | setCallback cb => exact hr

theorem after_pos {r : NmeaReader} (hr : r.pos ≤ nmeaMaxSize) (is : List Input) :
    (r.after libc is).pos ≤ nmeaMaxSize := by
  induction is generalizing r with
  | nil => exact hr
  | cons i is ih => exact ih (step_pos libc hr i)

/-- The buffer is never exceeded, and the lines that fit it are parsed, in order. -/
structure FramesLines (r : NmeaReader) (is : List Input) : Prop where
  pos : ∀ k, (r.after libc (is.take k)).pos ≤ nmeaMaxSize
  buffers : r.buffers libc is = wholeLines 10 nmeaMaxSize (lines 10 (stream is))

theorem framesLines_iff (tmUtc tmLocal : Tm) (is : List Input) :
    FramesLines libc (init tmUtc tmLocal) is ↔
      Justified (Reached nmeaMaxSize) (lines 10 (stream is)) := by
  have hbuffers : (init tmUtc tmLocal).buffers libc is =
      kept 10 nmeaMaxSize false (lines 10 (stream is)) := by
    rw [buffers_eq]
    exact emitted_eq 10 nmeaMaxSize (stream is)
  have hpos (k : ℕ) : ((init tmUtc tmLocal).after libc (is.take k)).pos ≤ nmeaMaxSize :=
    after_pos libc (r := init tmUtc tmLocal) (Nat.zero_le nmeaMaxSize) _
  rw [← kept_eq_iff 10, ← hbuffers]
  exact ⟨FramesLines.buffers, FramesLines.mk hpos⟩

def brimfulStream : List UInt8 :=
  List.replicate 83 65 ++ 10 :: ([36, 71, 80, 71, 76, 76] ++ 10 :: [])

theorem lines_brimfulStream :
    lines 10 brimfulStream = [List.replicate 83 65, [36, 71, 80, 71, 76, 76]] := by
  rw [lines, brimfulStream, List.splitOn_append_cons_self_of_not_mem (by simp),
    List.splitOn_append_cons_self_of_not_mem (by decide), List.splitOn_nil]
  rfl

theorem framesLines_fails : ¬ ∀ (libc : Libc) (tmUtc tmLocal : Tm) (is : List Input),
    FramesLines libc (init tmUtc tmLocal) is := by
  intro h
  let libc : Libc := ⟨fun _ => 0, fun _ => 0⟩
  let now : Tm := { sec := 0, min := 0, hour := 0, mday := 1, mon := 0, year := 117 }
  have hstream : stream (brimfulStream.map fun c => .byte c now) = brimfulStream := by
    simp [stream, List.filterMap_map, Function.comp_def, Input.c]
  have hbuffers := (h libc now now (brimfulStream.map fun c => .byte c now)).buffers
  rw [buffers_eq, hstream, lines_brimfulStream] at hbuffers
  have hemitted := emitted_eq 10 nmeaMaxSize brimfulStream
  rw [lines_brimfulStream] at hemitted
  -- the second line is dropped although it fits
  have hlost : kept 10 nmeaMaxSize false
      [List.replicate 83 (65 : UInt8), [36, 71, 80, 71, 76, 76]] = [] := by decide
  exact absurd (hbuffers.symm.trans (hemitted.trans hlost)) (by decide)

end NmeaReader
end Rpi3Device.Gps
