import Rpi3Device.Audio.OutputStreams

/-!
# The presentation position of one output stream

The position is the number of frames written since the stream was opened less the frames
that still wait in the kernel buffer. `out_get_presentation_position` computes it from
the 32-bit counter `written`, in `size_t`, and tests its sign as an `int64_t`. The two
widths of `size_t` fail in different ways: with 32 bits the difference is never
negative, with 64 bits only the counter wraps.
-/

namespace Rpi3Device.Audio
open TransitionSystem

/-- One stream and the frames written to it since it was opened. -/
structure Playback where
  dev : AlsaAudioDevice := {}
  out : AlsaStreamOut := {}
  total : ℕ := 0

inductive Act
  | write (bytes : ℕ)
  | standby
  | position (avail : UInt32)
deriving DecidableEq

structure Report where
  total : ℕ
  avail : UInt32
  result : Option ℕ
deriving DecidableEq

/-- The writes succeed. A query without a pcm returns -1 before the kernel is asked and makes
no report. -/
def playbackStep (w : SizeT) (s : Playback) : Act → Option (Playback × List Report)
  | .write bytes =>
    let r := outWrite s.dev 0 s.out bytes true 0
    some (⟨r.1, r.2.1, s.total + bytes / frameSize⟩, [])
  | .standby =>
    let r := doOutputStandby s.dev s.out
    some (⟨r.1, r.2.1, s.total⟩, [])
  | .position avail =>
    some (s, if s.out.pcm = none then []
      else [⟨s.total, avail, (outGetPresentationPosition w s.out (some avail)).1⟩])

def playback (w : SizeT) : Machine Playback Act Report := ⟨playbackStep w⟩

def bufferSize : ℕ := (PERIOD_SIZE * PLAYBACK_PERIOD_COUNT).toNat

/-- A write passes a `size_t`, and the kernel reports at most the buffer as free. -/
def Reported (w : SizeT) (_ : Playback) : Act → Prop
  | .write bytes => bytes < 2 ^ w.bits
  | .standby => True
  | .position avail => avail.toNat ≤ bufferSize

instance (w : SizeT) (s : Playback) : (a : Act) → Decidable (Reported w s a)
  | .write bytes => inferInstanceAs (Decidable (bytes < 2 ^ w.bits))
  | .standby => inferInstanceAs (Decidable True)
  | .position avail => inferInstanceAs (Decidable (avail.toNat ≤ bufferSize))

def Report.position (r : Report) : ℤ := r.total - (bufferSize - r.avail.toNat)

def Report.Right (r : Report) : Prop :=
  (∀ frames, r.result = some frames → (frames : ℤ) = r.position) ∧
    (r.result = none ↔ r.position < 0)

/-- Every report is right, and no later report is smaller as long as playback progresses. -/
def PositionsRight (tr : List Report) : Prop :=
  (∀ r ∈ tr, r.Right) ∧ tr.Pairwise fun r r' => r.position ≤ r'.position →
    ∀ f f', r.result = some f → r'.result = some f' → f ≤ f'

def Report.Fits (w : SizeT) (r : Report) : Prop :=
  match w with
  | .bits32 => 0 ≤ r.position ∧ r.position < 4294967296
  | .bits64 => r.total < 4294967296

theorem bufferSize_eq : bufferSize = 4096 := by decide

theorem signedFrames_bits32 (total : ℕ) (avail : UInt32) :
    signedFrames .bits32 total.toUInt32 (PERIOD_SIZE * PLAYBACK_PERIOD_COUNT) avail =
      ((total : ℤ) - (bufferSize - avail.toNat)) % 4294967296 := by
  have havail := avail.toNat_lt
  have hk : (PERIOD_SIZE * PLAYBACK_PERIOD_COUNT).toNat = 4096 := by decide
  simp only [signedFrames, UInt32.toNat_add, UInt32.toNat_sub, Nat.toUInt32_eq, UInt32.toNat_ofNat',
    hk, bufferSize_eq]
  omega

theorem signedFrames_bits64 (total : ℕ) (avail : UInt32) :
    signedFrames .bits64 total.toUInt32 (PERIOD_SIZE * PLAYBACK_PERIOD_COUNT) avail =
      ((total % 4294967296 : ℕ) : ℤ) - (bufferSize - avail.toNat) := by
  have havail := avail.toNat_lt
  have hk : (PERIOD_SIZE * PLAYBACK_PERIOD_COUNT).toNat = 4096 := by decide
  have hlt := Nat.mod_lt total (by decide : 4294967296 > 0)
  have hsigned (x : UInt64) : x.toInt64.toInt = (x.toNat : ℤ).bmod (2 ^ 64) :=
    x.toBitVec.toInt_eq_toNat_bmod
  simp only [signedFrames, hsigned, UInt64.toNat_add, UInt64.toNat_sub, UInt32.toNat_toUInt64,
    Nat.toUInt32_eq, UInt32.toNat_ofNat', hk, bufferSize_eq]
  rw [Int.bmod_def]
  split <;> omega

def reportOf (w : SizeT) (total : ℕ) (avail : UInt32) : Report :=
  let signed := signedFrames w total.toUInt32 (PERIOD_SIZE * PLAYBACK_PERIOD_COUNT) avail
  ⟨total, avail, if 0 ≤ signed then some signed.toNat else none⟩

theorem right_of_position {r : Report} {signed : ℤ}
    (hresult : r.result = if 0 ≤ signed then some signed.toNat else none)
    (hsigned : signed = r.position) : r.Right := by
  subst hsigned
  by_cases h : 0 ≤ r.position
  · rw [if_pos h] at hresult
    refine ⟨fun frames hframes => ?_, ?_⟩
    · rw [hresult, Option.some.injEq] at hframes
      omega
    · simp [hresult, h]
  · rw [if_neg h] at hresult
    exact ⟨fun frames hframes => by simp [hresult] at hframes, by simp [hresult]; omega⟩

theorem position_of_right {r : Report} {signed : ℤ}
    (hresult : r.result = if 0 ≤ signed then some signed.toNat else none) (h : r.Right) :
    signed = r.position ∧ 0 ≤ signed ∨ signed < 0 ∧ r.position < 0 := by
  by_cases hs : 0 ≤ signed
  · rw [if_pos hs] at hresult
    have heq := h.1 _ hresult
    exact .inl ⟨by omega, hs⟩
  · rw [if_neg hs] at hresult
    exact .inr ⟨by omega, h.2.mp hresult⟩

theorem reportOf_right_iff (w : SizeT) (total : ℕ) {avail : UInt32}
    (havail : avail.toNat ≤ bufferSize) :
    (reportOf w total avail).Right ↔ (reportOf w total avail).Fits w := by
  have hposition : (reportOf w total avail).position = total - (bufferSize - avail.toNat) := rfl
  have hresult : (reportOf w total avail).result =
      if 0 ≤ signedFrames w total.toUInt32 (PERIOD_SIZE * PLAYBACK_PERIOD_COUNT) avail then
        some (signedFrames w total.toUInt32 (PERIOD_SIZE * PLAYBACK_PERIOD_COUNT) avail).toNat
      else none := rfl
  rw [bufferSize_eq] at havail hposition
  cases w with
  | bits32 =>
    have hsigned := signedFrames_bits32 total avail
    rw [bufferSize_eq] at hsigned
    constructor
    · intro h
      rcases position_of_right hresult h with ⟨heq, hs⟩ | ⟨hneg, -⟩
      · simp only [Report.Fits]
        omega
      · omega
    · intro hparts
      obtain ⟨hlo, hhi⟩ := hparts
      apply right_of_position hresult
      omega
  | bits64 =>
    have hsigned := signedFrames_bits64 total avail
    rw [bufferSize_eq] at hsigned
    have hmod := Nat.div_add_mod total 4294967296
    constructor
    · intro h
      change total < 4294967296
      rcases position_of_right hresult h with ⟨heq, -⟩ | ⟨-, hneg⟩ <;> omega
    · intro h
      apply right_of_position hresult
      have htotal : total % 4294967296 = total := Nat.mod_eq_of_lt h
      omega

structure PlaybackInv (s : Playback) : Prop where
  written : s.out.written = s.total.toUInt32
  periodSize : s.out.config.periodSize = PERIOD_SIZE
  periodCount : s.out.config.periodCount = PLAYBACK_PERIOD_COUNT
  available : s.out.unavailable = false

theorem PlaybackInv.write {s : Playback} (inv : PlaybackInv s) (bytes : ℕ) :
    PlaybackInv ⟨(outWrite s.dev 0 s.out bytes true 0).1, (outWrite s.dev 0 s.out bytes true 0).2.1,
      s.total + bytes / frameSize⟩ := by
  obtain ⟨hwritten, hsize, hcount, havail⟩ := inv
  by_cases hs : s.out.standby = true
  · constructor <;>
      simp [outWrite, hs, startOutputStream, havail, writeFrames, prepareStart, hwritten, hsize,
        hcount]
  · constructor <;> simp [outWrite, hs, havail, writeFrames, hwritten, hsize, hcount]

theorem PlaybackInv.standby {s : Playback} (inv : PlaybackInv s) :
    PlaybackInv ⟨(doOutputStandby s.dev s.out).1, (doOutputStandby s.dev s.out).2.1, s.total⟩ := by
  obtain ⟨hwritten, hsize, hcount, havail⟩ := inv
  by_cases hs : s.out.standby = true
  · exact ⟨by simp [doOutputStandby, hs, hwritten], by simp [doOutputStandby, hs, hsize],
      by simp [doOutputStandby, hs, hcount], by simp [doOutputStandby, hs, havail]⟩
  · exact ⟨by simp [doOutputStandby, hs, hwritten], by simp [doOutputStandby, hs, hsize],
      by simp [doOutputStandby, hs, hcount], by simp [doOutputStandby, hs, havail]⟩

theorem PlaybackInv.report {s : Playback} (inv : PlaybackInv s) (w : SizeT) (avail : UInt32)
    (hpcm : s.out.pcm ≠ none) :
    ⟨s.total, avail, (outGetPresentationPosition w s.out (some avail)).1⟩ =
      reportOf w s.total avail := by
  obtain ⟨pcm, hpcm⟩ := Option.ne_none_iff_exists'.mp hpcm
  simp only [outGetPresentationPosition, hpcm, Option.bind_some, inv.written, inv.periodSize,
    inv.periodCount, reportOf]

theorem playback_reports {w : SizeT} {tr : List Report} {s : Playback}
    (run : (playback w).Run (Reported w) {} tr s) :
    PlaybackInv s ∧ ∀ r ∈ tr, r.avail.toNat ≤ bufferSize ∧ r = reportOf w r.total r.avail := by
  apply run.invariant (P := fun tr s => PlaybackInv s ∧
    ∀ r ∈ tr, r.avail.toNat ≤ bufferSize ∧ r = reportOf w r.total r.avail)
  · exact ⟨⟨rfl, rfl, rfl, rfl⟩, by simp⟩
  · intro tr es s s' act ih hok hstep
    obtain ⟨inv, hall⟩ := ih
    cases act with
    | write bytes =>
      obtain ⟨rfl, rfl⟩ := Prod.mk.inj (Option.some.inj hstep)
      exact ⟨inv.write bytes, by simpa using hall⟩
    | standby =>
      obtain ⟨rfl, rfl⟩ := Prod.mk.inj (Option.some.inj hstep)
      exact ⟨inv.standby, by simpa using hall⟩
    | position avail =>
      obtain ⟨rfl, rfl⟩ := Prod.mk.inj (Option.some.inj hstep)
      refine ⟨inv, ?_⟩
      by_cases hpcm : s.out.pcm = none
      · rw [if_pos hpcm, List.append_nil]
        exact hall
      · rw [if_neg hpcm, inv.report w avail hpcm]
        intro r hr
        rcases List.mem_append.mp hr with hr | hr
        · exact hall r hr
        · rw [List.mem_singleton.mp hr]
          exact ⟨hok, rfl⟩

/-- The positions of a run are right exactly when each query comes in time: with a 32-bit
`size_t` before the true position leaves the range of the counter on either side, with a
64-bit one before the counter wraps. -/
theorem playback_positions_iff {w : SizeT} {tr : List Report} {s : Playback}
    (run : (playback w).Run (Reported w) {} tr s) :
    PositionsRight tr ↔ ∀ r ∈ tr, r.Fits w := by
  obtain ⟨-, hall⟩ := playback_reports run
  have hright : ∀ r ∈ tr, r.Right ↔ r.Fits w := by
    intro r hr
    obtain ⟨havail, heq⟩ := hall r hr
    rw [heq]
    exact reportOf_right_iff w r.total havail
  constructor
  · intro hparts r hr
    obtain ⟨h, -⟩ := hparts
    exact (hright r hr).mp (h r hr)
  · intro h
    have htrue : ∀ r ∈ tr, r.Right := fun r hr => (hright r hr).mpr (h r hr)
    refine ⟨htrue, List.pairwise_of_forall_mem_list ?_⟩
    intro r hr r' hr' hprogress f f' hf hf'
    have hf := (htrue r hr).1 f hf
    have hf' := (htrue r' hr').1 f' hf'
    omega

theorem playback_positions_second :
    ∃ tr s, (playback .bits64).Run (Reported .bits64) {} tr s ∧
      tr = [⟨1024, 3072, some 0⟩, ⟨2048, 3072, some 1024⟩] ∧ PositionsRight tr := by
  obtain ⟨tr, s, run, htr⟩ := (playback .bits64).run_of_exec (Reported .bits64) {}
    [.write 4096, .position 3072, .write 4096, .position 3072]
    (fun _ tr => tr = [⟨1024, 3072, some 0⟩, ⟨2048, 3072, some 1024⟩]) (by decide +kernel)
  refine ⟨tr, s, run, htr, (playback_positions_iff run).mpr ?_⟩
  rw [htr]
  simp [Report.Fits]

/-- With a 32-bit `size_t` a full buffer after 1024 frames gives a position above four
thousand million. With a 64-bit one the position falls back to 0 after 2 ^ 32 frames. -/
theorem playback_positions_wrap :
    (∃ tr s, (playback .bits32).Run (Reported .bits32) {} tr s ∧
      tr = [⟨1024, 0, some 4294964224⟩] ∧ ¬ PositionsRight tr) ∧
    ∃ tr s, (playback .bits64).Run (Reported .bits64) {} tr s ∧
      tr = [⟨1024, 4096, some 1024⟩, ⟨4294967296, 4096, some 0⟩] ∧ ¬ PositionsRight tr := by
  constructor
  · obtain ⟨tr, s, run, htr⟩ := (playback .bits32).run_of_exec (Reported .bits32) {}
      [.write 4096, .position 0] (fun _ tr => tr = [⟨1024, 0, some 4294964224⟩]) (by decide +kernel)
    refine ⟨tr, s, run, htr, ?_⟩
    rw [htr]
    intro h
    obtain ⟨hright, -⟩ := h
    have hnone := (hright ⟨1024, 0, some 4294964224⟩ (by simp)).2.mpr (by decide)
    simp at hnone
  · obtain ⟨tr, s, run, htr⟩ := (playback .bits64).run_of_exec (Reported .bits64) {}
      [.write 4096, .position 4096, .write 17179865088, .position 4096]
      (fun _ tr => tr = [⟨1024, 4096, some 1024⟩, ⟨4294967296, 4096, some 0⟩]) (by decide +kernel)
    refine ⟨tr, s, run, htr, ?_⟩
    rw [htr]
    intro h
    obtain ⟨hright, -⟩ := h
    have hframes := (hright ⟨4294967296, 4096, some 0⟩ (by simp)).1 0 rfl
    revert hframes
    decide +kernel

end Rpi3Device.Audio
