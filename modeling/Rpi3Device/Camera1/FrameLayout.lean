import Mathlib.Tactic
import Rpi3Device.TransitionSystem
import Rpi3Device.Camera1.FakeDevice

/-!
# The colour planes of the fake HAL1 camera device

The drawing functions go through the planes that `startDevice` has set, and the preview
is read by a converter with planes of its own. They are the same planes for every format
but `YVU420`, whose U plane is computed from the old U pointer.
-/

namespace Rpi3Device.Camera1
open PlaneScan TransitionSystem ByteMemory

structure FrameState where
  device : FakeDevice
  drawn : List (Visit YUVPixel) := []

inductive DeviceAction where
  | connectDevice
  | disconnectDevice
  | startDevice (width height : Int32) (pixFmt : V4l2Format) (fps : Int32) (frame : ℕ)
  | stopDevice
  | drawCheckerboard (t : Tuning)

def frameMachine : Machine FrameState DeviceAction DeviceStatus where
  step s
    | .connectDevice =>
      some ({ s with device := s.device.connectDevice.1 }, [s.device.connectDevice.2])
    | .disconnectDevice =>
      some ({ s with device := s.device.disconnectDevice.1 }, [s.device.disconnectDevice.2])
    | .startDevice width height pixFmt fps frame =>
      let res := s.device.startDevice width height pixFmt fps frame
      some (⟨res.1, if res.2 = .noError then [] else s.drawn⟩, [res.2])
    | .stopDevice => some ({ s with device := s.device.stopDevice }, [.noError])
    | .drawCheckerboard t =>
      if s.device.isStarted = true then
        let res := s.device.drawCheckerboard t
        some (⟨res.1, s.drawn ++ res.2⟩, [])
      else none

/-- The frames have even sizes, and their bytes are counted by an `int`. -/
def framesFit (_ : FrameState) : DeviceAction → Prop
  | .startDevice width height _ _ _ =>
    0 < width.toInt ∧ 0 < height.toInt ∧ width.toInt % 2 = 0 ∧ height.toInt % 2 = 0 ∧
      12 * (width.toInt * height.toInt) < 2 ^ 31
  | _ => True

/-- `YVU420` is not used, or the old U pointer happens to be at the end of the new Y plane. -/
def uPlaneSet (s : FrameState) : DeviceAction → Prop
  | .startDevice width height .yvu420 _ frame =>
    s.device.mFrameU = pointer frame (pixTotal width height)
  | _ => True

def fitAndSet (s : FrameState) (a : DeviceAction) : Prop := framesFit s a ∧ uPlaneSet s a

instance (s : FrameState) : (a : DeviceAction) → Decidable (framesFit s a)
  | .startDevice .. => inferInstanceAs (Decidable (_ ∧ _ ∧ _ ∧ _ ∧ _))
  | .connectDevice | .disconnectDevice | .stopDevice | .drawCheckerboard _ =>
    inferInstanceAs (Decidable True)

instance (s : FrameState) : (a : DeviceAction) → Decidable (uPlaneSet s a)
  | .startDevice _ _ .yvu420 _ _ => inferInstanceAs (Decidable (_ = _))
  | .startDevice _ _ .yuv420 _ _ | .startDevice _ _ .nv21 _ _ | .startDevice _ _ .nv12 _ _
  | .startDevice _ _ (.other _) _ _ | .connectDevice | .disconnectDevice | .stopDevice
  | .drawCheckerboard _ => inferInstanceAs (Decidable True)

instance (s : FrameState) (a : DeviceAction) : Decidable (fitAndSet s a) :=
  inferInstanceAs (Decidable (_ ∧ _))

/-- Every block that was drawn is read by the converter, with the same U and V bytes. -/
def LayoutAgrees (s : FrameState) : Prop :=
  s.device.isStarted = true → ∃ reads, s.device.previewVisits = some reads ∧ ∀ w ∈ s.drawn,
    (∃ r ∈ reads, SameBlock w r) ∧
      ∀ r ∈ reads, SameBlock w r → w.cursor.U = r.cursor.U ∧ w.cursor.V = r.cursor.V

def Drawn (d : FakeDevice) (v : Visit YUVPixel) : Prop :=
  v.Located d.mFrameU d.mFrameV d.uvStep (d.width / 2) ∧ v.x < d.width ∧ v.y < d.height

structure PlanesReady (d : FakeDevice) : Prop where
  step : d.mUVStep = 1 ∨ d.mUVStep = 2
  inRow : d.mUVInRow = d.mFrameWidth / 2 * d.mUVStep
  even : d.width % 2 = 0
  pixels : d.width * d.height < 2 ^ 31

section Drawing
variable {d : FakeDevice}

theorem drawn_checkerboard (heven : d.width % 2 = 0) {t : Tuning} {v : Visit YUVPixel}
    (h : v ∈ d.checkerboardVisits t) : Drawn d v := by
  have hpairs : (d.width + 1) / 2 = d.width / 2 := by omega
  have hstart : AtRow d.mFrameU d.mFrameV d.uvStep ((d.width + 1) / 2) 0
      ⟨d.mCurrentFrame, d.mFrameU, d.mFrameV⟩ := ⟨by simp, by simp⟩
  obtain ⟨hlocated, hy, hx⟩ := mem_scanRows hstart hstart h
  rw [hpairs] at hlocated
  exact ⟨hlocated, by omega, by omega⟩

theorem mem_squareRows {x pairs : ℕ} {color : YUVPixel} {rows y Ypos : ℕ} {v : Visit YUVPixel}
    (hoffset : 0 < pairs → ∀ row, row < y + rows →
      d.squareOffset x row = ((row / 2 * (d.width / 2) + x / 2) * d.uvStep : ℕ))
    (h : v ∈ d.squareRows x pairs color rows y Ypos) :
    v.Located d.mFrameU d.mFrameV d.uvStep (d.width / 2) ∧ v.y < y + rows ∧
      ∃ k < pairs, v.x = x + 2 * k := by
  induction rows generalizing y Ypos with
  | zero => simp [FakeDevice.squareRows] at h
  | succ rows ih =>
    rcases List.mem_append.mp h with hrow | hrest
    · obtain ⟨k, hk, hx, hy, hU, hV⟩ := mem_scanRow hrow
      have hhalf : v.x / 2 = x / 2 + k := by omega
      simp only [hoffset (Nat.zero_lt_of_lt hk) y (by omega), pointer_natCast] at hU hV
      refine ⟨⟨?_, ?_⟩, by omega, k, hk, hx⟩
      · rw [hU, hy, hhalf]
        ring
      · rw [hV, hy, hhalf]
        ring
    · obtain ⟨hlocated, hy, hx⟩ := ih (fun hpos row hrow => hoffset hpos row (by omega)) hrest
      exact ⟨hlocated, by omega, hx⟩

theorem PlanesReady.square (ready : PlanesReady d) {t : Tuning} {x y size : ℕ}
    {color : YUVPixel} {v : Visit YUVPixel} (h : v ∈ d.squareVisits t x y size color) :
    Drawn d v := by
  have hne : min d.height (y + size) - y ≠ 0 := by
    intro hzero
    simp [FakeDevice.squareVisits, hzero, FakeDevice.squareRows] at h
  obtain ⟨hlocated, hy, k, hk, hx⟩ := mem_squareRows (fun hpos row hrow =>
    FakeDevice.squareOffset_eq ready.step ready.inRow ready.pixels (by omega) (by omega)) h
  exact ⟨hlocated, by omega, by omega⟩

theorem PlanesReady.drawCheckerboard (ready : PlanesReady d) {t : Tuning} {v : Visit YUVPixel}
    (h : v ∈ (d.drawCheckerboard t).2) : Drawn d v := by
  unfold FakeDevice.drawCheckerboard at h
  split at h
  · cases h
  · rcases List.mem_append.mp h with hboard | hsquare
    · exact drawn_checkerboard ready.even hboard
    · exact ready.square hsquare

end Drawing

structure StartedInv (s : FrameState) : Prop where
  preview : s.device.previewVisits = some (yuv420SVisits s.device.mCurrentFrame s.device.mFrameU
    s.device.mFrameV s.device.uvStep s.device.width s.device.height)
  ready : PlanesReady s.device
  drawn : ∀ v ∈ s.drawn, Drawn s.device v

section Runs
variable {s s' : FrameState}

theorem StartedInv.draw (inv : StartedInv s) (t : Tuning) :
    StartedInv ⟨(s.device.drawCheckerboard t).1, s.drawn ++ (s.device.drawCheckerboard t).2⟩ := by
  have hdrawn : ∀ v ∈ s.drawn ++ (s.device.drawCheckerboard t).2, Drawn s.device v := by
    intro v hv
    rcases List.mem_append.mp hv with hold | hnew
    · exact inv.drawn v hold
    · exact inv.ready.drawCheckerboard hnew
  revert hdrawn
  unfold FakeDevice.drawCheckerboard
  split
  · exact fun hdrawn => ⟨inv.preview, inv.ready, hdrawn⟩
  · exact fun hdrawn => ⟨inv.preview, ⟨inv.ready.step, inv.ready.inRow, inv.ready.even,
      inv.ready.pixels⟩, hdrawn⟩

theorem StartedInv.agrees (inv : StartedInv s) : LayoutAgrees s := by
  intro _
  refine ⟨_, inv.preview, fun w hw => ?_⟩
  obtain ⟨hlocated, hx, hy⟩ := inv.drawn w hw
  constructor
  · obtain ⟨r, hr, hrx, hry⟩ := @exists_yuv420SVisits s.device.mCurrentFrame _ _ s.device.mFrameU
      s.device.mFrameV s.device.uvStep w.x w.y inv.ready.even hx hy
    exact ⟨r, hr, hrx.symm, by rw [hry]⟩
  · intro r hr hblock
    exact hlocated.same_bytes (yuv420SVisits_located inv.ready.even hr) hblock

theorem FakeDevice.setPlanes_ready {d d' : FakeDevice} (h : d.setPlanes = some d') :
    d'.mUVStep = 1 ∨ d'.mUVStep = 2 := by
  unfold FakeDevice.setPlanes at h
  split at h
  · cases h
    exact .inl rfl
  · cases h
    exact .inl rfl
  · cases h
    exact .inr rfl
  · cases h
    exact .inr rfl
  · cases h

theorem quarter_toInt (width height : Int32) :
    (width * height / 4).toInt = (pixTotal width height).tdiv 4 := by
  rw [Int32.toInt_div_of_ne_right _ _ (by decide)]
  rfl

theorem pointer_pointer {frame : ℕ} {total offset : ℤ} (htotal : 0 ≤ total) :
    pointer (pointer frame total) offset = pointer frame (total + offset) := by
  unfold pointer
  congr 1
  omega

theorem previewVisits_started {d d' : FakeDevice} {width height fps : Int32} {frame : ℕ}
    {pixFmt : V4l2Format} (hplanes : (d.cacheFrame width height pixFmt fps frame).setPlanes =
      some d') (hframe : frame ≠ 0) (hsize : 0 ≤ frameBufferSize width height)
    (htotal : 0 ≤ pixTotal width height)
    (hU : pixFmt = .yvu420 → d.mFrameU = pointer frame (pixTotal width height)) :
    ({ d' with mUVInRow := width / 2 * d'.mUVStep, mState := .started } :
        FakeDevice).previewVisits =
      some (yuv420SVisits d'.mCurrentFrame d'.mFrameU d'.mFrameV d'.uvStep d'.width
        d'.height) := by
  have hallocated : allocate (frameBufferSize width height) frame = frame :=
    if_neg (Int32.not_lt.mpr hsize)
  have hquarter := quarter_toInt width height
  have hpixels : (width * height).toInt = pixTotal width height := rfl
  cases pixFmt with
  | other => cases hplanes
  | yvu420 =>
    cases hplanes
    simp only [FakeDevice.previewVisits, FakeDevice.isStarted, FakeDevice.cacheFrame, decide_true,
      Bool.true_eq_false, if_false, hallocated, hframe, hU rfl, hpixels, hquarter,
      pointer_pointer htotal]
    rfl
  | yuv420 | nv21 | nv12 =>
    cases hplanes
    simp only [FakeDevice.previewVisits, FakeDevice.isStarted, FakeDevice.cacheFrame, decide_true,
      Bool.true_eq_false, if_false, hallocated, hframe, hpixels, hquarter]
    rfl

theorem startedInv_startDevice {width height fps : Int32} {frame : ℕ} {pixFmt : V4l2Format}
    (hfit : fitAndSet s (.startDevice width height pixFmt fps frame))
    (hok : (s.device.startDevice width height pixFmt fps frame).2 = .noError) :
    StartedInv ⟨(s.device.startDevice width height pixFmt fps frame).1, []⟩ := by
  obtain ⟨⟨hw, hh, hweven, -, hfits⟩, hplane⟩ := hfit
  obtain ⟨-, hsize, hframe, d', hplanes, hdevice⟩ := FakeDevice.startDevice_noError hok
  obtain ⟨U, V, step, hd'⟩ := FakeDevice.setPlanes_eq hplanes
  have hproduct : 0 < width.toInt * height.toInt := mul_pos hw hh
  have htotal : pixTotal width height = width.toInt * height.toInt :=
    IntArithmetic.toInt_mul_of_fits (by omega) (by omega)
  have hstep := FakeDevice.setPlanes_ready hplanes
  rw [hdevice]
  refine ⟨previewVisits_started hplanes hframe hsize (by omega) ?_, ⟨hstep, ?_, ?_, ?_⟩, by simp⟩
  · rintro rfl
    exact hplane
  · rw [hd']
    rfl
  · have hwidth : d'.width = width.toInt.toNat := by rw [hd']; rfl
    change d'.width % 2 = 0
    omega
  · have hwidth : d'.width = width.toInt.toNat := by rw [hd']; rfl
    have hheight : d'.height = height.toInt.toNat := by rw [hd']; rfl
    change d'.width * d'.height < 2 ^ 31
    rw [hwidth, hheight]
    zify
    rw [Int.toNat_of_nonneg hw.le, Int.toNat_of_nonneg hh.le]
    omega

theorem startedInv_step {a : DeviceAction} {es : List DeviceStatus}
    (inv : s.device.isStarted = true → StartedInv s) (hok : fitAndSet s a)
    (h : frameMachine.step s a = some (s', es)) (hstarted : s'.device.isStarted = true) :
    StartedInv s' := by
  cases a with
  | connectDevice =>
    obtain ⟨rfl, -⟩ := Prod.mk.inj (Option.some.inj h)
    simp only [FakeDevice.connectDevice] at hstarted ⊢
    split_ifs at hstarted ⊢ with hconstructed hconnected
    · exact inv hstarted
    · exact inv hstarted
    · cases hstarted
  | disconnectDevice =>
    obtain ⟨rfl, -⟩ := Prod.mk.inj (Option.some.inj h)
    simp only [FakeDevice.disconnectDevice] at hstarted ⊢
    split_ifs at hstarted ⊢ with hconnected hstart
    · exact inv hstarted
    · exact inv hstarted
    · cases hstarted
  | startDevice width height pixFmt fps frame =>
    obtain ⟨rfl, -⟩ := Prod.mk.inj (Option.some.inj h)
    by_cases hres : (s.device.startDevice width height pixFmt fps frame).2 = .noError
    · rw [if_pos hres]
      exact startedInv_startDevice hok hres
    · rw [if_neg hres]
      cases hold : s.device.isStarted with
      | false =>
        rw [FakeDevice.startDevice_failed hold hres] at hstarted
        cases hstarted
      | true =>
        have hsame : (s.device.startDevice width height pixFmt fps frame).1 = s.device := by
          have hconnected : s.device.isConnected = true := by
            simp only [FakeDevice.isStarted, decide_eq_true_eq] at hold
            simp [FakeDevice.isConnected, hold]
          simp [FakeDevice.startDevice, hconnected, hold]
        rw [hsame]
        exact inv hold
  | stopDevice =>
    obtain ⟨rfl, -⟩ := Prod.mk.inj (Option.some.inj h)
    rw [FakeDevice.stopDevice_isStarted] at hstarted
    cases hstarted
  | drawCheckerboard t =>
    simp only [frameMachine] at h
    split_ifs at h with hstart
    obtain ⟨rfl, -⟩ := Prod.mk.inj (Option.some.inj h)
    exact (inv hstart).draw t

theorem preview_reads_drawn {u v : ℕ} {tr : List DeviceStatus}
    (run : frameMachine.Run fitAndSet { device := { mFrameU := u, mFrameV := v } } tr s) :
    LayoutAgrees s := by
  have hinv : s.device.isStarted = true → StartedInv s := by
    refine run.invariant (P := fun _ s => s.device.isStarted = true → StartedInv s) ?_ ?_
    · intro h
      cases h
    · intro tr es s s' a inv hok hstep
      exact startedInv_step inv hok hstep
  intro hstarted
  exact (hinv hstarted).agrees hstarted

end Runs

def plain : Tuning := ⟨id, id⟩

theorem preview_reads_drawn_restarted :
    ∃ tr s, frameMachine.Run fitAndSet { device := { mFrameU := 3, mFrameV := 5 } } tr s ∧
      (s.device.isStarted = true ∧ s.device.mPixelFormat = .yuv420 ∧ s.drawn ≠ []) ∧
      LayoutAgrees s := by
  obtain ⟨tr, s, run, hdrawn⟩ := Machine.run_of_exec frameMachine fitAndSet
    { device := { mFrameU := 3, mFrameV := 5 } }
    [.connectDevice, .startDevice 12 4 .nv21 24 1000, .drawCheckerboard plain, .stopDevice,
      .startDevice 10 2 .yuv420 24 5000, .drawCheckerboard plain, .drawCheckerboard plain]
    (fun s _ => s.device.isStarted = true ∧ s.device.mPixelFormat = .yuv420 ∧ s.drawn ≠ [])
    (by decide +kernel)
  exact ⟨tr, s, run, hdrawn, preview_reads_drawn run⟩

/-- After a stop the U plane of a `YVU420` frame begins a quarter frame behind NULL. -/
theorem yvu420_draws_elsewhere :
    ∃ tr s, frameMachine.Run framesFit { device := { mFrameU := 3, mFrameV := 5 } } tr s ∧
      ¬ LayoutAgrees s := by
  obtain ⟨tr, s, run, hstarted, reads, hreads, w, hw, r, hr, hblock, hne⟩ : ∃ tr s,
      frameMachine.Run framesFit { device := { mFrameU := 3, mFrameV := 5 } } tr s ∧
        s.device.isStarted = true ∧ ∃ reads ∈ s.device.previewVisits, ∃ w ∈ s.drawn,
          ∃ r ∈ reads, SameBlock w r ∧ w.cursor.U ≠ r.cursor.U :=
    Machine.run_of_exec frameMachine framesFit { device := { mFrameU := 3, mFrameV := 5 } }
      [.connectDevice, .startDevice 10 2 .yuv420 24 1000, .drawCheckerboard plain, .stopDevice,
        .startDevice 10 2 .yvu420 24 1000, .drawCheckerboard plain]
      (fun s _ => s.device.isStarted = true ∧ ∃ reads ∈ s.device.previewVisits,
        ∃ w ∈ s.drawn, ∃ r ∈ reads, SameBlock w r ∧ w.cursor.U ≠ r.cursor.U) (by decide +kernel)
  refine ⟨tr, s, run, fun hagrees => ?_⟩
  obtain ⟨reads', hreads', hall⟩ := hagrees hstarted
  have hsame : reads = reads' := Option.some.inj (hreads.symm.trans hreads')
  subst hsame
  exact hne ((hall w hw).2 r hr hblock).1

end Rpi3Device.Camera1
