import Mathlib.Tactic
import Rpi3Device.Camera1.FrameLayout
import Rpi3Device.Camera1.PreviewControl
import Rpi3Device.IntArithmetic

/-!
# Where the fake HAL1 camera device draws

The checkerboard and the square are drawn in pairs of pixels, with two bytes of the Y plane
and one of each colour plane for a pair. The framebuffer and its planes are sized with
`int`s and divisions that round down, the pairs of a frame are counted by rounding up.
The counters that move the drawing go on from frame to frame and wrap around; all their
values are considered.
-/

namespace Rpi3Device.Camera1
open IntArithmetic PlaneScan TransitionSystem

def FakeDevice.atFrame (d : FakeDevice) (checkX checkY ccounter : Int32) : FakeDevice :=
  { d with mCheckX := checkX, mCheckY := checkY, mCcounter := ccounter }

def written {α : Type*} (v : Visit α) : List ℕ :=
  [v.cursor.Y, v.cursor.Y + 1, v.cursor.U, v.cursor.V]

def InBuffer (d : FakeDevice) (a : ℕ) : Prop :=
  d.mCurrentFrame ≤ a ∧ a < d.mCurrentFrame + d.mFrameBufferSize.toNatClampNeg

def Between (d : FakeDevice) (first last : ℤ) (a : ℕ) : Prop :=
  d.mCurrentFrame + first ≤ a ∧ a < d.mCurrentFrame + last

/-- The chroma bytes of a pair lie in the U plane and in the V plane, or both in the plane of
NV21. -/
def InPlanes {α : Type*} (d : FakeDevice) (v : Visit α) : Prop :=
  let total := d.mTotalPixels.toInt
  let quarter := (d.mTotalPixels / 4).toInt
  if d.mPixelFormat = .yuv420 then
    Between d total (total + quarter) v.cursor.U ∧
      Between d (total + quarter) (total + 2 * quarter) v.cursor.V
  else
    Between d total (total + 2 * quarter) v.cursor.U ∧
      Between d total (total + 2 * quarter) v.cursor.V

def DrawingInside (d : FakeDevice) : Prop :=
  ∀ (checkX checkY ccounter : Int32) (t : Tuning),
    ∀ v ∈ ((d.atFrame checkX checkY ccounter).drawCheckerboard t).2,
      (∀ a ∈ written v, InBuffer d a) ∧ InPlanes d v

section Product
variable {w h : Int32}

theorem tdiv_eight (m : ℤ) : m - 7 ≤ 8 * m.tdiv 8 ∧ 8 * m.tdiv 8 ≤ m + 7 := by
  have hsum := Int.tdiv_mul_add_tmod m 8
  have hlow := Int.lt_tmod_of_pos m (show (0 : ℤ) < 8 by norm_num)
  have hhigh := Int.tmod_lt_of_pos m (show (0 : ℤ) < 8 by norm_num)
  omega

theorem product_wraps (w h : Int32) : ∃ k, (w * h).toInt = w.toInt * h.toInt - 2 ^ 32 * k := by
  rw [Int32.toInt_mul, Int.bmod_eq_self_sub_mul_bdiv]
  exact ⟨_, rfl⟩

theorem frameBufferSize_toInt (w h : Int32) :
    (frameBufferSize w h).toInt = (w * h * 12).toInt.tdiv 8 := by
  rw [frameBufferSize, Int32.toInt_div_of_ne_right _ _ (by decide)]
  rfl

theorem frameBufferSize_fits (hw : 0 < w.toInt) (hh : 0 < h.toInt)
    (hfits : 12 * (w.toInt * h.toInt) < 2 ^ 31) :
    (w * h).toInt = w.toInt * h.toInt ∧
      8 * (frameBufferSize w h).toInt ≤ 12 * (w.toInt * h.toInt) ∧
      12 * (w.toInt * h.toInt) ≤ 8 * (frameBufferSize w h).toInt + 7 := by
  have hpos : 0 < w.toInt * h.toInt := mul_pos hw hh
  have htotal : (w * h).toInt = w.toInt * h.toInt := toInt_mul_of_fits (by omega) (by omega)
  have htwelve : (w * h * 12).toInt = 12 * (w.toInt * h.toInt) := by
    have hproduct : (w * h).toInt * (12 : Int32).toInt = 12 * (w.toInt * h.toInt) := by
      rw [htotal, mul_comm]
      rfl
    rw [toInt_mul_of_fits (by omega) (by omega), hproduct]
  have height := tdiv_eight (w * h * 12).toInt
  have hnonneg : 0 ≤ (w * h * 12).toInt := by omega
  have hexact : (w * h * 12).toInt.tdiv 8 = (w * h * 12).toInt / 8 :=
    Int.tdiv_eq_ediv_of_nonneg hnonneg
  rw [frameBufferSize_toInt, hexact, htwelve]
  exact ⟨htotal, by omega, by omega⟩

theorem frameBufferSize_overflows (hlarge : 2 ^ 31 ≤ 12 * (w.toInt * h.toInt))
    (hsize : 0 ≤ (frameBufferSize w h).toInt) :
    (frameBufferSize w h).toInt < w.toInt * h.toInt := by
  obtain ⟨k, hk⟩ := product_wraps w h
  obtain ⟨l, hl⟩ := product_wraps (w * h) 12
  have htwelve : (12 : Int32).toInt = 12 := by decide
  obtain ⟨m, hm⟩ : ∃ m, (w * h * 12).toInt = 12 * (w.toInt * h.toInt) - 2 ^ 32 * m := by
    refine ⟨12 * k + l, ?_⟩
    rw [hl, htwelve, hk]
    ring
  have height := tdiv_eight (w * h * 12).toInt
  have hlow := Int32.le_toInt (w * h * 12)
  have hhigh := Int32.toInt_lt (w * h * 12)
  rw [frameBufferSize_toInt] at hsize ⊢
  have hpos : 1 ≤ m := by omega
  omega

end Product

def PlanesSet (d : FakeDevice) : Prop :=
  let total := d.mTotalPixels.toInt
  let quarter := (d.mTotalPixels / 4).toInt
  (d.mPixelFormat = .yuv420 ∧ d.mFrameU = pointer d.mCurrentFrame total ∧
      d.mFrameV = pointer d.mCurrentFrame (total + quarter) ∧ d.mUVStep = 1) ∨
    (d.mPixelFormat = .nv21 ∧ d.mFrameU = pointer d.mCurrentFrame (total + 1) ∧
      d.mFrameV = pointer d.mCurrentFrame total ∧ d.mUVStep = 2)

structure StartedWith (w h : Int32) (d : FakeDevice) : Prop where
  width : d.mFrameWidth = w
  height : d.mFrameHeight = h
  total : d.mTotalPixels = w * h
  size : d.mFrameBufferSize = frameBufferSize w h
  allocated : 0 ≤ (frameBufferSize w h).toInt
  planes : PlanesSet d
  inRow : d.mUVInRow = w / 2 * d.mUVStep

theorem startDevice_startedWith {d : FakeDevice} {w h fps : Int32} {pixFmt : V4l2Format}
    {frame : ℕ} (hformat : pixFmt = .yuv420 ∨ pixFmt = .nv21)
    (hok : (d.startDevice w h pixFmt fps frame).2 = .noError) :
    StartedWith w h (d.startDevice w h pixFmt fps frame).1 := by
  obtain ⟨-, hsize, -, d', hplanes, hdevice⟩ := FakeDevice.startDevice_noError hok
  have hnonneg : 0 ≤ (frameBufferSize w h).toInt := Int32.le_iff_toInt_le.mp hsize
  rw [hdevice]
  rcases hformat with rfl | rfl
  · cases hplanes
    exact ⟨rfl, rfl, rfl, rfl, hnonneg, Or.inl ⟨rfl, rfl, rfl, rfl⟩, rfl⟩
  · cases hplanes
    exact ⟨rfl, rfl, rfl, rfl, hnonneg, Or.inr ⟨rfl, rfl, rfl, rfl⟩, rfl⟩

theorem previewV4l2Format_cases {text : String} {fmt : V4l2Format}
    (h : previewV4l2Format text = some fmt) :
    fmt = .yuv420 ∨ fmt = .nv21 ∨ fmt = rgb32Format := by
  unfold previewV4l2Format at h
  split_ifs at h <;> cases h <;> simp

theorem startPreviewDevice_startedWith {lib : PreviewParameters} {c : Controller}
    {o : StartOutcome} (hok : (c.startPreviewDevice lib o).2 = .noError) :
    StartedWith (previewFrameSize lib c.mParameters).1 (previewFrameSize lib c.mParameters).2
      (c.startPreviewDevice lib o).1.device := by
  unfold Controller.startPreviewDevice at hok ⊢
  split
  · next hformat =>
    rw [hformat] at hok
    cases hok
  · next orgFmt hformat =>
    rw [hformat] at hok
    simp only at hok ⊢
    split at hok
    · next hfailed => exact absurd hok hfailed
    · next hstarted =>
      rw [if_neg hstarted]
      obtain ⟨hfour, -⟩ := FakeDevice.startDevice_noError (not_not.mp hstarted)
      obtain ⟨text, -, htext⟩ := Option.bind_eq_some_iff.mp hformat
      have hplanar : orgFmt = .yuv420 ∨ orgFmt = .nv21 := by
        rcases previewV4l2Format_cases htext with hyuv | hnv | hrgb
        · exact Or.inl hyuv
        · exact Or.inr hnv
        · simp [hrgb, rgb32Format, framebufferFormats] at hfour
      split at hok
      · next hthread =>
        rw [if_pos hthread]
        exact startDevice_startedWith hplanar (not_not.mp hstarted)
      · cases hok

theorem stopRunning_params (c : Controller) : c.stopRunning.mParameters = c.mParameters := by
  unfold Controller.stopRunning
  split <;> rfl

theorem connect_params (c : Controller) : c.connect.1.mParameters = c.mParameters := by
  unfold Controller.connect
  split <;> rfl

theorem doStartPreview_startedWith {lib : PreviewParameters} {c : Controller} {o : StartOutcome}
    (hok : (c.doStartPreview lib o).2 = .noError) :
    StartedWith (previewFrameSize lib c.mParameters).1 (previewFrameSize lib c.mParameters).2
      (c.doStartPreview lib o).1.device := by
  unfold Controller.doStartPreview at hok ⊢
  simp only at hok ⊢
  split at hok
  · next hfailed => exact absurd hok hfailed
  · next hconnected =>
    rw [if_neg hconnected]
    have hstarted := startPreviewDevice_startedWith hok
    rw [connect_params] at hstarted
    simpa only [stopRunning_params] using hstarted

section Drawing
variable {d : FakeDevice} {t : Tuning} {v : Visit YUVPixel}

theorem checkerboard_luma (heven : d.width % 2 = 0) (h : v ∈ d.checkerboardVisits t) :
    v.cursor.Y = d.mCurrentFrame + (v.y * d.width + v.x) := by
  have hpairs : 2 * ((d.width + 1) / 2) = d.width := by omega
  have hluma := scanRows_luma h
  rw [hpairs] at hluma
  dsimp only at hluma
  omega

theorem squareRows_luma {x pairs : ℕ} {color : YUVPixel} {rows y Ypos : ℕ}
    (h : v ∈ d.squareRows x pairs color rows y Ypos) :
    v.cursor.Y + (y * d.width + x) = Ypos + (v.y * d.width + v.x) := by
  induction rows generalizing y Ypos with
  | zero => simp [FakeDevice.squareRows] at h
  | succ rows ih =>
    rcases List.mem_append.mp h with hrow | hrest
    · have hluma := scanRow_luma hrow
      obtain ⟨k, -, -, hy, -⟩ := mem_scanRow hrow
      dsimp only at hluma
      rw [hy]
      omega
    · have hluma := ih hrest
      rw [Nat.succ_mul] at hluma
      omega

theorem PlanesReady.luma (ready : PlanesReady d) (h : v ∈ (d.drawCheckerboard t).2) :
    v.cursor.Y = d.mCurrentFrame + (v.y * d.width + v.x) := by
  unfold FakeDevice.drawCheckerboard at h
  split at h
  · cases h
  · rcases List.mem_append.mp h with hboard | hsquare
    · exact checkerboard_luma ready.even hboard
    · have hluma := squareRows_luma hsquare
      omega

theorem checkerboard_drawn (hsize : ¬d.mFrameWidth / 10 = 0) (h : v ∈ d.checkerboardVisits t) :
    v ∈ (d.drawCheckerboard t).2 := by
  unfold FakeDevice.drawCheckerboard
  rw [if_neg hsize]
  exact List.mem_append_left _ h

theorem exists_last_pair (d : FakeDevice) (t : Tuning) (hwidth : 0 < d.width)
    (hheight : 0 < d.height) :
    ∃ v ∈ d.checkerboardVisits t,
      let pairs := (d.width + 1) / 2
      let i := (d.height - 1) / 2 * pairs + (pairs - 1)
      v.cursor.Y + 2 = d.mCurrentFrame + d.height * (2 * pairs) ∧
        v.cursor.U = d.mFrameU + i * d.uvStep ∧ v.cursor.V = d.mFrameV + i * d.uvStep := by
  have hk : (d.width + 1) / 2 - 1 < (d.width + 1) / 2 := by omega
  have hrow : d.height - 1 < d.height := by omega
  obtain ⟨v, hv, hx, hy⟩ : ∃ v ∈ d.checkerboardVisits t,
      v.x = 2 * ((d.width + 1) / 2 - 1) ∧ v.y = 0 + (d.height - 1) :=
    exists_mem_scanRows hk hrow _ _ _
  have hstart : AtRow d.mFrameU d.mFrameV d.uvStep ((d.width + 1) / 2) 0
      ⟨d.mCurrentFrame, d.mFrameU, d.mFrameV⟩ := ⟨by simp, by simp⟩
  obtain ⟨hU, hV⟩ := (mem_scanRows hstart hstart hv).1
  have hluma := scanRows_luma hv
  have hhalf : v.x / 2 = (d.width + 1) / 2 - 1 := by omega
  have hlast : v.y = d.height - 1 := by omega
  rw [hhalf, hlast] at hU hV
  obtain ⟨rows, hrows⟩ : ∃ rows, d.height = rows + 1 := ⟨d.height - 1, by omega⟩
  refine ⟨v, hv, ?_, hU, hV⟩
  dsimp only at hluma
  rw [hlast, hx, hrows] at hluma
  rw [hrows, Nat.succ_mul]
  simp only [Nat.add_sub_cancel] at hluma
  omega

end Drawing

section Sizes
variable {w h : Int32} {d : FakeDevice}

theorem toInt_of_pos (hw : 0 < w.toInt) : w.toInt = w.toNatClampNeg :=
  (Int.toNat_of_nonneg hw.le).symm

theorem tenth_eq_zero_iff (hw : 0 < w.toInt) : w / 10 = 0 ↔ w.toInt < 10 := by
  have hW := toInt_of_pos hw
  rw [← Int32.toInt_inj, toInt_div_natCast (b := 10) hW rfl, Int32.toInt_zero]
  omega

structure EvenPlanes (w h : Int32) (d : FakeDevice) (blocks : ℕ) : Prop where
  blocks_eq : blocks = w.toNatClampNeg / 2 * (h.toNatClampNeg / 2)
  pixels : w.toNatClampNeg * h.toNatClampNeg = 4 * blocks
  total : d.mTotalPixels.toInt = 4 * blocks
  quarter : (d.mTotalPixels / 4).toInt = blocks
  size : d.mFrameBufferSize.toNatClampNeg = 6 * blocks

theorem StartedWith.evenPlanes (hs : StartedWith w h d) (hw : 0 < w.toInt) (hh : 0 < h.toInt)
    (hweven : w.toInt % 2 = 0) (hheven : h.toInt % 2 = 0)
    (hfits : 12 * (w.toInt * h.toInt) < 2 ^ 31) :
    EvenPlanes w h d (w.toNatClampNeg / 2 * (h.toNatClampNeg / 2)) := by
  have hW := toInt_of_pos hw
  have hH := toInt_of_pos hh
  obtain ⟨a, ha⟩ : ∃ a, w.toNatClampNeg = 2 * a := ⟨w.toNatClampNeg / 2, by omega⟩
  obtain ⟨b, hb⟩ : ∃ b, h.toNatClampNeg = 2 * b := ⟨h.toNatClampNeg / 2, by omega⟩
  have hblocks : w.toNatClampNeg / 2 * (h.toNatClampNeg / 2) = a * b := by
    rw [ha, hb, Nat.mul_div_cancel_left a two_pos, Nat.mul_div_cancel_left b two_pos]
  have hpixels : w.toNatClampNeg * h.toNatClampNeg = 4 * (a * b) := by
    rw [ha, hb]
    ring
  obtain ⟨htotal, hbelow, habove⟩ := frameBufferSize_fits hw hh hfits
  have hproduct : w.toInt * h.toInt = 4 * (a * b : ℕ) := by
    rw [hW, hH, ← Nat.cast_mul, hpixels]
    push_cast
    ring
  rw [hproduct] at htotal hbelow habove
  rw [hblocks]
  refine ⟨hblocks.symm, hpixels, by rw [hs.total, htotal], ?_, ?_⟩
  · rw [hs.total, toInt_div_natCast (a := 4 * (a * b)) (b := 4) htotal rfl,
      Nat.mul_div_cancel_left _ four_pos]
  · rw [hs.size]
    have hsize : (frameBufferSize w h).toInt = 6 * (a * b : ℕ) := by omega
    change (frameBufferSize w h).toInt.toNat = _
    omega

theorem StartedWith.step (hs : StartedWith w h d) : d.mUVStep = 1 ∨ d.mUVStep = 2 := by
  rcases hs.planes with hyuv | hnv
  · exact .inl hyuv.2.2.2
  · exact .inr hnv.2.2.2

theorem StartedWith.ready (hs : StartedWith w h d) (hw : 0 < w.toInt) (hh : 0 < h.toInt)
    (hweven : w.toInt % 2 = 0) (hfits : w.toInt * h.toInt < 2 ^ 31)
    (checkX checkY ccounter : Int32) : PlanesReady (d.atFrame checkX checkY ccounter) := by
  have hW := toInt_of_pos hw
  have hH := toInt_of_pos hh
  have hwidth : (d.atFrame checkX checkY ccounter).width = w.toNatClampNeg :=
    congrArg Int32.toNatClampNeg hs.width
  have hheight : (d.atFrame checkX checkY ccounter).height = h.toNatClampNeg :=
    congrArg Int32.toNatClampNeg hs.height
  refine ⟨hs.step, ?_, ?_, ?_⟩
  · change d.mUVInRow = d.mFrameWidth / 2 * d.mUVStep
    rw [hs.inRow, hs.width]
  · rw [hwidth]
    omega
  · rw [hwidth, hheight]
    rw [hW, hH] at hfits
    exact_mod_cast hfits

theorem EvenPlanes.block_lt {n x y : ℕ} (hp : EvenPlanes w h d n)
    (hweven : w.toNatClampNeg % 2 = 0) (hheven : h.toNatClampNeg % 2 = 0)
    (hx : x < w.toNatClampNeg) (hy : y < h.toNatClampNeg) :
    y / 2 * (w.toNatClampNeg / 2) + x / 2 < n := by
  have hx' : x / 2 < w.toNatClampNeg / 2 := by omega
  have hy' : y / 2 + 1 ≤ h.toNatClampNeg / 2 := by omega
  rw [hp.blocks_eq]
  calc y / 2 * (w.toNatClampNeg / 2) + x / 2 < (y / 2 + 1) * (w.toNatClampNeg / 2) := by
        rw [Nat.succ_mul]
        omega
    _ ≤ h.toNatClampNeg / 2 * (w.toNatClampNeg / 2) := Nat.mul_le_mul_right _ hy'
    _ = w.toNatClampNeg / 2 * (h.toNatClampNeg / 2) := Nat.mul_comm ..

theorem EvenPlanes.inside {n : ℕ} (hp : EvenPlanes w h d n) (hs : StartedWith w h d)
    (hweven : w.toNatClampNeg % 2 = 0) (hheven : h.toNatClampNeg % 2 = 0) {α : Type*}
    {v : Visit α} (hx : v.x < w.toNatClampNeg) (hy : v.y < h.toNatClampNeg)
    (hluma : v.cursor.Y = d.mCurrentFrame + (v.y * w.toNatClampNeg + v.x))
    (hlocated : v.Located d.mFrameU d.mFrameV d.uvStep (w.toNatClampNeg / 2)) :
    (∀ a ∈ written v, InBuffer d a) ∧ InPlanes d v := by
  have hblock := hp.block_lt hweven hheven hx hy
  obtain ⟨hU, hV⟩ := hlocated
  set i := v.y / 2 * (w.toNatClampNeg / 2) + v.x / 2
  have hpixel : v.y * w.toNatClampNeg + v.x < 4 * n := by
    rw [← hp.pixels]
    nlinarith
  have htotal := hp.total
  have hquarter := hp.quarter
  have hsize := hp.size
  rcases hs.planes with hyuv | hnv
  · obtain ⟨hformat, hUbase, hVbase, hstep⟩ := hyuv
    have hone : d.uvStep = 1 := congrArg Int32.toNatClampNeg hstep
    simp only [pointer, htotal, hquarter] at hUbase hVbase
    rw [hone, Nat.mul_one] at hU hV
    constructor
    · intro a ha
      simp only [written, List.mem_cons, List.not_mem_nil, or_false] at ha
      unfold InBuffer
      omega
    · simp only [InPlanes, if_pos hformat, Between, htotal, hquarter]
      omega
  · obtain ⟨hformat, hUbase, hVbase, hstep⟩ := hnv
    have htwo : d.uvStep = 2 := congrArg Int32.toNatClampNeg hstep
    have hnot : ¬d.mPixelFormat = .yuv420 := by simp [hformat]
    simp only [pointer, htotal] at hUbase hVbase
    rw [htwo] at hU hV
    constructor
    · intro a ha
      simp only [written, List.mem_cons, List.not_mem_nil, or_false] at ha
      unfold InBuffer
      omega
    · simp only [InPlanes, if_neg hnot, Between, htotal, hquarter]
      omega

theorem StartedWith.inside_of_even (hs : StartedWith w h d) (hw : 0 < w.toInt) (hh : 0 < h.toInt)
    (hweven : w.toInt % 2 = 0) (hheven : h.toInt % 2 = 0)
    (hfits : 12 * (w.toInt * h.toInt) < 2 ^ 31) : DrawingInside d := by
  have hp := hs.evenPlanes hw hh hweven hheven hfits
  have hW := toInt_of_pos hw
  have hH := toInt_of_pos hh
  have hweven' : w.toNatClampNeg % 2 = 0 := by omega
  have hheven' : h.toNatClampNeg % 2 = 0 := by omega
  have hpos : 0 < w.toInt * h.toInt := mul_pos hw hh
  intro checkX checkY ccounter t v hv
  have hready := hs.ready hw hh hweven (by omega) checkX checkY ccounter
  have hwidth : (d.atFrame checkX checkY ccounter).width = w.toNatClampNeg :=
    congrArg Int32.toNatClampNeg hs.width
  have hheight : (d.atFrame checkX checkY ccounter).height = h.toNatClampNeg :=
    congrArg Int32.toNatClampNeg hs.height
  obtain ⟨hlocated, hx, hy⟩ := hready.drawCheckerboard hv
  have hluma := hready.luma hv
  rw [hwidth] at hlocated hx hluma
  rw [hheight] at hy
  exact hp.inside hs hweven' hheven' hx hy hluma hlocated

theorem even_of_blocks_le {W H : ℕ} (hW : 0 < W) (hH : 0 < H)
    (h : 4 * (((H - 1) / 2 + 1) * ((W + 1) / 2)) ≤ W * H) : W % 2 = 0 ∧ H % 2 = 0 := by
  have hrows : 2 * ((H - 1) / 2 + 1) = H + H % 2 := by omega
  have hpairs : 2 * ((W + 1) / 2) = W + W % 2 := by omega
  have hle : (H + H % 2) * (W + W % 2) ≤ W * H := by
    rw [← hrows, ← hpairs]
    linarith
  constructor
  · by_contra hodd
    have hone : W % 2 = 1 := by omega
    have hmore : H * (W + 1) ≤ (H + H % 2) * (W + W % 2) :=
      Nat.mul_le_mul (by omega) (by omega)
    rw [Nat.mul_succ, Nat.mul_comm H] at hmore
    omega
  · by_contra hodd
    have hone : H % 2 = 1 := by omega
    have hmore : (H + 1) * W ≤ (H + H % 2) * (W + W % 2) :=
      Nat.mul_le_mul (by omega) (by omega)
    rw [Nat.succ_mul, Nat.mul_comm H] at hmore
    omega

theorem StartedWith.last_pair_inside (hs : StartedWith w h d) (hw : 10 ≤ w.toInt)
    (hh : 0 < h.toInt) (hin : DrawingInside d) :
    let W := w.toNatClampNeg
    let H := h.toNatClampNeg
    let i := (H - 1) / 2 * ((W + 1) / 2) + ((W + 1) / 2 - 1)
    H * (2 * ((W + 1) / 2)) ≤ d.mFrameBufferSize.toNatClampNeg ∧
      ∃ v : Visit YUVPixel, InPlanes d v ∧
        v.cursor.U = d.mFrameU + i * d.uvStep ∧
        v.cursor.V = d.mFrameV + i * d.uvStep := by
  have hW := toInt_of_pos (by omega : 0 < w.toInt)
  have hH := toInt_of_pos hh
  have hwidth : (d.atFrame 0 0 0).width = w.toNatClampNeg :=
    congrArg Int32.toNatClampNeg hs.width
  have hheight : (d.atFrame 0 0 0).height = h.toNatClampNeg :=
    congrArg Int32.toNatClampNeg hs.height
  obtain ⟨v, hv, hluma, hU, hV⟩ := exists_last_pair (d.atFrame 0 0 0) ⟨id, id⟩
    (by omega) (by omega)
  have hsize : ¬(d.atFrame 0 0 0).mFrameWidth / 10 = 0 := by
    change ¬d.mFrameWidth / 10 = 0
    rw [hs.width, tenth_eq_zero_iff (by omega)]
    omega
  obtain ⟨hbuffer, hplanes⟩ := hin 0 0 0 ⟨id, id⟩ v (checkerboard_drawn hsize hv)
  have hlast := (hbuffer (v.cursor.Y + 1) (by simp [written])).2
  rw [hwidth, hheight] at hluma hU hV
  have hframe : (d.atFrame 0 0 0).mCurrentFrame = d.mCurrentFrame := rfl
  exact ⟨by omega, v, hplanes, hU, hV⟩

theorem StartedWith.sizes_of_inside (hs : StartedWith w h d) (hw : 10 ≤ w.toInt)
    (hh : 0 < h.toInt) (hin : DrawingInside d) :
    w.toInt % 2 = 0 ∧ h.toInt % 2 = 0 ∧ 12 * (w.toInt * h.toInt) < 2 ^ 31 := by
  have hW := toInt_of_pos (by omega : 0 < w.toInt)
  have hH := toInt_of_pos hh
  obtain ⟨hbuffer, v, hplanes, hU, hV⟩ := hs.last_pair_inside hw hh hin
  have hproduct : w.toInt * h.toInt = (w.toNatClampNeg * h.toNatClampNeg : ℕ) := by
    rw [hW, hH, Nat.cast_mul]
  have hfits : 12 * (w.toInt * h.toInt) < 2 ^ 31 := by
    by_contra hlarge
    have hsize := frameBufferSize_overflows (not_lt.mp hlarge) hs.allocated
    have hwide : h.toNatClampNeg * w.toNatClampNeg ≤
        h.toNatClampNeg * (2 * ((w.toNatClampNeg + 1) / 2)) :=
      Nat.mul_le_mul_left _ (by omega)
    rw [hs.size] at hbuffer
    have hnonneg : ((frameBufferSize w h).toNatClampNeg : ℤ) = (frameBufferSize w h).toInt :=
      Int.toNat_of_nonneg hs.allocated
    rw [hproduct, mul_comm w.toNatClampNeg] at hsize
    omega
  obtain ⟨htotal, -⟩ := frameBufferSize_fits (by omega) hh hfits
  have hquarter : (d.mTotalPixels / 4).toInt =
      (w.toNatClampNeg * h.toNatClampNeg / 4 : ℕ) := by
    rw [hproduct] at htotal
    rw [hs.total]
    exact toInt_div_natCast (b := 4) htotal rfl
  rw [← hs.total, hproduct] at htotal
  have hblocks : (h.toNatClampNeg - 1) / 2 * ((w.toNatClampNeg + 1) / 2) +
      ((w.toNatClampNeg + 1) / 2 - 1) < w.toNatClampNeg * h.toNatClampNeg / 4 := by
    rcases hs.planes with hyuv | hnv
    · obtain ⟨hformat, hUbase, -, hstep⟩ := hyuv
      have hone : d.uvStep = 1 := congrArg Int32.toNatClampNeg hstep
      simp only [InPlanes, if_pos hformat, Between, htotal, hquarter] at hplanes
      simp only [pointer, htotal] at hUbase
      rw [hone, Nat.mul_one] at hU
      omega
    · obtain ⟨hformat, -, hVbase, hstep⟩ := hnv
      have htwo : d.uvStep = 2 := congrArg Int32.toNatClampNeg hstep
      have hnot : ¬d.mPixelFormat = .yuv420 := by simp [hformat]
      simp only [InPlanes, if_neg hnot, Between, htotal, hquarter] at hplanes
      simp only [pointer, htotal] at hVbase
      rw [htwo] at hV
      omega
  have hrows : ((h.toNatClampNeg - 1) / 2 + 1) * ((w.toNatClampNeg + 1) / 2) =
      (h.toNatClampNeg - 1) / 2 * ((w.toNatClampNeg + 1) / 2) + (w.toNatClampNeg + 1) / 2 :=
    Nat.succ_mul ..
  have heven := even_of_blocks_le (by omega : 0 < w.toNatClampNeg)
    (by omega : 0 < h.toNatClampNeg) (by omega)
  exact ⟨by omega, by omega, hfits⟩

/-- The sizes whose drawing stays inside: narrow frames are not drawn at all. -/
def SizeOk (w h : Int32) : Prop :=
  w.toInt < 10 ∨
    (w.toInt % 2 = 0 ∧ h.toInt % 2 = 0 ∧ 12 * (w.toInt * h.toInt) < 2 ^ 31)

theorem StartedWith.inside_of_narrow (hs : StartedWith w h d) (hpos : 0 < w.toInt)
    (hw : w.toInt < 10) : DrawingInside d := by
  intro checkX checkY ccounter t v hv
  have hsize : (d.atFrame checkX checkY ccounter).mFrameWidth / 10 = 0 := by
    change d.mFrameWidth / 10 = 0
    rw [hs.width, tenth_eq_zero_iff hpos]
    exact hw
  rw [FakeDevice.drawCheckerboard, if_pos hsize] at hv
  cases hv

theorem StartedWith.drawingInside_iff (hs : StartedWith w h d) (hw : 0 < w.toInt)
    (hh : 0 < h.toInt) : DrawingInside d ↔ SizeOk w h := by
  constructor
  · intro hin
    rcases lt_or_ge w.toInt 10 with hnarrow | hwide
    · exact Or.inl hnarrow
    · exact Or.inr (hs.sizes_of_inside hwide hh hin)
  · intro hok
    rcases hok with hnarrow | heven
    · exact hs.inside_of_narrow hw hnarrow
    · exact hs.inside_of_even hw hh heven.1 heven.2.1 heven.2.2

end Sizes
theorem previewSize_pos {lib : CameraParameters} {camera camera' : EmulatedCamera}
    {parms : String} (h : camera.setParameters lib parms = some (noError, camera')) :
    0 < (lib.getPreviewSize camera'.mParameters).1.toInt ∧
      0 < (lib.getPreviewSize camera'.mParameters).2.toInt := by
  have hdefined := EmulatedCamera.setParameters_defined (by rw [h]; rfl)
  by_cases haccepts : Accepts lib (lib.unflatten parms)
  · rw [setParameters_params h]
    have hsize := haccepts.previewSize
    push Not at hsize
    have hw := Int32.lt_iff_toInt_lt.mp (Int32.not_le.mp hsize.1)
    have hh := Int32.lt_iff_toInt_lt.mp (Int32.not_le.mp hsize.2)
    exact ⟨by simpa using hw, by simpa using hh⟩
  · rw [EmulatedCamera.setParameters_rejected hdefined.1 hdefined.2 haccepts] at h
    cases h

/-- After `doStartPreview` has started the device with the accepted preview size. -/
theorem drawing_inside_iff (lib : PreviewParameters) (camera camera' : EmulatedCamera)
    (parms : String)
    (haccept : camera.setParameters lib.toCameraParameters parms = some (noError, camera'))
    (c : Controller) (hparams : c.mParameters = camera'.mParameters) (o : StartOutcome)
    (hstart : (c.doStartPreview lib o).2 = .noError)
    (hsize : previewFrameSize lib c.mParameters = lib.getPreviewSize c.mParameters) :
    DrawingInside (c.doStartPreview lib o).1.device ↔
      SizeOk (lib.getPreviewSize c.mParameters).1 (lib.getPreviewSize c.mParameters).2 := by
  have hstarted := doStartPreview_startedWith hstart
  obtain ⟨hw, hh⟩ := previewSize_pos haccept
  rw [← hparams] at hw hh
  rw [hsize] at hstarted
  exact hstarted.drawingInside_iff hw hh

section Examples
variable {size : String}

theorem startPreview_noError (h : (size, "24") ∈ previewExamples) :
    ((openedCamera (previewParams size "24")).doStartPreview previewFramework ⟨4096, true⟩).2 =
      .noError := by
  rw [previewString_get h]
  simp only [previewExamples, List.mem_cons, Prod.mk.injEq, List.not_mem_nil, or_false] at h
  rcases h with ⟨rfl, -⟩ | ⟨-, h⟩ | ⟨rfl, -⟩
  · decide +kernel
  · simp at h
  · decide +kernel

theorem previewFrameSize_example (h : (size, "24") ∈ previewExamples) :
    previewFrameSize previewFramework (openedCamera (previewParams size "24")).mParameters =
      previewFramework.getPreviewSize (openedCamera (previewParams size "24")).mParameters := by
  rw [openedCamera_params, previewString_get h]
  rfl

theorem sizeOk_of_inside {w h : Int32} (hmem : (size, "24") ∈ previewExamples)
    (hsize : previewFramework.getPreviewSize (previewParams size "24") = (w, h))
    (hw : 10 ≤ w.toInt) (hh : 0 < h.toInt)
    (hin : DrawingInside ((openedCamera (previewParams size "24")).doStartPreview
      previewFramework ⟨4096, true⟩).1.device) : w.toInt % 2 = 0 := by
  have hstarted := doStartPreview_startedWith (startPreview_noError hmem)
  rw [previewFrameSize_example hmem, openedCamera_params, hsize] at hstarted
  exact (hstarted.sizes_of_inside hw hh hin).1

end Examples

theorem drawing_inside_vga :
    SizeOk 640 480 ∧
      DrawingInside ((openedCamera (previewParams "640x480" "24")).doStartPreview
        previewFramework ⟨4096, true⟩).1.device := by
  have hok : SizeOk 640 480 := Or.inr (by decide)
  have hsize : previewFramework.getPreviewSize
      (openedCamera (previewParams "640x480" "24")).mParameters = (640, 480) := by
    rw [openedCamera_params, previewString_get (by decide)]
    decide +kernel
  refine ⟨hok, (drawing_inside_iff previewFramework .initialized _ (previewString "640x480" "24")
    (previewString_accepted (by decide)) (openedCamera (previewParams "640x480" "24"))
    (openedCamera_accept _ _ _) ⟨4096, true⟩ (startPreview_noError (by decide))
    (previewFrameSize_example (by decide))).mpr ?_⟩
  rw [hsize]
  exact hok

/-- With an odd width there are 321 pairs in a row of colour bytes, and the planes have room for
less. -/
theorem drawing_not_inside :
    EmulatedCamera.initialized.setParameters previewFramework.toCameraParameters
        (previewString "641x480" "24") =
      some (noError, EmulatedCamera.initialized.accept previewFramework.toCameraParameters
        (previewParams "641x480" "24")) ∧
      ((openedCamera (previewParams "641x480" "24")).doStartPreview previewFramework
        ⟨4096, true⟩).2 = .noError ∧
      ¬DrawingInside ((openedCamera (previewParams "641x480" "24")).doStartPreview
        previewFramework ⟨4096, true⟩).1.device := by
  refine ⟨previewString_accepted (by decide), startPreview_noError (by decide), fun hin => ?_⟩
  have hsize : previewFramework.getPreviewSize (previewParams "641x480" "24") = (641, 480) := by
    rw [previewString_get (by decide)]
    decide +kernel
  exact absurd (sizeOk_of_inside (by decide) hsize (by decide) (by decide) hin) (by decide)

end Rpi3Device.Camera1
