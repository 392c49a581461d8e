import Mathlib.Tactic
import Rpi3Device.IntArithmetic
import Rpi3Device.PlaneScan
import Rpi3Device.Camera1.ConvertedImages

/-!
# The fake HAL1 camera device

`startDevice` computes the size of the framebuffer and the pointers of the two colour
planes from the size and the format of the frames. Sizes are products of `int`s, so the
size of the framebuffer can come out negative; then there is no framebuffer. For
`YVU420` the U plane is computed from the old U pointer, which nobody has set before the
first start and which a stop has set to NULL. The checkerboard advances the plane
pointers pair by pair, and the square computes its place in them from the row. White
balance and exposure are computed in floating point and are functions given with each
frame.
-/

namespace Rpi3Device.Camera1
open PlaneScan ByteMemory IntArithmetic

inductive V4l2Format where
  | yvu420
  | yuv420
  | nv21
  | nv12
  | other (code : UInt32)
deriving DecidableEq

inductive DeviceState where
  | constructed
  | initialized
  | connected
  | started
deriving DecidableEq

inductive DeviceStatus where
  | noError
  | einval
  | enomem
deriving DecidableEq

/-- The framebuffer's size is the `int` that becomes a `size_t`. The plane pointers have no
initial value. -/
structure FakeDevice where
  mState : DeviceState := .initialized
  mFrameWidth : Int32 := 0
  mFrameHeight : Int32 := 0
  mPixelFormat : V4l2Format := .other 0
  mTotalPixels : Int32 := 0
  mFrameBufferSize : Int32 := 0
  mTargetFps : Int32 := 0
  mCurrentFrame : ℕ := 0
  mFrameU : ℕ
  mFrameV : ℕ
  mUVStep : Int32 := 0
  mUVInRow : Int32 := 0
  mCheckX : Int32 := 0
  mCheckY : Int32 := 0
  mCcounter : Int32 := 0

/-- `new uint8_t[size]` where there would be room at `frame`: a negative size is more than
any allocator has. -/
def allocate (size : Int32) (frame : ℕ) : ℕ := if size < 0 then 0 else frame

def frameBufferSize (width height : Int32) : Int32 := width * height * 12 / 8

namespace FakeDevice

def width (d : FakeDevice) : ℕ := d.mFrameWidth.toNatClampNeg
def height (d : FakeDevice) : ℕ := d.mFrameHeight.toNatClampNeg
def uvStep (d : FakeDevice) : ℕ := d.mUVStep.toNatClampNeg

def isConnected (d : FakeDevice) : Bool := d.mState = .connected ∨ d.mState = .started

def isStarted (d : FakeDevice) : Bool := d.mState = .started

def connectDevice (d : FakeDevice) : FakeDevice × DeviceStatus :=
  if d.mState = .constructed then (d, .einval)
  else if d.isConnected = true then (d, .noError)
  else ({ d with mState := .connected }, .noError)

def disconnectDevice (d : FakeDevice) : FakeDevice × DeviceStatus :=
  if d.isConnected = false then (d, .noError)
  else if d.isStarted = true then (d, .einval)
  else ({ d with mState := .initialized }, .noError)

def cacheFrame (d : FakeDevice) (width height : Int32) (pixFmt : V4l2Format) (fps : Int32)
    (frame : ℕ) : FakeDevice :=
  { d with
    mFrameBufferSize := frameBufferSize width height
    mFrameWidth := width
    mFrameHeight := height
    mPixelFormat := pixFmt
    mTotalPixels := width * height
    mTargetFps := fps
    mCurrentFrame := allocate (frameBufferSize width height) frame }

def commonStartDevice (d : FakeDevice) (width height : Int32) (pixFmt : V4l2Format) (fps : Int32)
    (frame : ℕ) : FakeDevice × DeviceStatus :=
  match pixFmt with
  | .other _ => (d, .einval)
  | .yvu420 | .yuv420 | .nv21 | .nv12 =>
    let d := d.cacheFrame width height pixFmt fps frame
    if d.mCurrentFrame = 0 then (d, .enomem) else (d, .noError)

def setPlanes (d : FakeDevice) : Option FakeDevice :=
  let total := d.mTotalPixels.toInt
  let quarter := (d.mTotalPixels / 4).toInt
  match d.mPixelFormat with
  | .yvu420 => some { d with
      mFrameV := pointer d.mCurrentFrame total
      mFrameU := pointer d.mFrameU quarter
      mUVStep := 1 }
  | .yuv420 => some { d with
      mFrameU := pointer d.mCurrentFrame total
      mFrameV := pointer d.mCurrentFrame (total + quarter)
      mUVStep := 1 }
  | .nv21 => some { d with
      mFrameV := pointer d.mCurrentFrame total
      mFrameU := pointer d.mCurrentFrame (total + 1)
      mUVStep := 2 }
  | .nv12 => some { d with
      mFrameU := pointer d.mCurrentFrame total
      mFrameV := pointer d.mCurrentFrame (total + 1)
      mUVStep := 2 }
  | .other _ => none

def startDevice (d : FakeDevice) (width height : Int32) (pixFmt : V4l2Format) (fps : Int32)
    (frame : ℕ) : FakeDevice × DeviceStatus :=
  if d.isConnected = false then (d, .einval)
  else if d.isStarted = true then (d, .einval)
  else
    let res := d.commonStartDevice width height pixFmt fps frame
    if res.2 = .noError then
      match res.1.setPlanes with
      | none => (res.1, .einval)
      | some d' =>
        ({ d' with mUVInRow := width / 2 * d'.mUVStep, mState := .started }, .noError)
    else res

def stopDevice (d : FakeDevice) : FakeDevice :=
  if d.isStarted = true then
    { d with
      mFrameU := 0
      mFrameV := 0
      mFrameWidth := 0
      mFrameHeight := 0
      mTotalPixels := 0
      mPixelFormat := .other 0
      mTargetFps := 0
      mCurrentFrame := 0
      mState := .connected }
  else d

end FakeDevice

/-- `changeWhiteBalance` and `changeExposure` at the time of a frame. -/
structure Tuning where
  changeWhiteBalance : YUVPixel → YUVPixel
  changeExposure : UInt8 → UInt8

def Tuning.expose (t : Tuning) (c : YUVPixel) : YUVPixel := { c with Y := t.changeExposure c.Y }

/-- The constructor halves the luminance of its colours. -/
def darkened (r g b : Int) : YUVPixel :=
  let c := rgb32ToYuv r g b
  { c with Y := c.Y / 2 }

def mBlackYUV : YUVPixel := darkened 0 0 0
def mWhiteYUV : YUVPixel := darkened 255 255 255
def mRedYUV : YUVPixel := darkened 255 0 0
def mGreenYUV : YUVPixel := darkened 0 255 0

def bounce (n : Int) : ℕ :=
  let sq := (n % 256).toNat
  if sq > 128 then 255 - sq else sq

namespace FakeDevice

/-- The loop of `drawCheckerboard`: `county` and `black` go from row to row, `countx` and
`current` along a row. -/
def checkerboardVisits (d : FakeDevice) (t : Tuning) : List (Visit YUVPixel) :=
  let size : Int := (d.mFrameWidth / 10).toInt
  let black := ¬ d.mCheckX.toInt.tdiv size % 2 = 1
  let black : Bool := if d.mCheckY.toInt.tdiv size % 2 = 1 then ¬ black else black
  let adjustedWhite := t.changeWhiteBalance mWhiteYUV
  scanRows (fun row : Int × Bool => (d.mCheckX.toInt.tmod size, row.2))
    (fun row => if row.1 ≥ size then (0, !row.2) else (row.1 + 1, row.2))
    (fun pixel : Int × Bool => (t.expose (if pixel.2 = true then mBlackYUV else adjustedWhite),
      if pixel.1 + 2 ≥ size then (0, !pixel.2) else (pixel.1 + 2, pixel.2)))
    d.uvStep ((d.width + 1) / 2) d.height 0
    ⟨d.mCurrentFrame, d.mFrameU, d.mFrameV⟩ ⟨d.mCurrentFrame, d.mFrameU, d.mFrameV⟩
    (d.mCheckY.toInt.tmod size, black)

def squareOffset (d : FakeDevice) (x y : ℕ) : ℤ :=
  (Int32.ofNat (y / 2) * d.mUVInRow + Int32.ofNat (x / 2) * d.mUVStep).toInt

def squareRows (d : FakeDevice) (x pairs : ℕ) (color : YUVPixel) :
    ℕ → ℕ → ℕ → List (Visit YUVPixel)
  | 0, _, _ => []
  | rows + 1, y, Ypos =>
    let iUV := d.squareOffset x y
    (scanRow (fun _ : Unit => (color, ())) d.uvStep y pairs x
      ⟨Ypos, pointer d.mFrameU iUV, pointer d.mFrameV iUV⟩ ()).1 ++
      squareRows d x pairs color rows (y + 1) (Ypos + d.width)

def squareVisits (d : FakeDevice) (t : Tuning) (x y size : ℕ) (color : YUVPixel) :
    List (Visit YUVPixel) :=
  let squareXstop := min d.width (x + size)
  let squareYstop := min d.height (y + size)
  squareRows d x ((squareXstop - x + 1) / 2) (t.expose (t.changeWhiteBalance color))
    (squareYstop - y) y (d.mCurrentFrame + y * d.width + x)

def drawCheckerboard (d : FakeDevice) (t : Tuning) : FakeDevice × List (Visit YUVPixel) :=
  if d.mFrameWidth / 10 = 0 then (d, [])
  else
    let sqsize := (d.mFrameWidth / 10).toNatClampNeg
    let color := if d.mCcounter.toInt % 512 ≥ 256 then mRedYUV else mGreenYUV
    ({ d with
        mCheckX := d.mCheckX + 3
        mCheckY := d.mCheckY + 1
        mCcounter := d.mCcounter + 1 },
      d.checkerboardVisits t ++
        d.squareVisits t (bounce (d.mCcounter.toInt * 3) * sqsize / 32)
          (bounce (d.mCcounter.toInt * 5) * sqsize / 32) (sqsize * 5 / 2) color)

def drawDivisors (d : FakeDevice) : List Int32 :=
  let size := d.mFrameWidth / 10
  if size = 0 then [] else [size, size, size, size]

def previewVisits (d : FakeDevice) : Option (List (Visit Unit)) :=
  let visits (p : Packing) : List (Visit Unit) :=
    (p.bases32 d.mCurrentFrame d.mFrameWidth d.mFrameHeight).visits d.mCurrentFrame d.mFrameWidth
      d.mFrameHeight
  if d.isStarted = false then none
  else if d.mCurrentFrame = 0 then none
  else match d.mPixelFormat with
    | .yvu420 => some (visits .yv12)
    | .yuv420 => some (visits .yu12)
    | .nv21 => some (visits .nv21)
    | .nv12 => some (visits .nv12)
    | .other _ => none

def getCurrentPreviewFrame (d : FakeDevice) (m : Memory) : Option (List Rgb32) :=
  d.previewVisits.map (toRgb32 m)

end FakeDevice

def framebufferFormats : List V4l2Format := [.yvu420, .yuv420, .nv21, .nv12]

namespace FakeDevice
variable {d : FakeDevice} {width height fps : Int32} {pixFmt : V4l2Format} {frame : ℕ}

@[simp] theorem stopDevice_isStarted (d : FakeDevice) : d.stopDevice.isStarted = false := by
  unfold stopDevice
  split
  · rfl
  · next hstopped => simpa using hstopped

theorem commonStartDevice_ok (hformat : pixFmt ∈ framebufferFormats)
    (hsize : 0 ≤ frameBufferSize width height) (hframe : frame ≠ 0) :
    d.commonStartDevice width height pixFmt fps frame =
      (d.cacheFrame width height pixFmt fps frame, .noError) := by
  have halloc : (d.cacheFrame width height pixFmt fps frame).mCurrentFrame ≠ 0 := by
    simpa [cacheFrame, allocate, Int32.not_lt.mpr hsize] using hframe
  cases pixFmt with
  | other code => simp [framebufferFormats] at hformat
  | yvu420 | yuv420 | nv21 | nv12 => simp only [commonStartDevice, if_neg halloc]

theorem commonStartDevice_noError
    (h : (d.commonStartDevice width height pixFmt fps frame).2 = .noError) :
    pixFmt ∈ framebufferFormats ∧ 0 ≤ frameBufferSize width height ∧ frame ≠ 0 ∧
      (d.commonStartDevice width height pixFmt fps frame).1 =
        d.cacheFrame width height pixFmt fps frame := by
  cases pixFmt with
  | other code => cases h
  | yvu420 | yuv420 | nv21 | nv12 =>
    simp only [commonStartDevice] at h ⊢
    split at h
    · cases h
    · next halloc =>
      rw [if_neg halloc]
      by_cases hsize : frameBufferSize width height < 0
      · exact absurd (if_pos hsize) halloc
      · have hframe : frame ≠ 0 := by simpa [cacheFrame, allocate, hsize] using halloc
        exact ⟨by simp [framebufferFormats], Int32.not_lt.mp hsize, hframe, rfl⟩

theorem setPlanes_eq {d' : FakeDevice} (h : d.setPlanes = some d') :
    ∃ U V step, d' = { d with mFrameU := U, mFrameV := V, mUVStep := step } := by
  unfold setPlanes at h
  split at h
  · exact ⟨_, _, _, (Option.some.inj h).symm⟩
  · exact ⟨_, _, _, (Option.some.inj h).symm⟩
  · exact ⟨_, _, _, (Option.some.inj h).symm⟩
  · exact ⟨_, _, _, (Option.some.inj h).symm⟩
  · cases h

theorem setPlanes_isSome (h : d.mPixelFormat ∈ framebufferFormats) :
    ∃ d', d.setPlanes = some d' := by
  unfold setPlanes
  cases hformat : d.mPixelFormat with
  | other code => simp [framebufferFormats, hformat] at h
  | yvu420 | yuv420 | nv21 | nv12 => exact ⟨_, rfl⟩

theorem startDevice_noError (h : (d.startDevice width height pixFmt fps frame).2 = .noError) :
    pixFmt ∈ framebufferFormats ∧ 0 ≤ frameBufferSize width height ∧ frame ≠ 0 ∧
      ∃ d', (d.cacheFrame width height pixFmt fps frame).setPlanes = some d' ∧
        (d.startDevice width height pixFmt fps frame).1 =
          { d' with mUVInRow := width / 2 * d'.mUVStep, mState := .started } := by
  unfold startDevice at h ⊢
  split at h
  · cases h
  · next hconnected =>
    split at h
    · cases h
    · next hstopped =>
      rw [if_neg hconnected, if_neg hstopped]
      simp only at h ⊢
      split at h
      · next hcommon =>
        obtain ⟨hformat, hsize, hframe, hcache⟩ := commonStartDevice_noError hcommon
        obtain ⟨d', hd'⟩ := setPlanes_isSome
          (d := d.cacheFrame width height pixFmt fps frame) hformat
        rw [if_pos hcommon, hcache, hd']
        exact ⟨hformat, hsize, hframe, d', rfl, rfl⟩
      · next hcommon => exact absurd h hcommon

theorem commonStartDevice_mState :
    (d.commonStartDevice width height pixFmt fps frame).1.mState = d.mState := by
  cases pixFmt with
  | other code => rfl
  | yvu420 | yuv420 | nv21 | nv12 =>
    simp only [commonStartDevice]
    split <;> rfl

theorem startDevice_failed (hstopped : d.isStarted = false)
    (h : (d.startDevice width height pixFmt fps frame).2 ≠ .noError) :
    (d.startDevice width height pixFmt fps frame).1.isStarted = false := by
  have hcommon : (d.commonStartDevice width height pixFmt fps frame).1.isStarted = false := by
    rw [isStarted, commonStartDevice_mState]
    exact hstopped
  unfold startDevice at h ⊢
  split
  · exact hstopped
  · next hconnected =>
    rw [if_neg hconnected] at h
    split
    · exact hstopped
    · next hnot =>
      rw [if_neg hnot] at h
      simp only at h ⊢
      split
      · next hok =>
        rw [if_pos hok] at h
        split at h
        · exact hcommon
        · exact absurd rfl h
      · exact hcommon

theorem startDevice_ok (hstate : d.mState = .connected) (hformat : pixFmt ∈ framebufferFormats)
    (hsize : 0 ≤ frameBufferSize width height) (hframe : frame ≠ 0) :
    (d.startDevice width height pixFmt fps frame).2 = .noError := by
  obtain ⟨d', hd'⟩ := setPlanes_isSome (d := d.cacheFrame width height pixFmt fps frame) hformat
  have hcommon : d.commonStartDevice width height pixFmt fps frame =
      (d.cacheFrame width height pixFmt fps frame, .noError) :=
    commonStartDevice_ok hformat hsize hframe
  simp [startDevice, isConnected, isStarted, hstate, hcommon, hd']

theorem mUVStep_toInt (h : d.mUVStep = 1 ∨ d.mUVStep = 2) :
    d.mUVStep.toInt = d.uvStep ∧ d.uvStep ≤ 2 := by
  unfold uvStep
  rcases h with h | h
  · rw [h]
    decide
  · rw [h]
    decide

theorem squareOffset_eq {x y : ℕ} (hstep : d.mUVStep = 1 ∨ d.mUVStep = 2)
    (hinRow : d.mUVInRow = d.mFrameWidth / 2 * d.mUVStep) (hfits : d.width * d.height < 2 ^ 31)
    (hx : x < d.width) (hy : y < d.height) :
    d.squareOffset x y = ((y / 2 * (d.width / 2) + x / 2) * d.uvStep : ℕ) := by
  obtain ⟨hint, hle⟩ := mUVStep_toInt hstep
  have hwidth : d.mFrameWidth.toInt = d.width := by
    unfold width at hx ⊢
    change d.mFrameWidth.toInt = (d.mFrameWidth.toInt.toNat : ℕ)
    change x < d.mFrameWidth.toInt.toNat at hx
    omega
  have hwlt : d.width < 2 ^ 31 := by
    have hlt := Int32.toInt_lt d.mFrameWidth
    rw [hwidth] at hlt
    exact_mod_cast hlt
  have hrow : (y / 2 + 1) * d.width ≤ d.width * d.height := by
    rw [Nat.mul_comm d.width]
    exact Nat.mul_le_mul_right _ (by omega)
  have hstepped : d.width / 2 * d.uvStep ≤ d.width / 2 * 2 := Nat.mul_le_mul_left _ hle
  have hinRowInt : d.mUVInRow.toInt = (d.width / 2 * d.uvStep : ℕ) := by
    rw [hinRow]
    exact toInt_mul_natCast (toInt_div_natCast (b := 2) hwidth rfl) hint (by omega)
  have hrows : y / 2 * (d.width / 2 * d.uvStep) ≤ y / 2 * d.width :=
    Nat.mul_le_mul_left _ (by omega)
  have hcolumn : x / 2 * d.uvStep ≤ x / 2 * 2 := Nat.mul_le_mul_left _ hle
  rw [Nat.succ_mul] at hrow
  have hy' : (Int32.ofNat (y / 2)).toInt = (y / 2 : ℕ) := by
    refine Int32.toInt_ofNat_of_lt ?_
    have hlt := Int32.toInt_lt d.mFrameHeight
    change y < d.mFrameHeight.toInt.toNat at hy
    omega
  have hx' : (Int32.ofNat (x / 2)).toInt = (x / 2 : ℕ) := Int32.toInt_ofNat_of_lt (by omega)
  have hdown : (Int32.ofNat (y / 2) * d.mUVInRow).toInt =
      (y / 2 * (d.width / 2 * d.uvStep) : ℕ) := toInt_mul_natCast hy' hinRowInt (by omega)
  have hright : (Int32.ofNat (x / 2) * d.mUVStep).toInt = (x / 2 * d.uvStep : ℕ) :=
    toInt_mul_natCast hx' hint (by omega)
  rw [squareOffset, toInt_add_natCast hdown hright (by omega), Nat.add_mul, Nat.mul_assoc]

end FakeDevice

end Rpi3Device.Camera1
