import Mathlib.Tactic
import Rpi3Device.Camera.Definition
import Rpi3Device.Camera3.SensorCapture
import Rpi3Device.Camera3.StreamTable

/-!
# The advertised sizes and the sensor's images

The static information takes one of the configured resolutions as the size of the
sensor and advertises fixed small sizes beside it. The capture loops derive the number
of rows from the sensor and the horizontal step, and never look at the height of the
stream. Whether an image stays in its buffer therefore depends on the aspect ratio of
the sensor against the advertised one.
-/

namespace Rpi3Device.Camera3.SensorOutput
open BinaryFloat SensorCapture

def sensorSize (params : Camera.CameraDefinition) : Int32 × Int32 :=
  let size := params.resolutions.foldl
    (fun size r => if size.1 ≤ r.width ∧ size.2 ≤ r.height then (r.width, r.height) else size)
    (0, 0)
  if size.1 < 640 ∨ size.2 < 480 then (640, 480) else size

structure Capabilities where
  backwardCompatible : Bool
  raw : Bool
  burstCapture : Bool

structure StreamConfiguration where
  format : PixelFormat
  width : ℕ
  height : ℕ
deriving DecidableEq

def availableStreamConfigurationsBasic (width height : ℕ) : List StreamConfiguration :=
  [⟨.blob, width, height⟩, ⟨.implementationDefined, 320, 240⟩, ⟨.yCbCr420_888, 320, 240⟩,
    ⟨.blob, 320, 240⟩]

def availableStreamConfigurationsBasic640 : List StreamConfiguration :=
  [⟨.implementationDefined, 640, 480⟩, ⟨.yCbCr420_888, 640, 480⟩, ⟨.blob, 640, 480⟩]

def availableStreamConfigurationsRaw (width height : ℕ) : List StreamConfiguration :=
  [⟨.raw16, width, height⟩]

def availableStreamConfigurationsBurst (width height : ℕ) : List StreamConfiguration :=
  [⟨.implementationDefined, width, height⟩, ⟨.yCbCr420_888, width, height⟩,
    ⟨.rgba8888, width, height⟩]

def availableStreamConfigurations (caps : Capabilities) (width height : ℕ) :
    List StreamConfiguration :=
  (if caps.backwardCompatible then
    availableStreamConfigurationsBasic width height ++
      (if width > 640 then availableStreamConfigurationsBasic640 else [])
  else []) ++
  (if caps.raw then availableStreamConfigurationsRaw width height else []) ++
  (if caps.burstCapture then availableStreamConfigurationsBurst width height else [])

def bufferFormat : PixelFormat → PixelFormat
  | .implementationDefined => .rgba8888
  | format => format

/-- `s` is the scene of the sensor that the camera `params` creates. -/
def IsSensorOf (params : Camera.CameraDefinition) (s : Scene) : Prop :=
  s.sensorWidth = (sensorSize params).1.toNatClampNeg ∧
    s.sensorHeight = (sensorSize params).2.toNatClampNeg

def RgbaRight (s : Scene) (gain : UInt32) (w h : ℕ) : Prop :=
  ∀ st ∈ captureRGBA s gain w, st.offset < w * h * 4

/-- The bytes stay in the buffer, and the rows of the two planes lie where the layout of
`w` by `h` pixels has them. -/
def Nv21Right (s : Scene) (gain : UInt32) (w h : ℕ) : Prop :=
  (∀ st ∈ captureNV21 s gain w, st.offset < w * h * 3 / 2) ∧
    ∀ outY ∈ rounds s.sensorHeight (increment s w),
      lumaRow w outY = outY * w ∧ chromaRow s w outY = w * h + outY / 2 * w

def OutputRight (s : Scene) (gain : UInt32) (c : StreamConfiguration) : Prop :=
  match bufferFormat c.format with
  | .rgba8888 => RgbaRight s gain c.width c.height
  | .yCbCr420_888 => Nv21Right s gain c.width c.height
  | _ => True

def RgbaFits (W H w h : ℕ) : Prop :=
  let k := ceilQuotient 24 W w
  (roundCount H k - 1) * w + roundCount W k ≤ w * h

def Nv21Fits (W H w h : ℕ) : Prop :=
  H = h * ceilQuotient 24 W w ∧ (h + h / 2 - 1) * w < 4294967296

def OutputFits (W H : ℕ) (c : StreamConfiguration) : Prop :=
  match bufferFormat c.format with
  | .rgba8888 => RgbaFits W H c.width c.height
  | .yCbCr420_888 => Nv21Fits W H c.width c.height
  | _ => True

theorem wrap32_le (n : ℕ) : wrap32 n ≤ n := Nat.mod_le n _

theorem wrap32_of_lt {n : ℕ} (h : n < 4294967296) : wrap32 n = n := Nat.mod_eq_of_lt h

theorem wrap32_lt (n : ℕ) : wrap32 n < 4294967296 := Nat.mod_lt n (by norm_num)

theorem nv21Size (w : ℕ) {h : ℕ} (hh : h % 2 = 0) : w * h * 3 / 2 = w * h + h / 2 * w := by
  obtain ⟨m, hm⟩ := Nat.dvd_of_mod_eq_zero hh
  subst hm
  rw [Nat.mul_div_cancel_left m (by norm_num)]
  have hdouble : w * (2 * m) * 3 = (w * (2 * m) + m * w) * 2 := by ring
  rw [hdouble, Nat.mul_div_cancel _ (by norm_num)]

section Images
variable {s : Scene} {gain : UInt32} {w h : ℕ}

theorem rgbaRight_iff_rows (hinc : 0 < increment s w) (hW : 0 < s.sensorWidth) :
    RgbaRight s gain w h ↔
      ∀ outY < roundCount s.sensorHeight (increment s w),
        wrap32 (outY * w * 4) + 4 * roundCount s.sensorWidth (increment s w) ≤
          w * h * 4 := by
  have hcolumns : 0 < roundCount s.sensorWidth (increment s w) := roundCount_pos hinc hW
  have hoffset (outY o : ℕ) :
      o ∈ (rgbaRow s (scale64x gain) (increment s w)
          (rounds s.sensorWidth (increment s w)).length (wrap32 (outY * w * 4))
          (s.setReadoutPixel 0 (outY * increment s w : ℕ))).map Store.offset ↔
        wrap32 (outY * w * 4) ≤ o ∧ o < wrap32 (outY * w * 4) +
          4 * roundCount s.sensorWidth (increment s w) := by
    rw [rgbaRow_offsets, rounds_eq_range _ hinc, List.length_range, List.mem_range'_1]
  constructor
  · intro hright outY hrow
    obtain ⟨st, hst, hlast⟩ := List.mem_map.mp ((hoffset outY (wrap32 (outY * w * 4) +
      4 * roundCount s.sensorWidth (increment s w) - 1)).mpr ⟨by omega, by omega⟩)
    have hinside := hright st (List.mem_flatMap.mpr
      ⟨outY, by rwa [rounds_eq_range _ hinc, List.mem_range], hst⟩)
    omega
  · intro hrows st hst
    obtain ⟨outY, hrow, hmem⟩ := List.mem_flatMap.mp hst
    rw [rounds_eq_range _ hinc, List.mem_range] at hrow
    have hend := hrows outY hrow
    have hlt := (hoffset outY st.offset).mp (List.mem_map_of_mem hmem)
    omega

theorem rgbaFits_full (hW : 0 < s.sensorWidth) (hH : 0 < s.sensorHeight) :
    RgbaFits s.sensorWidth s.sensorHeight s.sensorWidth s.sensorHeight := by
  have hone : ceilQuotient 24 s.sensorWidth s.sensorWidth = 1 := ceilQuotient_self (by norm_num) hW
  obtain ⟨H, hH⟩ := Nat.exists_eq_succ_of_ne_zero hH.ne'
  simp only [RgbaFits, hone, hH, roundCount_one, Nat.succ_eq_add_one, Nat.add_sub_cancel]
  exact le_of_eq (by ring)

theorem rgbaRight_of_fits (hinc : 0 < increment s w) (hW : 0 < s.sensorWidth)
    (hfits : RgbaFits s.sensorWidth s.sensorHeight w h) : RgbaRight s gain w h := by
  rw [rgbaRight_iff_rows hinc hW]
  intro outY hrow
  have hlast : outY * w ≤ (roundCount s.sensorHeight (increment s w) - 1) * w :=
    Nat.mul_le_mul_right w (by omega)
  have hwrap := wrap32_le (outY * w * 4)
  have hend : (roundCount s.sensorHeight (increment s w) - 1) * w +
      roundCount s.sensorWidth (increment s w) ≤ w * h := hfits
  omega

theorem rgbaFits_of_right (hinc : 0 < increment s w) (hW : 0 < s.sensorWidth)
    (hH : 0 < s.sensorHeight) (hsmall : w * h * 4 < 4294967296) (hright : RgbaRight s gain w h) :
    RgbaFits s.sensorWidth s.sensorHeight w h := by
  rw [rgbaRight_iff_rows hinc hW] at hright
  have hcolumns : 0 < roundCount s.sensorWidth (increment s w) := roundCount_pos hinc hW
  have hpositive : 0 < roundCount s.sensorHeight (increment s w) := roundCount_pos hinc hH
  have hrows : roundCount s.sensorHeight (increment s w) ≤ h := by
    by_contra hmore
    have hpast := hright h (by omega)
    rw [wrap32_of_lt (by rwa [Nat.mul_comm h w]), Nat.mul_comm h w] at hpast
    omega
  have hlast := hright (roundCount s.sensorHeight (increment s w) - 1) (by omega)
  have hle : (roundCount s.sensorHeight (increment s w) - 1) * w ≤ h * w :=
    Nat.mul_le_mul_right w (by omega)
  rw [wrap32_of_lt (by rw [Nat.mul_comm h w] at hle; omega)] at hlast
  show (roundCount s.sensorHeight (increment s w) - 1) * w +
    roundCount s.sensorWidth (increment s w) ≤ w * h
  omega

theorem nv21Right_of_fits (hinc : 0 < increment s w) (hw : w % 2 = 0) (hh : h % 2 = 0)
    (hfits : Nv21Fits s.sensorWidth s.sensorHeight w h) : Nv21Right s gain w h := by
  obtain ⟨hH, hsmall⟩ := hfits
  change s.sensorHeight = h * increment s w at hH
  have hrows : roundCount s.sensorHeight (increment s w) ≤ h :=
    (roundCount_le_iff hinc).mpr hH.le
  have houtH : s.sensorHeight / increment s w = h := by
    rw [hH, Nat.mul_div_cancel _ hinc]
  have hplace (outY : ℕ) (hrow : outY < h) :
      lumaRow w outY = outY * w ∧ chromaRow s w outY = w * h + outY / 2 * w := by
    have hluma : outY * w ≤ (h + h / 2 - 1) * w := Nat.mul_le_mul_right w (by omega)
    have hchroma : (h + outY / 2) * w ≤ (h + h / 2 - 1) * w := Nat.mul_le_mul_right w (by omega)
    refine ⟨wrap32_of_lt (by omega), ?_⟩
    rw [chromaRow, houtH, wrap32_of_lt (by omega), Nat.add_mul, Nat.mul_comm h w]
  constructor
  · intro st hst
    obtain ⟨outY, hrow, x, hx, hstore⟩ := (mem_captureNV21 hinc).mp hst
    obtain ⟨hluma, hchroma⟩ := hplace outY (hrow.trans_le hrows)
    have hlumaEnd : (outY + 1) * w ≤ h * w := Nat.mul_le_mul_right w (by omega)
    have hchromaEnd : (outY / 2 + 1) * w ≤ h / 2 * w := Nat.mul_le_mul_right w (by omega)
    rw [Nat.succ_mul] at hlumaEnd hchromaEnd
    rw [Nat.mul_comm h w] at hlumaEnd
    rw [nv21Size w hh]
    rw [hluma, hchroma] at hstore
    rcases hstore with rfl | ⟨-, heven, rfl | rfl⟩
    · show outY * w + x < _
      omega
    · show w * h + outY / 2 * w + x < _
      omega
    · show w * h + outY / 2 * w + x + 1 < _
      omega
  · intro outY hrow
    rw [rounds_eq_range _ hinc, List.mem_range] at hrow
    exact hplace outY (hrow.trans_le hrows)

theorem height_of_nv21Right (hinc : 0 < increment s w) (hw₀ : 0 < w) (hh : h % 2 = 0)
    (hH : 0 < s.sensorHeight) (hsmall : w * h < 4294967296) (hright : Nv21Right s gain w h) :
    s.sensorHeight = h * increment s w := by
  obtain ⟨hinside, hplace⟩ := hright
  rw [rounds_eq_range _ hinc] at hplace
  have hrows : roundCount s.sensorHeight (increment s w) ≤ h := by
    -- Row `h` would be an even row, and its chroma bytes would begin behind the buffer.
    by_contra hmore
    have hpast : h < roundCount s.sensorHeight (increment s w) := by omega
    obtain ⟨-, hchroma⟩ := hplace h (List.mem_range.mpr hpast)
    have hlt := hinside _ ((mem_captureNV21 hinc).mpr
      ⟨h, hpast, 0, hw₀, Or.inr ⟨hh, rfl, Or.inl rfl⟩⟩)
    rw [nv21Size w hh] at hlt
    simp only [hchroma, Nat.add_zero, lt_self_iff_false] at hlt
  have hfirst : 0 < roundCount s.sensorHeight (increment s w) := roundCount_pos hinc hH
  have hle : s.sensorHeight ≤ h * increment s w := (roundCount_le_iff hinc).mp hrows
  have houtH : s.sensorHeight / increment s w * w ≤ h * w :=
    Nat.mul_le_mul_right w (Nat.div_le_of_le_mul (by rwa [Nat.mul_comm]))
  have hplane : s.sensorHeight / increment s w * w = h * w := by
    have hzero := (hplace 0 (List.mem_range.mpr hfirst)).2
    rw [Nat.mul_comm h w] at houtH ⊢
    rw [chromaRow, Nat.zero_div, Nat.add_zero, wrap32_of_lt (by omega)] at hzero
    omega
  have hge : h * increment s w ≤ s.sensorHeight := by
    rw [← Nat.eq_of_mul_eq_mul_right hw₀ hplane]
    exact Nat.div_mul_le_self _ _
  exact le_antisymm hle hge

theorem offsets_of_nv21Right (hinc : 0 < increment s w) (hh : h % 2 = 0) (hh₀ : 0 < h)
    (hH : s.sensorHeight = h * increment s w) (hright : Nv21Right s gain w h) :
    (h + h / 2 - 1) * w < 4294967296 := by
  have hrows : roundCount s.sensorHeight (increment s w) = h := by
    apply le_antisymm ((roundCount_le_iff hinc).mpr hH.le)
    exact Nat.le_of_mul_le_mul_right (hH.ge.trans ((roundCount_le_iff hinc).mp le_rfl)) hinc
  have hlast := (hright.2 (h - 1)
    (by rw [rounds_eq_range _ hinc, List.mem_range, hrows]; omega)).2
  have hplane : (h + h / 2 - 1) * w = w * h + (h - 1) / 2 * w := by
    rw [Nat.mul_comm w h, ← Nat.add_mul]
    congr 1
    omega
  rw [hplane, ← hlast]
  exact wrap32_lt _

theorem nv21Right_iff (hinc : 0 < increment s w) (hw₀ : 0 < w) (hw : w % 2 = 0) (hh₀ : 0 < h)
    (hh : h % 2 = 0) (hH : 0 < s.sensorHeight)
    (hsize : s.sensorHeight = h * increment s w ∨ w * h < 4294967296) :
    Nv21Right s gain w h ↔ Nv21Fits s.sensorWidth s.sensorHeight w h := by
  constructor
  · intro hright
    have hheight : s.sensorHeight = h * increment s w := by
      rcases hsize with hheight | hsmall
      · exact hheight
      · exact height_of_nv21Right hinc hw₀ hh hH hsmall hright
    exact ⟨hheight, offsets_of_nv21Right hinc hh hh₀ hheight hright⟩
  · exact nv21Right_of_fits hinc hw hh

theorem rgbaRight_full (hW : 0 < s.sensorWidth) (hH : 0 < s.sensorHeight) :
    RgbaRight s gain s.sensorWidth s.sensorHeight ↔
      RgbaFits s.sensorWidth s.sensorHeight s.sensorWidth s.sensorHeight := by
  have hfits := rgbaFits_full hW hH
  have hinc : 0 < increment s s.sensorWidth := ceilQuotient_pos (by norm_num) hW hW
  exact iff_of_true (rgbaRight_of_fits hinc hW hfits) hfits

theorem rgbaRight_small (hinc : 0 < increment s w) (hW : 0 < s.sensorWidth)
    (hH : 0 < s.sensorHeight) (hsmall : w * h * 4 < 4294967296) :
    RgbaRight s gain w h ↔ RgbaFits s.sensorWidth s.sensorHeight w h :=
  ⟨rgbaFits_of_right hinc hW hH hsmall, rgbaRight_of_fits hinc hW⟩

end Images

theorem sensorSize_ge (params : Camera.CameraDefinition) :
    640 ≤ (sensorSize params).1 ∧ 480 ≤ (sensorSize params).2 := by
  unfold sensorSize
  dsimp only
  split_ifs with hsmall
  · decide
  · rw [not_or, Int32.not_lt, Int32.not_lt] at hsmall
    exact hsmall

theorem IsSensorOf.size_pos {params : Camera.CameraDefinition} {s : Scene}
    (hs : IsSensorOf params s) : 0 < s.sensorWidth ∧ 0 < s.sensorHeight := by
  obtain ⟨hW, hH⟩ := sensorSize_ge params
  rw [Int32.le_iff_toInt_le] at hW hH
  have hwidth : (640 : Int32).toInt = 640 := by decide
  have hheight : (480 : Int32).toInt = 480 := by decide
  rw [hs.1, hs.2, Int32.toNatClampNeg, Int32.toNatClampNeg]
  omega

def AdvertisedSize (W H w h : ℕ) : Prop :=
  (w = W ∧ h = H) ∨ (w = 320 ∧ h = 240) ∨ (w = 640 ∧ h = 480)

theorem size_of_mem {caps : Capabilities} {W H : ℕ} {c : StreamConfiguration}
    (hc : c ∈ availableStreamConfigurations caps W H) :
    AdvertisedSize W H c.width c.height := by
  simp only [availableStreamConfigurations, List.mem_append, List.mem_ite_nil_right] at hc
  rcases hc with (⟨-, hbasic | ⟨-, h640⟩⟩ | ⟨-, hraw⟩) | ⟨-, hburst⟩
  · simp only [availableStreamConfigurationsBasic, List.mem_cons, List.not_mem_nil,
      or_false] at hbasic
    rcases hbasic with rfl | rfl | rfl | rfl <;> simp [AdvertisedSize]
  · simp only [availableStreamConfigurationsBasic640, List.mem_cons, List.not_mem_nil,
      or_false] at h640
    rcases h640 with rfl | rfl | rfl <;> simp [AdvertisedSize]
  · simp only [availableStreamConfigurationsRaw, List.mem_singleton] at hraw
    exact Or.inl (by simp [hraw])
  · simp only [availableStreamConfigurationsBurst, List.mem_cons, List.not_mem_nil,
      or_false] at hburst
    rcases hburst with rfl | rfl | rfl <;> simp [AdvertisedSize]

section Sizes
variable {s : Scene} {gain : UInt32} {w h : ℕ}

theorem rgbaRight_iff (hW : 0 < s.sensorWidth) (hH : 0 < s.sensorHeight)
    (hsize : AdvertisedSize s.sensorWidth s.sensorHeight w h) :
    RgbaRight s gain w h ↔ RgbaFits s.sensorWidth s.sensorHeight w h := by
  rcases hsize with ⟨rfl, rfl⟩ | ⟨rfl, rfl⟩ | ⟨rfl, rfl⟩
  · exact rgbaRight_full hW hH
  · exact rgbaRight_small (ceilQuotient_pos (by norm_num) hW (by norm_num)) hW hH (by norm_num)
  · exact rgbaRight_small (ceilQuotient_pos (by norm_num) hW (by norm_num)) hW hH (by norm_num)

theorem nv21Right_iff_fits (hW : 0 < s.sensorWidth) (hH : 0 < s.sensorHeight)
    (hW₂ : s.sensorWidth % 2 = 0) (hH₂ : s.sensorHeight % 2 = 0)
    (hsize : AdvertisedSize s.sensorWidth s.sensorHeight w h) :
    Nv21Right s gain w h ↔ Nv21Fits s.sensorWidth s.sensorHeight w h := by
  rcases hsize with ⟨rfl, rfl⟩ | ⟨rfl, rfl⟩ | ⟨rfl, rfl⟩
  · have hone : increment s s.sensorWidth = 1 := ceilQuotient_self (by norm_num) hW
    exact nv21Right_iff (by omega) hW hW₂ hH hH₂ hH (Or.inl (by rw [hone, Nat.mul_one]))
  · exact nv21Right_iff (ceilQuotient_pos (by norm_num) hW (by norm_num)) (by norm_num) rfl
      (by norm_num) rfl hH (Or.inr (by norm_num))
  · exact nv21Right_iff (ceilQuotient_pos (by norm_num) hW (by norm_num)) (by norm_num) rfl
      (by norm_num) rfl hH (Or.inr (by norm_num))

end Sizes

theorem outputRight_iff (params : Camera.CameraDefinition) (caps : Capabilities) (s : Scene)
    (gain : UInt32) (c : StreamConfiguration) (hs : IsSensorOf params s)
    (hW : 8 ∣ s.sensorWidth) (hH : 8 ∣ s.sensorHeight)
    (hc : c ∈ availableStreamConfigurations caps s.sensorWidth s.sensorHeight) :
    OutputRight s gain c ↔ OutputFits s.sensorWidth s.sensorHeight c := by
  obtain ⟨hWpos, hHpos⟩ := hs.size_pos
  have hsize := size_of_mem hc
  unfold OutputRight OutputFits
  split
  · exact rgbaRight_iff hWpos hHpos hsize
  · exact nv21Right_iff_fits hWpos hHpos (by omega) (by omega) hsize
  · rfl

def plainScene (width height : ℕ) : Scene where
  sensorWidth := width
  sensorHeight := height
  handshakeX := 0
  handshakeY := 0
  currentColors := fun _ => 1000
  beyondScene := fun _ => 0

theorem outputRight_vga :
    IsSensorOf ⟨.kBack, .kHalV3, [⟨640, 480⟩]⟩ (plainScene 640 480) ∧
      OutputRight (plainScene 640 480) 100 ⟨.yCbCr420_888, 320, 240⟩ := by
  have hs : IsSensorOf ⟨.kBack, .kHalV3, [⟨640, 480⟩]⟩ (plainScene 640 480) := by
    constructor <;> decide
  have hk : ceilQuotient 24 640 320 = 2 := by
    rw [ceilQuotient_exact] <;> norm_num
  refine ⟨hs, (outputRight_iff ⟨.kBack, .kHalV3, [⟨640, 480⟩]⟩ ⟨true, false, false⟩ _ 100 _ hs
    (by decide) (by decide) (by decide)).mpr ?_⟩
  show Nv21Fits 640 480 320 240
  rw [Nv21Fits, hk]
  norm_num

/-- On a sensor of 1280 by 720 pixels the chroma plane of a small image begins too early,
and on one of 720 by 1280 the image runs out of its buffer. -/
theorem output_not_right :
    (IsSensorOf ⟨.kBack, .kHalV3, [⟨1280, 720⟩]⟩ (plainScene 1280 720) ∧
        ⟨.yCbCr420_888, 320, 240⟩ ∈ availableStreamConfigurations ⟨true, false, false⟩ 1280 720 ∧
        ¬OutputRight (plainScene 1280 720) 100 ⟨.yCbCr420_888, 320, 240⟩) ∧
      (IsSensorOf ⟨.kBack, .kHalV3, [⟨720, 1280⟩]⟩ (plainScene 720 1280) ∧
        ⟨.implementationDefined, 320, 240⟩ ∈
          availableStreamConfigurations ⟨true, false, false⟩ 720 1280 ∧
        ¬OutputRight (plainScene 720 1280) 100 ⟨.implementationDefined, 320, 240⟩) := by
  have hwide : AdvertisedSize 1280 720 320 240 := Or.inr (Or.inl ⟨rfl, rfl⟩)
  have hhigh : AdvertisedSize 720 1280 320 240 := Or.inr (Or.inl ⟨rfl, rfl⟩)
  have hfour : ceilQuotient 24 1280 320 = 4 := by
    rw [ceilQuotient_exact] <;> norm_num
  have hthree : ceilQuotient 24 720 320 = 3 := by
    rw [ceilQuotient_exact] <;> norm_num
  refine ⟨⟨⟨by decide, by decide⟩, by decide, ?_⟩, ⟨by decide, by decide⟩, by decide, ?_⟩
  · intro hright
    have hfits : Nv21Fits 1280 720 320 240 := (nv21Right_iff_fits (s := plainScene 1280 720)
      (by decide) (by decide) rfl rfl hwide).mp hright
    rw [Nv21Fits, hfour] at hfits
    omega
  · intro hright
    have hfits : RgbaFits 720 1280 320 240 := (rgbaRight_iff (s := plainScene 720 1280)
      (by decide) (by decide) hhigh).mp hright
    rw [RgbaFits, hthree] at hfits
    simp only [roundCount] at hfits
    omega

end Rpi3Device.Camera3.SensorOutput
