import Mathlib.Tactic
import Rpi3Device.ByteMemory
import Rpi3Device.Camera1.Thumbnail
import Rpi3Device.Camera3.SensorOutput

/-!
# The sensor's NV21 image and its readers

`NV21ToRGB32` and `createRawThumbnail` take the first byte of every colour pair for V
and the second for U. `captureNV21` stores the blue difference first and the red one
second. The two sides agree on where the pairs lie as long as the number of pixels is an
`int`, so a reader gets the two colour values of every block exchanged, and sees the right
picture only where they are equal.
-/

namespace Rpi3Device.Camera3.Nv21Layout
open ByteMemory PlaneScan SensorCapture IntArithmetic
open Camera1 (Packing pointer pixTotal pointer_natCast)
open Camera1.Thumbnail (vectorSize vectorSize_of_toInt)

def captured (s : Scene) (gain : UInt32) (m : Memory) (img : ℕ) : Memory :=
  storeAll m ((captureNV21 s gain s.sensorWidth).map fun st => (img + st.offset, st.value))

structure SourcePlanes where
  u : List UInt8
  v : List UInt8

/-- There are none where the vector throws. -/
def sourcePlanes (m : Memory) (sourceImage : ℕ) (sourceWidth sourceHeight : Int32) :
    Option SourcePlanes :=
  let chroma := pixTotal sourceWidth sourceHeight
  (vectorSize (sourceWidth * sourceHeight / 4)).map fun size =>
    { v := (List.range size).map fun i => m (pointer sourceImage (chroma + (i * 2 + 0 : ℕ)))
      u := (List.range size).map fun i => m (pointer sourceImage (chroma + (i * 2 + 1 : ℕ))) }

def readWidth (s : Scene) : Int32 := Int32.ofNat s.sensorWidth
def readHeight (s : Scene) : Int32 := Int32.ofNat s.sensorHeight

def blockColor (s : Scene) (gain : UInt32) (i j : ℕ) : YCbCr :=
  toYCbCr (scale64x gain) (s.pixelAt 1 (2 * i) (2 * j))

def ConverterAgrees (s : Scene) (gain : UInt32) (m : Memory) (img : ℕ) : Prop :=
  ∀ v ∈ (Packing.nv21.bases32 img (readWidth s) (readHeight s)).visits img (readWidth s)
      (readHeight s),
    m v.cursor.U = (blockColor s gain (v.x / 2) (v.y / 2)).cb ∧
      m v.cursor.V = (blockColor s gain (v.x / 2) (v.y / 2)).cr

def ThumbnailAgrees (s : Scene) (gain : UInt32) (m : Memory) (img : ℕ) : Prop :=
  ∃ planes, sourcePlanes m img (readWidth s) (readHeight s) = some planes ∧
    ∀ i < s.sensorWidth / 2, ∀ j < s.sensorHeight / 2,
      planes.u[j * (s.sensorWidth / 2) + i]? = some (blockColor s gain i j).cb ∧
        planes.v[j * (s.sensorWidth / 2) + i]? = some (blockColor s gain i j).cr

/-- Whatever the buffer held before, both readers find the captured colours. -/
def ReadersAgree (s : Scene) (gain : UInt32) : Prop :=
  ∀ m img, ConverterAgrees s gain (captured s gain m img) img ∧
    ThumbnailAgrees s gain (captured s gain m img) img

/-- The two colour differences of a pixel come out as the same byte. -/
def EqualChroma (scale : UInt32) (pixel : ColorChannels → UInt32) : Prop :=
  let r := saturatedCount (pixel .R) scale
  let g := saturatedCount (pixel .Gr) scale
  let b := saturatedCount (pixel .B) scale
  (-10 * r + -21 * g + 32 * b + 524288).tdiv 4096 % 256 =
    (32 * r + -26 * g + -5 * b + 524288).tdiv 4096 % 256

instance (scale : UInt32) (pixel : ColorChannels → UInt32) :
    Decidable (EqualChroma scale pixel) :=
  Int.instDecidableEq _ _

theorem ofInt_inj (a b : ℤ) : UInt8.ofInt a = UInt8.ofInt b ↔ a % 256 = b % 256 := by
  have ha := Int.emod_nonneg a (by norm_num : (256 : ℤ) ≠ 0)
  have hb := Int.emod_nonneg b (by norm_num : (256 : ℤ) ≠ 0)
  have halt := Int.emod_lt_of_pos a (by norm_num : (0 : ℤ) < 256)
  have hblt := Int.emod_lt_of_pos b (by norm_num : (0 : ℤ) < 256)
  rw [← UInt8.toNat_inj, UInt8.ofInt, UInt8.ofInt, UInt8.toNat_ofNat', UInt8.toNat_ofNat']
  norm_num
  omega

theorem equalChroma_iff {scale : UInt32} {pixel : ColorChannels → UInt32} :
    EqualChroma scale pixel ↔ (toYCbCr scale pixel).cb = (toYCbCr scale pixel).cr := by
  exact (ofInt_inj _ _).symm

theorem row_column_unique {w a b x y : ℕ} (hx : x < w) (hy : y < w)
    (h : a * w + x = b * w + y) : a = b ∧ x = y := by
  have hrow : a = b := by
    rcases lt_trichotomy a b with hlt | heq | hgt
    · have hle : (a + 1) * w ≤ b * w := Nat.mul_le_mul_right w hlt
      rw [Nat.succ_mul] at hle
      omega
    · exact heq
    · have hle : (b + 1) * w ≤ a * w := Nat.mul_le_mul_right w hgt
      rw [Nat.succ_mul] at hle
      omega
  subst hrow
  exact ⟨rfl, by omega⟩

theorem pixelStore_at_pair {w h j c y x : ℕ} {color : YCbCr} {st : Store} (hw : w % 2 = 0)
    (hy : y < h) (hx : x < w) (hc : c < w)
    (hst : PixelStore y (y * w) (w * h + y / 2 * w) x color st)
    (hoffset : st.offset = w * h + (j * w + c)) :
    y = 2 * j ∧ x % 2 = 0 ∧ (c = x ∧ st.value = color.cb ∨ c = x + 1 ∧ st.value = color.cr) := by
  rcases hst with rfl | ⟨hrow, heven, rfl | rfl⟩
  · have hle : (y + 1) * w ≤ h * w := Nat.mul_le_mul_right w hy
    rw [Nat.succ_mul, Nat.mul_comm h w] at hle
    have hsame : y * w + x = w * h + (j * w + c) := hoffset
    omega
  · have hsame : w * h + y / 2 * w + x = w * h + (j * w + c) := hoffset
    obtain ⟨hj, hcol⟩ := row_column_unique hx hc (by omega : y / 2 * w + x = j * w + c)
    exact ⟨by omega, heven, Or.inl ⟨hcol.symm, rfl⟩⟩
  · have hsame : w * h + y / 2 * w + x + 1 = w * h + (j * w + c) := hoffset
    obtain ⟨hj, hcol⟩ :=
      row_column_unique (by omega) hc (by omega : y / 2 * w + (x + 1) = j * w + c)
    exact ⟨by omega, heven, Or.inr ⟨hcol.symm, rfl⟩⟩

section Captured
variable {s : Scene} {gain : UInt32}

theorem increment_full (hW : 0 < s.sensorWidth) : increment s s.sensorWidth = 1 :=
  BinaryFloat.ceilQuotient_self (by norm_num) hW

theorem mem_captureNV21_full {st : Store} (hW : 0 < s.sensorWidth) :
    st ∈ captureNV21 s gain s.sensorWidth ↔
      ∃ y < s.sensorHeight, ∃ x < s.sensorWidth,
        PixelStore y (lumaRow s.sensorWidth y) (chromaRow s s.sensorWidth y) x
          (toYCbCr (scale64x gain) (s.pixelAt 1 x y)) st := by
  have hone := increment_full hW
  rw [mem_captureNV21 (by omega), hone, roundCount_one]

theorem rows_full (hW : 0 < s.sensorWidth) (hW₂ : s.sensorWidth % 2 = 0)
    (hH₂ : s.sensorHeight % 2 = 0)
    (hsmall : (s.sensorHeight + s.sensorHeight / 2 - 1) * s.sensorWidth < 4294967296) {y : ℕ}
    (hy : y < s.sensorHeight) :
    lumaRow s.sensorWidth y = y * s.sensorWidth ∧
      chromaRow s s.sensorWidth y = s.sensorWidth * s.sensorHeight + y / 2 * s.sensorWidth := by
  have hone := increment_full hW
  have hfits : SensorOutput.Nv21Fits s.sensorWidth s.sensorHeight s.sensorWidth s.sensorHeight :=
    ⟨by rw [← increment, hone, Nat.mul_one], hsmall⟩
  have hright : SensorOutput.Nv21Right s 0 s.sensorWidth s.sensorHeight :=
    SensorOutput.nv21Right_of_fits (by omega) hW₂ hH₂ hfits
  apply hright.2 y
  rw [rounds_eq_range _ (by omega), hone, roundCount_one]
  exact List.mem_range.mpr hy

theorem captured_agreed (m : Memory) (img : ℕ) {o : ℕ} {b : UInt8}
    (hstored : ∃ st ∈ captureNV21 s gain s.sensorWidth, st.offset = o)
    (hagreed : ∀ st ∈ captureNV21 s gain s.sensorWidth, st.offset = o → st.value = b) :
    captured s gain m img (img + o) = b := by
  apply storeAll_agreed
  · obtain ⟨st, hst, ho⟩ := hstored
    exact ⟨_, List.mem_map_of_mem hst, by rw [ho]⟩
  · intro w hw ha
    obtain ⟨st, hst, rfl⟩ := List.mem_map.mp hw
    exact hagreed st hst (by simpa using ha)

theorem placed_of_mem (hW : 0 < s.sensorWidth) (hW₂ : s.sensorWidth % 2 = 0)
    (hH₂ : s.sensorHeight % 2 = 0)
    (hsmall : (s.sensorHeight + s.sensorHeight / 2 - 1) * s.sensorWidth < 4294967296)
    {st : Store} (hst : st ∈ captureNV21 s gain s.sensorWidth) :
    ∃ y < s.sensorHeight, ∃ x < s.sensorWidth,
      PixelStore y (y * s.sensorWidth) (s.sensorWidth * s.sensorHeight + y / 2 * s.sensorWidth) x
        (toYCbCr (scale64x gain) (s.pixelAt 1 x y)) st := by
  obtain ⟨y, hy, x, hx, hstore⟩ := (mem_captureNV21_full hW).mp hst
  obtain ⟨hluma, hchroma⟩ := rows_full hW hW₂ hH₂ hsmall hy
  rw [hluma, hchroma] at hstore
  exact ⟨y, hy, x, hx, hstore⟩

theorem mem_of_block (hW : 0 < s.sensorWidth) {i j : ℕ} (hi : i < s.sensorWidth / 2)
    (hj : j < s.sensorHeight / 2) {st : Store}
    (hst : st = ⟨chromaRow s s.sensorWidth (2 * j) + 2 * i, (blockColor s gain i j).cb⟩ ∨
      st = ⟨chromaRow s s.sensorWidth (2 * j) + 2 * i + 1, (blockColor s gain i j).cr⟩) :
    st ∈ captureNV21 s gain s.sensorWidth := by
  apply (mem_captureNV21_full hW).mpr
  refine ⟨2 * j, by omega, 2 * i, by omega, Or.inr ⟨by omega, by omega, hst⟩⟩

theorem captured_pair (gain : UInt32) (m : Memory) (img : ℕ) (hW₂ : s.sensorWidth % 2 = 0)
    (hH₂ : s.sensorHeight % 2 = 0)
    (hsmall : (s.sensorHeight + s.sensorHeight / 2 - 1) * s.sensorWidth < 4294967296) {i j : ℕ}
    (hi : i < s.sensorWidth / 2) (hj : j < s.sensorHeight / 2) :
    captured s gain m img
        (img + (s.sensorWidth * s.sensorHeight + (j * s.sensorWidth + 2 * i))) =
        (blockColor s gain i j).cb ∧
      captured s gain m img
        (img + (s.sensorWidth * s.sensorHeight + (j * s.sensorWidth + (2 * i + 1)))) =
        (blockColor s gain i j).cr := by
  have hW : 0 < s.sensorWidth := by omega
  have hchroma := (rows_full hW hW₂ hH₂ hsmall (by omega : 2 * j < s.sensorHeight)).2
  rw [Nat.mul_div_cancel_left j (by norm_num)] at hchroma
  constructor
  · apply captured_agreed
    · exact ⟨_, mem_of_block hW hi hj (Or.inl rfl), by rw [hchroma, Nat.add_assoc]⟩
    · intro st hst hoffset
      obtain ⟨y, hy, x, hx, hstore⟩ := placed_of_mem hW hW₂ hH₂ hsmall hst
      obtain ⟨rfl, heven, ⟨hc, hvalue⟩ | ⟨hc, -⟩⟩ :=
        pixelStore_at_pair hW₂ hy hx (by omega) hstore hoffset
      · rw [hvalue, blockColor, hc]
      · omega
  · apply captured_agreed
    · exact ⟨_, mem_of_block hW hi hj (Or.inr rfl), by rw [hchroma, Nat.add_assoc, Nat.add_assoc]⟩
    · intro st hst hoffset
      obtain ⟨y, hy, x, hx, hstore⟩ := placed_of_mem hW hW₂ hH₂ hsmall hst
      obtain ⟨rfl, heven, ⟨hc, -⟩ | ⟨hc, hvalue⟩⟩ :=
        pixelStore_at_pair hW₂ hy hx (by omega) hstore hoffset
      · omega
      · rw [hvalue, blockColor, Nat.succ_injective hc]

end Captured

def PairsAgree (s : Scene) (gain : UInt32) (m : Memory) (img : ℕ) : Prop :=
  ∀ i < s.sensorWidth / 2, ∀ j < s.sensorHeight / 2,
    m (img + (s.sensorWidth * s.sensorHeight + (j * s.sensorWidth + (2 * i + 1)))) =
        (blockColor s gain i j).cb ∧
      m (img + (s.sensorWidth * s.sensorHeight + (j * s.sensorWidth + 2 * i))) =
        (blockColor s gain i j).cr

section Readers
variable {s : Scene} {gain : UInt32} {m : Memory} {img : ℕ}

theorem pair_offset {w : ℕ} (hw : w % 2 = 0) (i j : ℕ) :
    (j * (w / 2) + i) * 2 = j * w + 2 * i := by
  obtain ⟨n, rfl⟩ := Nat.dvd_of_mod_eq_zero hw
  rw [Nat.mul_div_cancel_left n (by norm_num)]
  ring

theorem block_lt {w h : ℕ} (hw : w % 2 = 0) (hh : h % 2 = 0) {i j : ℕ} (hi : i < w / 2)
    (hj : j < h / 2) : j * (w / 2) + i < w * h / 4 := by
  obtain ⟨a, ha⟩ := Nat.dvd_of_mod_eq_zero hw
  obtain ⟨b, hb⟩ := Nat.dvd_of_mod_eq_zero hh
  have hfour : w * h = b * a * 4 := by
    rw [ha, hb]
    ring
  have hrow : (j + 1) * a ≤ b * a := Nat.mul_le_mul_right a (by omega)
  have hhalf : w / 2 = a := by omega
  rw [Nat.succ_mul] at hrow
  rw [hfour, Nat.mul_div_cancel _ (by norm_num), hhalf]
  omega

structure ReadSize (s : Scene) : Prop where
  width : (readWidth s).toInt = s.sensorWidth
  height : (readHeight s).toInt = s.sensorHeight
  total : pixTotal (readWidth s) (readHeight s) = (s.sensorWidth * s.sensorHeight : ℕ)

theorem readSize_of_fits (hW : 0 < s.sensorWidth) (hH : 0 < s.sensorHeight)
    (hfits : s.sensorWidth * s.sensorHeight < 2 ^ 31) : ReadSize s := by
  have hwidth : s.sensorWidth ≤ s.sensorWidth * s.sensorHeight := Nat.le_mul_of_pos_right _ hH
  have hheight : s.sensorHeight ≤ s.sensorWidth * s.sensorHeight := Nat.le_mul_of_pos_left _ hW
  have hw : (readWidth s).toInt = s.sensorWidth := Int32.toInt_ofNat_of_lt (by omega)
  have hh : (readHeight s).toInt = s.sensorHeight := Int32.toInt_ofNat_of_lt (by omega)
  exact ⟨hw, hh, toInt_mul_natCast hw hh hfits⟩

theorem ReadSize.visits (hs : ReadSize s) (img : ℕ) :
    (Packing.nv21.bases32 img (readWidth s) (readHeight s)).visits img (readWidth s)
        (readHeight s) =
      Camera1.yuv420SVisits img (img + (s.sensorWidth * s.sensorHeight + 1))
        (img + s.sensorWidth * s.sensorHeight) 2 s.sensorWidth s.sensorHeight := by
  have hone : ((s.sensorWidth * s.sensorHeight : ℕ) : ℤ) + 1 =
      (s.sensorWidth * s.sensorHeight + 1 : ℕ) := by push_cast; rfl
  simp only [Packing.bases32, Camera1.PlaneBases.visits, hs.total, hone, pointer_natCast,
    toNatClampNeg_eq hs.width, toNatClampNeg_eq hs.height]

theorem ReadSize.sourcePlanes_eq (hs : ReadSize s) (m : Memory) (img : ℕ) :
    sourcePlanes m img (readWidth s) (readHeight s) = some
      { v := (List.range (s.sensorWidth * s.sensorHeight / 4)).map fun i =>
          m (img + (s.sensorWidth * s.sensorHeight + (i * 2 + 0)))
        u := (List.range (s.sensorWidth * s.sensorHeight / 4)).map fun i =>
          m (img + (s.sensorWidth * s.sensorHeight + (i * 2 + 1))) } := by
  have hsize : vectorSize (readWidth s * readHeight s / 4) =
      some (s.sensorWidth * s.sensorHeight / 4) :=
    vectorSize_of_toInt (toInt_div_natCast (b := 4) hs.total rfl)
  simp only [sourcePlanes, hsize, hs.total, Option.map_some, ← Nat.cast_add, pointer_natCast]

theorem yuv420SVisits_spec {frame width height : ℕ} {v : Visit Unit} (hw : width % 2 = 0)
    (h : v ∈ Camera1.yuv420SVisits frame (frame + (width * height + 1)) (frame + width * height) 2
      width height) :
    v.x / 2 < width / 2 ∧ v.y < height ∧
      v.cursor.U = frame + (width * height + (v.y / 2 * width + (2 * (v.x / 2) + 1))) ∧
      v.cursor.V = frame + (width * height + (v.y / 2 * width + 2 * (v.x / 2))) := by
  have hlocated := Camera1.yuv420SVisits_located hw h
  have hstart : AtRow (frame + (width * height + 1)) (frame + width * height) 2
      ((width + 1) / 2) 0 ⟨frame, frame + (width * height + 1), frame + width * height⟩ :=
    ⟨by simp, by simp⟩
  obtain ⟨-, hy, hx⟩ := mem_scanRows hstart hstart h
  obtain ⟨hU, hV⟩ := hlocated
  rw [pair_offset hw] at hU hV
  refine ⟨by omega, by omega, by omega, by omega⟩

theorem ReadSize.converterAgrees_iff (hs : ReadSize s) (hW₂ : s.sensorWidth % 2 = 0)
    (hH₂ : s.sensorHeight % 2 = 0) :
    ConverterAgrees s gain m img ↔ PairsAgree s gain m img := by
  unfold ConverterAgrees
  rw [hs.visits]
  constructor
  · intro hagree i hi j hj
    obtain ⟨v, hv, hx, hy⟩ := Camera1.exists_yuv420SVisits (Y := img)
      (img + (s.sensorWidth * s.sensorHeight + 1)) (img + s.sensorWidth * s.sensorHeight) 2 hW₂
      (by omega : 2 * i < s.sensorWidth) (by omega : 2 * j < s.sensorHeight)
    have hi' : v.x / 2 = i := by omega
    have hj' : v.y / 2 = j := by omega
    obtain ⟨-, -, hU, hV⟩ := yuv420SVisits_spec hW₂ hv
    have hcolor := hagree v hv
    rwa [hU, hV, hi', hj'] at hcolor
  · intro hpairs v hv
    obtain ⟨hx, hy, hU, hV⟩ := yuv420SVisits_spec hW₂ hv
    rw [hU, hV]
    exact hpairs (v.x / 2) hx (v.y / 2) (by omega)

theorem ReadSize.thumbnailAgrees_iff (hs : ReadSize s) (hW₂ : s.sensorWidth % 2 = 0)
    (hH₂ : s.sensorHeight % 2 = 0) :
    ThumbnailAgrees s gain m img ↔ PairsAgree s gain m img := by
  have hblock {i j : ℕ} (hi : i < s.sensorWidth / 2) (hj : j < s.sensorHeight / 2) :
      (List.range (s.sensorWidth * s.sensorHeight / 4))[j * (s.sensorWidth / 2) + i]? =
        some (j * (s.sensorWidth / 2) + i) := List.getElem?_range (block_lt hW₂ hH₂ hi hj)
  unfold ThumbnailAgrees
  rw [hs.sourcePlanes_eq]
  constructor
  · intro hagree i hi j hj
    obtain ⟨planes, hplanes, hcolors⟩ := hagree
    have hcolor := hcolors i hi j hj
    rw [← Option.some.inj hplanes] at hcolor
    simpa only [List.getElem?_map, hblock hi hj, Option.map_some, pair_offset hW₂, Nat.add_zero,
      Nat.add_assoc, Option.some.injEq] using hcolor
  · intro hpairs
    refine ⟨_, rfl, fun i hi j hj => ?_⟩
    have hcolor := hpairs i hi j hj
    simpa only [List.getElem?_map, hblock hi hj, Option.map_some, pair_offset hW₂, Nat.add_zero,
      Nat.add_assoc, Option.some.injEq] using hcolor

end Readers

section Agreement
variable {s : Scene} {gain : UInt32}

theorem pairsAgree_iff (hW₂ : s.sensorWidth % 2 = 0) (hH₂ : s.sensorHeight % 2 = 0)
    (hfits : s.sensorWidth * s.sensorHeight < 2 ^ 31) :
    (∀ m img, PairsAgree s gain (captured s gain m img) img) ↔
      ∀ i < s.sensorWidth / 2, ∀ j < s.sensorHeight / 2,
        EqualChroma (scale64x gain) (s.pixelAt 1 (2 * i) (2 * j)) := by
  have hrows : (s.sensorHeight + s.sensorHeight / 2 - 1) * s.sensorWidth ≤
      2 * s.sensorHeight * s.sensorWidth := Nat.mul_le_mul_right _ (by omega)
  have hsmall : (s.sensorHeight + s.sensorHeight / 2 - 1) * s.sensorWidth < 4294967296 := by
    rw [Nat.mul_assoc, Nat.mul_comm s.sensorHeight] at hrows
    omega
  constructor
  · intro hpairs i hi j hj
    obtain ⟨hU, -⟩ := hpairs (fun _ => 0) 0 i hi j hj
    obtain ⟨-, hcr⟩ := captured_pair gain (fun _ => 0) 0 hW₂ hH₂ hsmall hi hj
    exact equalChroma_iff.mpr (hU.symm.trans hcr)
  · intro hequal m img i hi j hj
    obtain ⟨hcb, hcr⟩ := captured_pair gain m img hW₂ hH₂ hsmall hi hj
    have hsame : (blockColor s gain i j).cb = (blockColor s gain i j).cr :=
      equalChroma_iff.mp (hequal i hi j hj)
    exact ⟨hcr.trans hsame.symm, hcb.trans hsame⟩

theorem ReadSize.readers_iff_pairs (hs : ReadSize s) (hW₂ : s.sensorWidth % 2 = 0)
    (hH₂ : s.sensorHeight % 2 = 0) :
    ReadersAgree s gain ↔ ∀ m img, PairsAgree s gain (captured s gain m img) img := by
  constructor
  · intro hagree m img
    exact (hs.converterAgrees_iff hW₂ hH₂).mp (hagree m img).1
  · intro hpairs m img
    exact ⟨(hs.converterAgrees_iff hW₂ hH₂).mpr (hpairs m img),
      (hs.thumbnailAgrees_iff hW₂ hH₂).mpr (hpairs m img)⟩

theorem fits_of_readersAgree (hW : 0 < s.sensorWidth) (hH : 0 < s.sensorHeight)
    (hW₂ : s.sensorWidth % 2 = 0) (hH₂ : s.sensorHeight % 2 = 0)
    (hpixels : s.sensorWidth * s.sensorHeight < 2 ^ 32) (hagree : ReadersAgree s gain) :
    s.sensorWidth * s.sensorHeight < 2 ^ 31 := by
  by_contra hlarge
  obtain ⟨planes, hplanes, -⟩ := (hagree (fun _ => 0) 0).2
  obtain ⟨a, ha⟩ := Nat.dvd_of_mod_eq_zero hW₂
  obtain ⟨b, hb⟩ := Nat.dvd_of_mod_eq_zero hH₂
  have hproduct : s.sensorWidth * s.sensorHeight = 4 * (a * b) := by
    rw [ha, hb]
    ring
  have hwidth : a ≤ a * b := Nat.le_mul_of_pos_right _ (by omega)
  have hheight : b ≤ a * b := Nat.le_mul_of_pos_left _ (by omega)
  have hw : (readWidth s).toInt = s.sensorWidth := Int32.toInt_ofNat_of_lt (by omega)
  have hh : (readHeight s).toInt = s.sensorHeight := Int32.toInt_ofNat_of_lt (by omega)
  have htotal : (readWidth s * readHeight s).toInt = 4 * ((a * b : ℕ) - 2 ^ 30) := by
    rw [Int32.toInt_mul, hw, hh, ← Nat.cast_mul, hproduct]
    generalize a * b = n at hproduct
    have hwrapped : ((4 * n : ℕ) : ℤ) = 4 * ((n : ℤ) - 2 ^ 30) + ((2 ^ 32 : ℕ) : ℤ) := by
      push_cast
      ring
    rw [hwrapped, Int.add_bmod_right]
    exact bmod_eq_self (by omega) (by omega)
  have hfour : (4 : Int32).toInt = 4 := by decide
  have hquarter : (readWidth s * readHeight s / 4).toInt < 0 := by
    rw [Int32.toInt_div_of_ne_right _ _ (by decide), htotal, hfour,
      Int.mul_tdiv_cancel_left _ (by decide)]
    omega
  have hnone : ¬(0 : Int32) ≤ readWidth s * readHeight s / 4 := by
    rw [Int32.le_iff_toInt_le, not_le]
    exact hquarter
  simp [sourcePlanes, vectorSize, hnone] at hplanes

theorem readersAgree_empty (hempty : s.sensorWidth = 0 ∨ s.sensorHeight = 0) :
    ReadersAgree s gain := by
  intro m img
  constructor
  · intro v hv
    have hstart (b : Camera1.PlaneBases) (pairs : ℕ) :
        AtRow b.U b.V b.dUV pairs 0 ⟨img, b.U, b.V⟩ := ⟨by simp, by simp⟩
    obtain ⟨-, hy, hx⟩ := mem_scanRows (hstart _ _) (hstart _ _) hv
    rcases hempty with hzero | hzero
    · simp [readWidth, hzero] at hx
    · simp [readHeight, hzero] at hy
  · have htotal : readWidth s * readHeight s / 4 = 0 := by
      rcases hempty with hzero | hzero
      · simp [readWidth, hzero]
      · simp [readHeight, hzero]
    refine ⟨_, by rw [sourcePlanes, htotal]; rfl, fun i hi j hj => ?_⟩
    omega

end Agreement

def uniformScene (width height : ℕ) (red green blue : UInt32) : Scene where
  sensorWidth := width
  sensorHeight := height
  handshakeX := 0
  handshakeY := 0
  currentColors := fun k =>
    if k % numChannels = ColorChannels.R.ctorIdx then red
    else if k % numChannels = ColorChannels.B.ctorIdx then blue
    else green
  beyondScene := fun _ => 0

end Rpi3Device.Camera3.Nv21Layout
