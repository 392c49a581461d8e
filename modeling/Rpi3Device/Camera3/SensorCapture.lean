import Mathlib.Tactic
import Rpi3Device.BinaryFloat

/-!
# The image loops of the fake sensor

The scene is a map of twenty by twenty materials that is read out pixel by pixel, left
to right, with a cursor that is placed anew for every row. `captureRGBA` and
`captureNV21` step over the sensor in both directions by the number of sensor pixels
that go into one output pixel of a row, rounded up, and write through running pointers.
A capture is the list of its stores, each with its offset from the start of the image;
the offsets of the rows are computed with 32 bits.
-/

namespace Rpi3Device.Camera3.SensorCapture
open BinaryFloat

inductive ColorChannels
  | R | Gr | Gb | B | Y | Cb | Cr

def numChannels : ℕ := 7

inductive Materials
  | grass | grassShadow | hill | wall | roof | door | chimney | window | sun | sky | moon

def Materials.first (m : Materials) : UInt8 := UInt8.ofNat (m.ctorIdx * numChannels)

def kSceneWidth : ℕ := 20

def kSceneHeight : ℕ := 20

def kScene : List UInt8 :=
  let G := Materials.grass.first
  let S := Materials.grassShadow.first
  let H := Materials.hill.first
  let W := Materials.wall.first
  let R := Materials.roof.first
  let D := Materials.door.first
  let C := Materials.chimney.first
  let I := Materials.window.first
  let K := Materials.sky.first
  [ K, K, K, K, K, K, K, K, K, K, K, K, K, K, K, K, K, K, K, K,
    K, K, K, K, K, K, K, K, K, K, K, K, K, K, K, K, K, K, K, K,
    K, K, K, K, K, K, K, K, K, K, K, K, K, K, K, K, K, K, K, K,
    K, K, K, K, K, K, K, K, K, K, K, K, K, K, K, K, K, K, K, K,
    K, K, K, K, K, K, K, K, K, K, K, K, K, K, K, K, K, K, K, K,
    K, K, K, K, K, K, K, K, K, K, K, K, K, K, K, K, K, K, K, K,
    K, K, K, K, K, K, K, K, H, H, H, H, H, H, H, H, H, H, H, H,
    K, K, K, K, K, K, K, K, H, H, H, H, H, H, H, C, C, H, H, H,
    K, K, K, K, K, K, H, H, H, H, H, H, H, H, H, C, C, H, H, H,
    H, K, K, K, K, K, H, R, R, R, R, R, R, R, R, R, R, R, R, H,
    H, K, K, K, K, H, H, R, R, R, R, R, R, R, R, R, R, R, R, H,
    H, H, H, K, K, H, H, R, R, R, R, R, R, R, R, R, R, R, R, H,
    H, H, H, K, K, H, H, H, W, W, W, W, W, W, W, W, W, W, H, H,
    S, S, S, G, G, S, S, S, W, W, W, W, W, W, W, W, W, W, S, S,
    S, G, G, G, G, S, S, S, W, I, I, W, D, D, W, I, I, W, S, S,
    G, G, G, G, G, G, S, S, W, I, I, W, D, D, W, I, I, W, S, S,
    G, G, G, G, G, G, G, G, W, W, W, W, D, D, W, W, W, W, G, G,
    G, G, G, G, G, G, G, G, W, W, W, W, D, D, W, W, W, W, G, G,
    G, G, G, G, G, G, G, G, S, S, S, S, S, S, S, S, S, S, G, G,
    G, G, G, G, G, G, G, G, S, S, S, S, S, S, S, S, S, S, G, G ]

structure Scene where
  sensorWidth : ℕ
  sensorHeight : ℕ
  handshakeX : ℤ
  handshakeY : ℤ
  /-- The words from `mCurrentColors` on. -/
  currentColors : ℕ → UInt32
  /-- What an index outside `kScene` reads. -/
  beyondScene : ℤ → UInt8

structure Readout where
  currentX : ℤ
  currentY : ℤ
  subX : ℤ
  subY : ℤ
  sceneX : ℤ
  sceneY : ℤ
  sceneIdx : ℤ
  currentSceneMaterial : ℕ

namespace Scene
variable (s : Scene)

def mapDiv : ℤ :=
  if s.sensorWidth > s.sensorHeight then (s.sensorWidth / (kSceneWidth + 1) + 1 : ℕ)
  else (s.sensorHeight / (kSceneHeight + 1) + 1 : ℕ)

def offsetX : ℤ := (kSceneWidth * s.mapDiv - s.sensorWidth).tdiv 2

def offsetY : ℤ := (kSceneHeight * s.mapDiv - s.sensorHeight).tdiv 2

def materialAt (idx : ℤ) : ℕ :=
  if 0 ≤ idx ∧ idx < kScene.length then (kScene.getD idx.toNat 0).toNat
  else (s.beyondScene idx).toNat

def setReadoutPixel (x y : ℤ) : Readout :=
  let sceneX := (x + s.offsetX + s.handshakeX).tdiv s.mapDiv
  let sceneY := (y + s.offsetY + s.handshakeY).tdiv s.mapDiv
  let sceneIdx := sceneY * kSceneWidth + sceneX
  { currentX := x
    currentY := y
    subX := (x + s.offsetX + s.handshakeX).tmod s.mapDiv
    subY := (y + s.offsetY + s.handshakeY).tmod s.mapDiv
    sceneX := sceneX
    sceneY := sceneY
    sceneIdx := sceneIdx
    currentSceneMaterial := s.materialAt sceneIdx }

def getPixelElectrons (r : Readout) : (ColorChannels → UInt32) × Readout :=
  let pixel := fun c : ColorChannels => s.currentColors (r.currentSceneMaterial + c.ctorIdx)
  let x := r.currentX + 1
  let subX := r.subX + 1
  let next :=
    if x ≥ s.sensorWidth then
      let y := r.currentY + 1
      s.setReadoutPixel 0 (if y ≥ s.sensorHeight then 0 else y)
    else if subX > s.mapDiv then
      { r with
        currentX := x
        subX := 0
        sceneX := r.sceneX + 1
        sceneIdx := r.sceneIdx + 1
        currentSceneMaterial := s.materialAt (r.sceneIdx + 1) }
    else { r with currentX := x, subX := subX }
  (pixel, next)

def nextPixel (inc : ℕ) (r : Readout) : Readout :=
  (fun r => (s.getPixelElectrons r).2)^[inc - 1] (s.getPixelElectrons r).2

def pixelAt (inc x y : ℕ) : ColorChannels → UInt32 :=
  (s.getPixelElectrons ((s.nextPixel inc)^[x] (s.setReadoutPixel 0 (y * inc : ℕ)))).1

end Scene

/-- `64 * totalGain * 255 / kMaxRawValue` as an `int`, with `totalGain` rounded to single
precision from the double `gain / 100.0 * kBaseGainFactor`. -/
def scale64x (gain : UInt32) : UInt32 :=
  let totalGain := round 24 (round 53 (round 53 (gain.toNat / 100) * 2))
  UInt32.ofNat ⌊round 24 (round 24 (round 24 (64 * totalGain) * 255) / 4000)⌋₊

/-- `ceil((float)mResolution[0] / stride)`. -/
def increment (s : Scene) (stride : ℕ) : ℕ := ceilQuotient 24 s.sensorWidth stride

/-- The rounds of `for (i = 0; i < n; i += inc)`; in round `k` the variable is `k * inc`. -/
def rounds (n inc : ℕ) : List ℕ := (List.range n).filter fun k => k * inc < n

def roundCount (n inc : ℕ) : ℕ := (n + inc - 1) / inc

def wrap32 (n : ℕ) : ℕ := n % 4294967296

structure Store where
  offset : ℕ
  value : UInt8
deriving DecidableEq

def rgbaByte (count : UInt32) : UInt8 := if count < 255 * 64 then (count / 64).toUInt8 else 255

def rgbaRow (s : Scene) (scale : UInt32) (inc : ℕ) : ℕ → ℕ → Readout → List Store
  | 0, _, _ => []
  | n + 1, px, r =>
    let pixel := (s.getPixelElectrons r).1
    ⟨px, rgbaByte (pixel .R * scale)⟩ :: ⟨px + 1, rgbaByte (pixel .Gr * scale)⟩ ::
      ⟨px + 2, rgbaByte (pixel .B * scale)⟩ :: ⟨px + 3, 255⟩ ::
      rgbaRow s scale inc n (px + 4) (s.nextPixel inc r)

def captureRGBA (s : Scene) (gain : UInt32) (stride : ℕ) : List Store :=
  let inc := increment s stride
  (rounds s.sensorHeight inc).flatMap fun outY =>
    rgbaRow s (scale64x gain) inc (rounds s.sensorWidth inc).length (wrap32 (outY * stride * 4))
      (s.setReadoutPixel 0 (outY * inc : ℕ))

/-- A count of `captureNV21`: an `int32_t`, cut off at the saturation point. -/
def saturatedCount (electrons scale : UInt32) : ℤ :=
  let count := (electrons * scale).toInt32.toInt
  if count < 64 * 255 then count else 64 * 255

structure YCbCr where
  y : UInt8
  cb : UInt8
  cr : UInt8
deriving DecidableEq

def toYCbCr (scale : UInt32) (pixel : ColorChannels → UInt32) : YCbCr :=
  let rCount := saturatedCount (pixel .R) scale
  let gCount := saturatedCount (pixel .Gr) scale
  let bCount := saturatedCount (pixel .B) scale
  { y := UInt8.ofInt ((19 * rCount + 37 * gCount + 7 * bCount).tdiv 4096)
    cb := UInt8.ofInt ((-10 * rCount + -21 * gCount + 32 * bCount + 524288).tdiv 4096)
    cr := UInt8.ofInt ((32 * rCount + -26 * gCount + -5 * bCount + 524288).tdiv 4096) }

def nv21Row (s : Scene) (scale : UInt32) (inc outY : ℕ) :
    ℕ → ℕ → ℕ → ℕ → Readout → List Store
  | 0, _, _, _, _ => []
  | n + 1, outX, pxY, pxVU, r =>
    let c := toYCbCr scale (s.getPixelElectrons r).1
    ⟨pxY, c.y⟩ ::
      if outY % 2 = 0 ∧ outX % 2 = 0 then
        ⟨pxVU, c.cb⟩ :: ⟨pxVU + 1, c.cr⟩ ::
          nv21Row s scale inc outY n (outX + 1) (pxY + 1) (pxVU + 2) (s.nextPixel inc r)
      else nv21Row s scale inc outY n (outX + 1) (pxY + 1) pxVU (s.nextPixel inc r)

def lumaRow (stride outY : ℕ) : ℕ := wrap32 (outY * stride)

def chromaRow (s : Scene) (stride outY : ℕ) : ℕ :=
  let outH := s.sensorHeight / increment s stride
  wrap32 ((outH + outY / 2) * stride)

def captureNV21 (s : Scene) (gain : UInt32) (stride : ℕ) : List Store :=
  let inc := increment s stride
  (rounds s.sensorHeight inc).flatMap fun outY =>
    nv21Row s (scale64x gain) inc outY stride 0 (lumaRow stride outY) (chromaRow s stride outY)
      (s.setReadoutPixel 0 (outY * inc : ℕ))

section Rounds
variable {n inc : ℕ}

theorem lt_roundCount_iff (hinc : 0 < inc) {k : ℕ} : k < roundCount n inc ↔ k * inc < n := by
  rw [roundCount, ← @Nat.succ_le_iff k, Nat.le_div_iff_mul_le hinc, Nat.succ_mul]
  omega

theorem roundCount_le_iff (hinc : 0 < inc) {m : ℕ} : roundCount n inc ≤ m ↔ n ≤ m * inc := by
  rw [← not_lt, lt_roundCount_iff hinc, not_lt]

theorem roundCount_pos (hinc : 0 < inc) (hn : 0 < n) : 0 < roundCount n inc := by
  rw [lt_roundCount_iff hinc, Nat.zero_mul]
  exact hn

@[simp] theorem roundCount_one (n : ℕ) : roundCount n 1 = n := by
  rw [roundCount, Nat.add_sub_cancel, Nat.div_one]

theorem rounds_eq_range (n : ℕ) (hinc : 0 < inc) :
    rounds n inc = List.range (roundCount n inc) := by
  have hle : roundCount n inc ≤ n :=
    (roundCount_le_iff hinc).mpr (Nat.le_mul_of_pos_right n hinc)
  obtain ⟨rest, hrest⟩ := Nat.exists_eq_add_of_le hle
  have hfirst : (List.range (roundCount n inc)).filter (fun k => k * inc < n) =
      List.range (roundCount n inc) := by
    rw [List.filter_eq_self]
    intro k hk
    exact decide_eq_true ((lt_roundCount_iff hinc).mp (List.mem_range.mp hk))
  have hlast : ((List.range rest).map (roundCount n inc + ·)).filter (fun k => k * inc < n) =
      [] := by
    rw [List.filter_eq_nil_iff]
    intro k hk
    obtain ⟨j, -, hj⟩ := List.mem_map.mp hk
    simp only [decide_eq_true_eq, ← lt_roundCount_iff hinc]
    omega
  calc rounds n inc
      = (List.range (roundCount n inc + rest)).filter (fun k => k * inc < n) := by
        rw [rounds, ← hrest]
    _ = List.range (roundCount n inc) := by
        rw [List.range_add, List.filter_append, hfirst, hlast, List.append_nil]

end Rounds

theorem rgbaRow_offsets (s : Scene) (scale : UInt32) (inc n px : ℕ) (r : Readout) :
    (rgbaRow s scale inc n px r).map Store.offset = List.range' px (4 * n) := by
  induction n generalizing px r with
  | zero => rfl
  | succ n ih =>
    have hfour : 4 * (n + 1) = 4 * n + 1 + 1 + 1 + 1 := by ring
    rw [hfour, List.range'_succ, List.range'_succ, List.range'_succ, List.range'_succ]
    simp [rgbaRow, ih]

def PixelStore (outY Y VU x : ℕ) (c : YCbCr) (st : Store) : Prop :=
  st = ⟨Y + x, c.y⟩ ∨
    outY % 2 = 0 ∧ x % 2 = 0 ∧ (st = ⟨VU + x, c.cb⟩ ∨ st = ⟨VU + x + 1, c.cr⟩)

theorem exists_column_succ (P : ℕ → Prop) (outX n : ℕ) :
    (∃ x, outX ≤ x ∧ x < outX + (n + 1) ∧ P x) ↔
      P outX ∨ ∃ x, outX + 1 ≤ x ∧ x < outX + 1 + n ∧ P x := by
  constructor
  · intro h
    obtain ⟨x, hlo, hhi, hx⟩ := h
    by_cases heq : x = outX
    · exact Or.inl (heq ▸ hx)
    · exact Or.inr ⟨x, by omega, by omega, hx⟩
  · intro h
    rcases h with hx | ⟨x, hlo, hhi, hx⟩
    · exact ⟨outX, le_rfl, by omega, hx⟩
    · exact ⟨x, by omega, by omega, hx⟩

theorem mem_nv21Row {s : Scene} {scale : UInt32} {inc outY n outX pxY pxVU Y VU : ℕ}
    {r row : Readout} {st : Store} (hY : pxY = Y + outX)
    (hVU : outY % 2 = 0 → pxVU = VU + 2 * ((outX + 1) / 2))
    (hr : r = (s.nextPixel inc)^[outX] row) :
    st ∈ nv21Row s scale inc outY n outX pxY pxVU r ↔
      ∃ x, outX ≤ x ∧ x < outX + n ∧ PixelStore outY Y VU x
        (toYCbCr scale (s.getPixelElectrons ((s.nextPixel inc)^[x] row)).1) st := by
  induction n generalizing outX pxY pxVU r with
  | zero =>
    simp only [nv21Row, List.not_mem_nil, false_iff]
    intro h
    obtain ⟨x, hlo, hhi, -⟩ := h
    omega
  | succ n ih =>
    have hnext : s.nextPixel inc r = (s.nextPixel inc)^[outX + 1] row := by
      rw [hr, Function.iterate_succ_apply']
    rw [exists_column_succ]
    have hY' : pxY + 1 = Y + (outX + 1) := by omega
    rw [← hr]
    by_cases hpair : outY % 2 = 0 ∧ outX % 2 = 0
    · have hstart := hVU hpair.1
      have hVU' : pxVU + 2 = VU + 2 * ((outX + 1 + 1) / 2) := by omega
      have hat : pxVU = VU + outX := by omega
      rw [nv21Row, if_pos hpair, List.mem_cons, List.mem_cons, List.mem_cons,
        ih hY' (fun _ => hVU') hnext, hY, hat, PixelStore, and_iff_right hpair.1,
        and_iff_right hpair.2, or_assoc, or_assoc]
    · have hVU' (heven : outY % 2 = 0) : pxVU = VU + 2 * ((outX + 1 + 1) / 2) := by
        have hstart := hVU heven
        omega
      rw [nv21Row, if_neg hpair, List.mem_cons, ih hY' hVU' hnext, hY, PixelStore, ← and_assoc,
        iff_false_intro hpair, false_and, or_false]

theorem mem_captureNV21 {s : Scene} {gain : UInt32} {stride : ℕ} {st : Store}
    (hinc : 0 < increment s stride) :
    st ∈ captureNV21 s gain stride ↔
      ∃ outY < roundCount s.sensorHeight (increment s stride), ∃ x < stride,
        PixelStore outY (lumaRow stride outY) (chromaRow s stride outY) x
          (toYCbCr (scale64x gain) (s.pixelAt (increment s stride) x outY)) st := by
  have hrow (outY : ℕ) :
      st ∈ nv21Row s (scale64x gain) (increment s stride) outY stride 0 (lumaRow stride outY)
          (chromaRow s stride outY) (s.setReadoutPixel 0 (outY * increment s stride : ℕ)) ↔
        ∃ x, 0 ≤ x ∧ x < 0 + stride ∧
          PixelStore outY (lumaRow stride outY) (chromaRow s stride outY) x
            (toYCbCr (scale64x gain) (s.pixelAt (increment s stride) x outY)) st :=
    mem_nv21Row rfl (fun _ => rfl) rfl
  simp only [captureNV21, rounds_eq_range _ hinc, List.mem_flatMap, List.mem_range, hrow,
    Nat.zero_le, true_and, Nat.zero_add]

end Rpi3Device.Camera3.SensorCapture
