import Mathlib.Tactic
import Rpi3Device.Camera3.SensorOutput

/-!
# Where a readout of the scene is on the map

A pixel is placed on the map of materials by dividing its coordinate, moved by the
centring offset and by the handshake, by the size of a cell. The readout of a row
divides only once, for its first pixel, and then counts: a counter of pixels inside the
cell goes up with every call and starts again at zero when it has passed the size of a
cell. The counter therefore stays one pixel longer in a cell than the division does.
-/

namespace Rpi3Device.Camera3.SceneReadout
open SensorCapture SensorOutput

/-- `m` is the pixel `r` of the cell `q`, with cells of `d` pixels; what lies left of the
first cell counts as part of it. -/
def InCell (d m q r : ℤ) : Prop :=
  m = q * d + r ∧ ((0 ≤ q ∧ 0 ≤ r ∧ r < d) ∨ (q = 0 ∧ -d < r ∧ r < 0))

theorem inCell_tdiv {d m : ℤ} (hm : -d < m) (hd : 0 < d) :
    InCell d m (m.tdiv d) (m.tmod d) := by
  have hsum : m.tdiv d * d + m.tmod d = m := Int.tdiv_mul_add_tmod m d
  refine ⟨hsum.symm, ?_⟩
  rcases lt_or_ge m 0 with hneg | hpos
  · right
    have hq : m.tdiv d = 0 := by
      have h : (-m).tdiv d = 0 := Int.tdiv_eq_zero_of_lt (by omega) (by omega)
      rw [Int.neg_tdiv] at h
      omega
    rw [hq] at hsum ⊢
    omega
  · left
    exact ⟨Int.tdiv_nonneg hpos hd.le, Int.tmod_nonneg d hpos, Int.tmod_lt_of_pos m hd⟩

theorem InCell.unique {d m q r q' r' : ℤ} (h : InCell d m q r) (h' : InCell d m q' r') :
    q = q' ∧ r = r' := by
  obtain ⟨hm, hc⟩ := h
  obtain ⟨hm', hc'⟩ := h'
  have hq : q = q' := by
    rcases lt_trichotomy q q' with hlt | heq | hgt
    · rcases hc with hc | hc <;> rcases hc' with hc' | hc' <;> nlinarith
    · exact heq
    · rcases hc with hc | hc <;> rcases hc' with hc' | hc' <;> nlinarith
  subst hq
  exact ⟨rfl, by omega⟩

theorem InCell.tdiv_eq {d m q r : ℤ} (h : InCell d m q r) (hm : -d < m) (hd : 0 < d) :
    m.tdiv d = q :=
  ((inCell_tdiv hm hd).unique h).1

theorem InCell.nonneg {d m q r : ℤ} (h : InCell d m q r) : 0 ≤ q := by
  rcases h.2 with hc | hc <;> omega

theorem InCell.lt_iff {d m q r k : ℤ} (h : InCell d m q r) (hd : 0 < d) (hk : 0 < k) :
    q < k ↔ m < k * d := by
  obtain ⟨hm, hc⟩ := h
  constructor
  · intro hq
    rcases hc with hc | hc <;> nlinarith
  · intro hlt
    by_contra hq
    rcases hc with hc | hc
    · nlinarith
    · omega

theorem InCell.widen {d m q r : ℤ} (h : InCell d m q r) (hqd : q ≤ d) :
    ∃ p, InCell (d + 1) m (if q ≤ r ∨ q = 0 then q else q - 1) p := by
  obtain ⟨hm, hc⟩ := h
  by_cases hq : q ≤ r ∨ q = 0
  · rw [if_pos hq]
    refine ⟨r - q, by rw [hm]; ring, ?_⟩
    omega
  · rw [if_neg hq]
    refine ⟨r - q + d + 1, by rw [hm]; ring, ?_⟩
    omega

theorem tdiv_two (m : ℤ) : m - 1 ≤ 2 * m.tdiv 2 ∧ 2 * m.tdiv 2 ≤ m + 1 := by
  have hsum := Int.tdiv_mul_add_tmod m 2
  have hlow := Int.lt_tmod_of_pos m (show (0 : ℤ) < 2 by norm_num)
  have hhigh := Int.tmod_lt_of_pos m (show (0 : ℤ) < 2 by norm_num)
  omega

structure Admitted (s : Scene) : Prop where
  width : 640 ≤ s.sensorWidth
  height : 480 ≤ s.sensorHeight
  width_eight : 8 ∣ s.sensorWidth
  height_eight : 8 ∣ s.sensorHeight
  shakeX : |s.handshakeX| ≤ s.mapDiv * 18 / 100
  shakeY : |s.handshakeY| ≤ s.mapDiv * 18 / 100

namespace Admitted
variable {s : Scene}

theorem mapDiv_eq (s : Scene) :
    s.mapDiv = ((max s.sensorWidth s.sensorHeight / 21 + 1 : ℕ) : ℤ) := by
  unfold Scene.mapDiv kSceneWidth kSceneHeight
  split
  · rw [max_eq_left (by omega)]
  · rw [max_eq_right (by omega)]

theorem mapDiv_ge (h : Admitted s) : 31 ≤ s.mapDiv := by
  have hw := h.width
  rw [mapDiv_eq]
  omega

theorem width_le (s : Scene) : (s.sensorWidth : ℤ) ≤ 21 * s.mapDiv - 1 := by
  rw [mapDiv_eq]
  omega

theorem startX_gt (h : Admitted s) : -s.mapDiv < s.offsetX + s.handshakeX := by
  have hle := width_le s
  have hd := h.mapDiv_ge
  have hshake := abs_le.mp h.shakeX
  have hhalf := tdiv_two (kSceneWidth * s.mapDiv - s.sensorWidth)
  simp only [Scene.offsetX, kSceneWidth] at hhalf ⊢
  omega

theorem startY_gt (h : Admitted s) : -s.mapDiv < s.offsetY + s.handshakeY := by
  have hle : (s.sensorHeight : ℤ) ≤ 21 * s.mapDiv - 1 := by
    rw [mapDiv_eq]
    omega
  have hd := h.mapDiv_ge
  have hshake := abs_le.mp h.shakeY
  have hhalf := tdiv_two (kSceneHeight * s.mapDiv - s.sensorHeight)
  simp only [Scene.offsetY, kSceneHeight] at hhalf ⊢
  omega

end Admitted

def InMap (r : SensorCapture.Readout) : Prop :=
  (0 ≤ r.sceneX ∧ r.sceneX < kSceneWidth) ∧ 0 ≤ r.sceneY ∧ r.sceneY < kSceneHeight

def advance (s : Scene) (r : SensorCapture.Readout) : SensorCapture.Readout :=
  (s.getPixelElectrons r).2

/-- Every pixel is placed on the map, and so is every pixel that is reached from it along
its row. -/
def ReadoutInMap (s : Scene) : Prop :=
  ∀ x y : ℕ, x < s.sensorWidth → y < s.sensorHeight →
    InMap (s.setReadoutPixel x y) ∧
      ∀ n, x + n < s.sensorWidth → InMap ((advance s)^[n] (s.setReadoutPixel x y))

variable {s : Scene}

theorem inMap_iff (h : Admitted s) (x y : ℕ) :
    InMap (s.setReadoutPixel x y) ↔
      x + s.offsetX + s.handshakeX < kSceneWidth * s.mapDiv ∧
        y + s.offsetY + s.handshakeY < kSceneHeight * s.mapDiv := by
  have hd := h.mapDiv_ge
  have hX := h.startX_gt
  have hY := h.startY_gt
  have hx := inCell_tdiv (m := x + s.offsetX + s.handshakeX) (d := s.mapDiv)
    (by omega) (by omega)
  have hy := inCell_tdiv (m := y + s.offsetY + s.handshakeY) (d := s.mapDiv)
    (by omega) (by omega)
  rw [← hx.lt_iff (by omega) (by decide : (0 : ℤ) < kSceneWidth),
    ← hy.lt_iff (by omega) (by decide : (0 : ℤ) < kSceneHeight)]
  have hx₀ := hx.nonneg
  have hy₀ := hy.nonneg
  simp only [InMap, Scene.setReadoutPixel]
  exact ⟨fun hin => ⟨hin.1.2, hin.2.2⟩, fun hin => ⟨⟨hx₀, hin.1⟩, hy₀, hin.2⟩⟩

theorem last_pixel_outside {side : ℕ} {div shake : ℤ} (hside : 640 ≤ side) (hmul : 8 ∣ side)
    (hdiv : div = (side / 21 + 1 : ℕ)) (hshake : |shake| ≤ div * 18 / 100) :
    20 * div ≤ (side - 1 : ℕ) + (20 * div - side).tdiv 2 + shake := by
  obtain ⟨k, hk⟩ := hmul
  have hlow := (abs_le.mp hshake).1
  have hhalf := tdiv_two (20 * div - side)
  rcases lt_or_ge k 105 with hsmall | hlarge
  · have hk₀ : 80 ≤ k := by omega
    interval_cases k <;> omega
  · omega

theorem exists_outside (h : Admitted s) :
    ∃ x y : ℕ, x < s.sensorWidth ∧ y < s.sensorHeight ∧ ¬InMap (s.setReadoutPixel x y) := by
  have hw := h.width
  have hh := h.height
  rcases lt_or_ge s.sensorHeight s.sensorWidth with hwide | hhigh
  · refine ⟨s.sensorWidth - 1, 0, by omega, by omega, fun hin => ?_⟩
    have hd := Admitted.mapDiv_eq s
    rw [max_eq_left hwide.le] at hd
    have hout := last_pixel_outside hw h.width_eight hd h.shakeX
    exact absurd ((inMap_iff h _ _).mp hin).1 (not_lt.mpr hout)
  · refine ⟨0, s.sensorHeight - 1, by omega, by omega, fun hin => ?_⟩
    have hd := Admitted.mapDiv_eq s
    rw [max_eq_right hhigh] at hd
    have hout := last_pixel_outside (hw.trans hhigh) h.height_eight hd h.shakeY
    exact absurd ((inMap_iff h _ _).mp hin).2 (not_lt.mpr hout)

theorem readout_leaves_map (h : Admitted s) : ¬ReadoutInMap s := by
  intro hin
  obtain ⟨x, y, hx, hy, hout⟩ := exists_outside h
  exact hout (hin x y hx hy).1

theorem admitted_vga : Admitted (plainScene 640 480) := by
  constructor <;> decide

theorem readout_leaves_map_vga :
    Admitted (plainScene 640 480) ∧ ¬ReadoutInMap (plainScene 640 480) :=
  ⟨admitted_vga, readout_leaves_map admitted_vga⟩

/-- Without any handshake the last pixel of the first row of a sensor of 640 by 480 lies
right of the map. -/
theorem last_pixel_not_in_map :
    Admitted (plainScene 640 480) ∧
      ((plainScene 640 480).setReadoutPixel (639 : ℕ) (0 : ℕ)).sceneX = 20 ∧
      ¬ReadoutInMap (plainScene 640 480) := by
  refine ⟨admitted_vga, by decide, fun hin => ?_⟩
  have hlast := (hin 639 0 (by decide) (by decide)).1
  exact absurd hlast.1.2 (by decide)

variable (s) in
def sceneRow (y : ℕ) : ℤ := (y + s.offsetY + s.handshakeY).tdiv s.mapDiv

variable (s) in
def sceneColumn (x : ℕ) : ℤ := (x + s.offsetX + s.handshakeX).tdiv s.mapDiv

variable (s) in
def startSub : ℤ := (s.offsetX + s.handshakeX).tmod s.mapDiv

theorem start_inCell (h : Admitted s) :
    InCell s.mapDiv (s.offsetX + s.handshakeX) (sceneColumn s 0) (startSub s) := by
  have hd := h.mapDiv_ge
  have hin := inCell_tdiv h.startX_gt (by omega)
  simpa [sceneColumn, startSub] using hin

theorem startSub_bounds (h : Admitted s) : -s.mapDiv < startSub s ∧ startSub s < s.mapDiv := by
  have hd := h.mapDiv_ge
  rcases (start_inCell h).2 with hc | hc <;> omega

theorem sceneColumn_eq (h : Admitted s) (n : ℕ) :
    sceneColumn s n = sceneColumn s 0 + (startSub s + n).tdiv s.mapDiv := by
  have hd := h.mapDiv_ge
  have hX := h.startX_gt
  have hsub := startSub_bounds h
  have hfirst := start_inCell h
  have hrel := inCell_tdiv (m := startSub s + n) (d := s.mapDiv) (by omega) (by omega)
  have hcell : InCell s.mapDiv (n + s.offsetX + s.handshakeX)
      (sceneColumn s 0 + (startSub s + n).tdiv s.mapDiv) ((startSub s + n).tmod s.mapDiv) := by
    obtain ⟨hm, hc⟩ := hfirst
    obtain ⟨hm', hc'⟩ := hrel
    refine ⟨by linarith, ?_⟩
    rcases hc' with hc' | ⟨hq', hr'⟩
    · omega
    · rw [hq'] at hm' ⊢
      omega
  exact hcell.tdiv_eq (by omega) (by omega)

theorem InCell.succ {d m q r : ℤ} (h : InCell d m q r) (hd : 0 < d) :
    InCell d (m + 1) (if r + 1 = d then q + 1 else q) (if r + 1 = d then 0 else r + 1) := by
  obtain ⟨hm, hc⟩ := h
  split
  · next hlast =>
    refine ⟨by rw [hm]; linarith, ?_⟩
    omega
  · refine ⟨by rw [hm]; ring, ?_⟩
    omega

def counted (s : Scene) (y n : ℕ) : SensorCapture.Readout :=
  let cells := (startSub s + n).tdiv (s.mapDiv + 1)
  let first := s.setReadoutPixel 0 y
  { first with
    currentX := n
    subX := (startSub s + n).tmod (s.mapDiv + 1)
    sceneX := first.sceneX + cells
    sceneIdx := first.sceneIdx + cells
    currentSceneMaterial := s.materialAt (first.sceneIdx + cells) }

theorem advance_inside {r : SensorCapture.Readout} (hx : r.currentX + 1 < s.sensorWidth)
    (hsub : r.subX + 1 ≤ s.mapDiv) :
    advance s r = { r with currentX := r.currentX + 1, subX := r.subX + 1 } := by
  simp only [advance, Scene.getPixelElectrons]
  rw [if_neg (not_le.mpr hx), if_neg (not_lt.mpr hsub)]

theorem advance_past {r : SensorCapture.Readout} (hx : r.currentX + 1 < s.sensorWidth)
    (hsub : s.mapDiv < r.subX + 1) :
    advance s r =
      { r with
        currentX := r.currentX + 1
        subX := 0
        sceneX := r.sceneX + 1
        sceneIdx := r.sceneIdx + 1
        currentSceneMaterial := s.materialAt (r.sceneIdx + 1) } := by
  simp only [advance, Scene.getPixelElectrons]
  rw [if_neg (not_le.mpr hx), if_pos hsub]

theorem advance_counted (h : Admitted s) {y n : ℕ} (hn : n + 1 < s.sensorWidth) :
    advance s (counted s y n) = counted s y (n + 1) := by
  have hd := h.mapDiv_ge
  have hstart := startSub_bounds h
  have hcell := inCell_tdiv (m := startSub s + n) (d := s.mapDiv + 1) (by omega) (by omega)
  have hnow := inCell_tdiv (m := startSub s + n + 1) (d := s.mapDiv + 1) (by omega) (by omega)
  obtain ⟨hq, hr⟩ := hnow.unique (hcell.succ (by omega))
  have hlt := Int.tmod_lt_of_pos (startSub s + n) (show (0 : ℤ) < s.mapDiv + 1 by omega)
  have hrow : (counted s y n).currentX + 1 < s.sensorWidth := by
    simp only [counted]
    omega
  have hcast : startSub s + (n + 1 : ℕ) = startSub s + n + 1 := by
    push_cast
    ring
  by_cases hlast : (startSub s + n).tmod (s.mapDiv + 1) + 1 = s.mapDiv + 1
  · rw [if_pos hlast, ← hcast] at hq hr
    rw [advance_past hrow (by simp only [counted]; omega)]
    simp only [counted, hq, hr, add_assoc]
    simp only [Nat.cast_add, Nat.cast_one]
  · rw [if_neg hlast, ← hcast] at hq hr
    rw [advance_inside hrow (by simp only [counted]; omega)]
    simp only [counted, hq, hr]
    simp only [Nat.cast_add, Nat.cast_one]

theorem iterate_advance (h : Admitted s) (y : ℕ) {n : ℕ} (hn : n < s.sensorWidth) :
    (advance s)^[n] (s.setReadoutPixel 0 y) = counted s y n := by
  induction n with
  | zero =>
    have hd := h.mapDiv_ge
    have hsub := startSub_bounds h
    have hcell : InCell (s.mapDiv + 1) (startSub s + (0 : ℕ)) 0 (startSub s) := by
      refine ⟨by simp, ?_⟩
      omega
    have hat := inCell_tdiv (m := startSub s + (0 : ℕ)) (d := s.mapDiv + 1)
      (by omega) (by omega)
    obtain ⟨hq, hr⟩ := hat.unique hcell
    simp only [Function.iterate_zero, id, counted, hq, hr, add_zero]
    simp [Scene.setReadoutPixel, startSub]
  | succ n ih =>
    rw [Function.iterate_succ_apply', ih (by omega), advance_counted h hn]

/-- The row `y` shows one material only: neighbouring cells of the map from its first to
its last column agree. -/
def RowUniform (s : Scene) (y : ℕ) : Prop :=
  ∀ c, sceneColumn s 0 < c → c ≤ sceneColumn s (s.sensorWidth - 1) →
    s.materialAt (sceneRow s y * kSceneWidth + (c - 1)) =
      s.materialAt (sceneRow s y * kSceneWidth + c)

/-- Call `n + 1` of `getPixelElectrons` after `setReadoutPixel(0, y)` returns what the first
call after `setReadoutPixel(n, y)` does, for the whole row: the call returns
`mCurrentSceneMaterial` as it is before the call. -/
def RowAgrees (s : Scene) (y : ℕ) : Prop :=
  ∀ n, n < s.sensorWidth →
    ((advance s)^[n] (s.setReadoutPixel 0 y)).currentSceneMaterial =
      (s.setReadoutPixel n y).currentSceneMaterial

theorem material_direct (s : Scene) (n y : ℕ) :
    (s.setReadoutPixel n y).currentSceneMaterial =
      s.materialAt (sceneRow s y * kSceneWidth + sceneColumn s n) := by
  simp only [Scene.setReadoutPixel, sceneRow, sceneColumn]

theorem material_counted (h : Admitted s) (y : ℕ) {n : ℕ} {q r : ℤ} (hn : n < s.sensorWidth)
    (hcell : InCell s.mapDiv (startSub s + n) q r) :
    ((advance s)^[n] (s.setReadoutPixel 0 y)).currentSceneMaterial =
      s.materialAt (sceneRow s y * kSceneWidth +
        (sceneColumn s 0 + if q ≤ r ∨ q = 0 then q else q - 1)) := by
  have hd := h.mapDiv_ge
  have hw := Admitted.width_le s
  have hstart := startSub_bounds h
  have hq : q < 22 := (hcell.lt_iff (by omega) (by norm_num)).mpr (by omega)
  obtain ⟨p, hwide⟩ := hcell.widen (by omega)
  rw [iterate_advance h y hn]
  simp only [counted, hwide.tdiv_eq (by omega) (by omega)]
  simp [Scene.setReadoutPixel, sceneRow, sceneColumn, add_assoc]

theorem sceneColumn_mono (h : Admitted s) {n : ℕ} (hn : n < s.sensorWidth) :
    sceneColumn s n ≤ sceneColumn s (s.sensorWidth - 1) := by
  have hd := h.mapDiv_ge
  exact Int.tdiv_le_tdiv (by omega) (by omega)

theorem exists_first_pixel (h : Admitted s) {c : ℤ} (hfirst : sceneColumn s 0 < c)
    (hlast : c ≤ sceneColumn s (s.sensorWidth - 1)) :
    ∃ n, n < s.sensorWidth ∧
      InCell s.mapDiv (startSub s + n) (c - sceneColumn s 0) 0 := by
  have hd := h.mapDiv_ge
  have hw := h.width
  have hstart := startSub_bounds h
  rw [sceneColumn_eq h] at hlast
  obtain ⟨hm, hc⟩ := inCell_tdiv (m := startSub s + (s.sensorWidth - 1 : ℕ)) (d := s.mapDiv)
    (by omega) (by omega)
  set q := c - sceneColumn s 0 with hq
  set last := (startSub s + (s.sensorWidth - 1 : ℕ)).tdiv s.mapDiv
  have hpos : startSub s ≤ q * s.mapDiv := by nlinarith
  have hle : q * s.mapDiv ≤ startSub s + (s.sensorWidth - 1 : ℕ) := by
    have hmul : q * s.mapDiv ≤ last * s.mapDiv :=
      mul_le_mul_of_nonneg_right (by omega) (by omega)
    omega
  refine ⟨(q * s.mapDiv - startSub s).toNat, by omega, ?_, Or.inl (by omega)⟩
  rw [Int.toNat_of_nonneg (by omega)]
  ring

theorem rowAgrees_iff (h : Admitted s) (y : ℕ) : RowAgrees s y ↔ RowUniform s y := by
  have hd := h.mapDiv_ge
  have hstart := startSub_bounds h
  constructor
  · intro hagree c hfirst hlast
    obtain ⟨n, hn, hcell⟩ := exists_first_pixel h hfirst hlast
    have hsame := hagree n hn
    have hcolumn : sceneColumn s n = c := by
      rw [sceneColumn_eq h, hcell.tdiv_eq (by omega) (by omega)]
      ring
    have hbefore : ¬(c - sceneColumn s 0 ≤ 0 ∨ c - sceneColumn s 0 = 0) := by omega
    rw [material_counted h y hn hcell, if_neg hbefore, material_direct, hcolumn] at hsame
    rw [← hsame]
    congr 1
    ring
  · intro huniform n hn
    have hcell := inCell_tdiv (m := startSub s + n) (d := s.mapDiv) (by omega) (by omega)
    have hcolumn := sceneColumn_eq h n
    have hnonneg := hcell.nonneg
    rw [material_counted h y hn hcell, material_direct]
    split
    · rw [hcolumn]
    · have hc := huniform (sceneColumn s n) (by omega) (sceneColumn_mono h hn)
      rw [← hc, hcolumn]
      congr 1
      ring

theorem rowAgrees_sky :
    Admitted (plainScene 640 480) ∧ RowUniform (plainScene 640 480) 0 ∧
      RowAgrees (plainScene 640 480) 0 := by
  have huniform : RowUniform (plainScene 640 480) 0 := by
    intro c hfirst hlast
    have hfirst' : 0 < c := hfirst
    have hlast' : c ≤ 20 := hlast
    interval_cases c <;> decide +kernel
  exact ⟨admitted_vga, huniform, (rowAgrees_iff admitted_vga 0).mpr huniform⟩

/-- Pixel 258 of row 116 is the first of the hill; the counting readout still shows the sky. -/
theorem row_not_agrees :
    Admitted (plainScene 640 480) ∧ ¬RowAgrees (plainScene 640 480) 116 := by
  refine ⟨admitted_vga, fun hagree => ?_⟩
  have hpixel := hagree 258 (by decide)
  rw [iterate_advance admitted_vga 116 (by decide)] at hpixel
  exact absurd hpixel (by decide +kernel)

end Rpi3Device.Camera3.SceneReadout
