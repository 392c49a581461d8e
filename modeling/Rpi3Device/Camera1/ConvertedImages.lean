import Mathlib.Tactic
import Rpi3Device.Camera1.Converters
import Rpi3Device.IntArithmetic

/-!
# The images that the converters produce

Each converter computes the number of pixels of its frame as an `int` and finds the
colour planes behind that many bytes. The converters to RGB565 share the scan of the
converters to RGB32 and differ from them in the word that is stored for a pixel. The
image of a converter is the list of its words, row by row; every word is a function of
one byte of the Y plane and of one byte of each colour plane.
-/

namespace Rpi3Device.Camera1
open PlaneScan ByteMemory IntArithmetic

def pixTotal (width height : Int32) : ℤ := (width * height).toInt

def pointer (base : ℕ) (offset : ℤ) : ℕ := (base + offset).toNat

structure PlaneBases where
  U : ℕ
  V : ℕ
  dUV : ℕ

def PlaneBases.visits (b : PlaneBases) (frame : ℕ) (width height : Int32) : List (Visit Unit) :=
  yuv420SVisits frame b.U b.V b.dUV width.toNatClampNeg height.toNatClampNeg

inductive Packing
  | yv12 | yu12 | nv12 | nv21
deriving DecidableEq

/-- The planes of `YV12ToRGB32`, `YU12ToRGB32`, `NV12ToRGB32` and `NV21ToRGB32`. -/
def Packing.bases32 (frame : ℕ) (width height : Int32) : Packing → PlaneBases
  | .yv12 =>
    let V := pixTotal width height
    ⟨pointer frame (V + V.tdiv 4), pointer frame V, 1⟩
  | .yu12 =>
    let U := pixTotal width height
    ⟨pointer frame U, pointer frame (U + U.tdiv 4), 1⟩
  | .nv12 => ⟨pointer frame (pixTotal width height), pointer frame (pixTotal width height + 1), 2⟩
  | .nv21 => ⟨pointer frame (pixTotal width height + 1), pointer frame (pixTotal width height), 2⟩

def Packing.toRgb32 (p : Packing) (m : Memory) (frame : ℕ) (width height : Int32) : List Rgb32 :=
  Camera1.toRgb32 m ((p.bases32 frame width height).visits frame width height)

def kRed5 : UInt16 := 0x001f

def kGreen6 : UInt16 := 0x07e0

def kBlue5 : UInt16 := 0xf800

def r16 (rgb : UInt16) : UInt8 := (rgb &&& kRed5).toUInt8

def g16 (rgb : UInt16) : UInt8 := ((rgb &&& kGreen6) >>> 5).toUInt8

def b16 (rgb : UInt16) : UInt8 := ((rgb &&& kBlue5) >>> 11).toUInt8

def rgb565 (r g b : UInt16) : UInt16 := ((b <<< 6 ||| g) <<< 5) ||| r

def yuvToRgb565 (y u v : Int) : UInt16 :=
  let r := UInt16.ofInt (clamp ((298 * (y - 16) + 409 * (v - 128) + 128) / 256) / 8) &&& 0x1f
  let g := UInt16.ofInt
    (clamp ((298 * (y - 16) - 100 * (u - 128) - 208 * (v - 128) + 128) / 256) / 4) &&& 0x3f
  let b := UInt16.ofInt (clamp ((298 * (y - 16) + 516 * (u - 128) + 128) / 256) / 8) &&& 0x1f
  rgb565 r g b

def pairToRgb565 (m : Memory) (v : Visit Unit) : List UInt16 :=
  let u : Int := (m v.cursor.U).toNat
  let w : Int := (m v.cursor.V).toNat
  [yuvToRgb565 (m v.cursor.Y).toNat u w, yuvToRgb565 (m (v.cursor.Y + 1)).toNat u w]

inductive Format565
  | yv12 | nv12 | nv21
deriving DecidableEq

def Format565.packing : Format565 → Packing
  | .yv12 => .yv12
  | .nv12 => .nv12
  | .nv21 => .nv21

/-- The planes of `YV12ToRGB565`, `NV12ToRGB565` and `NV21ToRGB565`: the first takes the U
plane to come first. -/
def Format565.bases565 (frame : ℕ) (width height : Int32) : Format565 → PlaneBases
  | .yv12 =>
    let U := pixTotal width height
    ⟨pointer frame U, pointer frame (U + U.tdiv 4), 1⟩
  | .nv12 => ⟨pointer frame (pixTotal width height), pointer frame (pixTotal width height + 1), 2⟩
  | .nv21 => ⟨pointer frame (pixTotal width height + 1), pointer frame (pixTotal width height), 2⟩

def Format565.toRgb565 (f : Format565) (m : Memory) (frame : ℕ) (width height : Int32) :
    List UInt16 :=
  ((f.bases565 frame width height).visits frame width height).flatMap (pairToRgb565 m)

def pixelOf {α : Type*} (word : Int → Int → Int → α) (m : Memory) (frame : ℕ) (b : PlaneBases)
    (width x y : ℕ) : α :=
  let i := (y / 2 * (width / 2) + x / 2) * b.dUV
  word (m (frame + (y * width + x))).toNat (m (b.U + i)).toNat (m (b.V + i)).toNat

theorem visits_eq (b : PlaneBases) (frame : ℕ) {width : Int32} (height : Int32)
    (heven : width.toNatClampNeg % 2 = 0) :
    b.visits frame width height =
      (List.range height.toNatClampNeg).flatMap fun y =>
        (List.range (width.toNatClampNeg / 2)).map
          (placed frame b.U b.V b.dUV (width.toNatClampNeg / 2) y) := by
  have hpairs : (width.toNatClampNeg + 1) / 2 = width.toNatClampNeg / 2 := by omega
  have hstart : AtRow b.U b.V b.dUV (width.toNatClampNeg / 2) 0 ⟨frame, b.U, b.V⟩ :=
    ⟨by simp, by simp⟩
  rw [PlaneBases.visits, yuv420SVisits, hpairs, scanRows_plain hstart hstart (Y := frame) (by simp),
    ← List.range_eq_range']

theorem flatMap_visits {α : Type*} (word : Int → Int → Int → α) (m : Memory) (b : PlaneBases)
    (frame : ℕ) {width : Int32} (height : Int32) (heven : width.toNatClampNeg % 2 = 0) :
    (b.visits frame width height).flatMap (fun v =>
        [word (m v.cursor.Y).toNat (m v.cursor.U).toNat (m v.cursor.V).toNat,
          word (m (v.cursor.Y + 1)).toNat (m v.cursor.U).toNat (m v.cursor.V).toNat]) =
      raster width.toNatClampNeg height.toNatClampNeg
        (pixelOf word m frame b width.toNatClampNeg) := by
  have hwidth : 2 * (width.toNatClampNeg / 2) = width.toNatClampNeg := by omega
  rw [visits_eq b frame height heven, List.flatMap_assoc, raster]
  refine List.flatMap_congr fun y _ => ?_
  have hrow := flatMap_pairs (width.toNatClampNeg / 2)
    (fun x => pixelOf word m frame b width.toNatClampNeg x y)
  rw [hwidth] at hrow
  rw [List.flatMap_map, ← hrow]
  refine List.flatMap_congr fun k _ => ?_
  have hleft : 2 * k / 2 = k := by omega
  have hright : (2 * k + 1) / 2 = k := by omega
  simp only [placed, pixelOf, hwidth, hleft, hright, add_assoc]

theorem toRgb32_eq (p : Packing) (m : Memory) (frame : ℕ) {width : Int32} (height : Int32)
    (heven : width.toNatClampNeg % 2 = 0) :
    p.toRgb32 m frame width height =
      raster width.toNatClampNeg height.toNatClampNeg
        (pixelOf yuvToRgb32 m frame (p.bases32 frame width height) width.toNatClampNeg) :=
  flatMap_visits yuvToRgb32 m _ frame height heven

theorem toRgb565_eq (f : Format565) (m : Memory) (frame : ℕ) {width : Int32} (height : Int32)
    (heven : width.toNatClampNeg % 2 = 0) :
    f.toRgb565 m frame width height =
      raster width.toNatClampNeg height.toNatClampNeg
        (pixelOf yuvToRgb565 m frame (f.bases565 frame width height) width.toNatClampNeg) :=
  flatMap_visits yuvToRgb565 m _ frame height heven

def UpperBits (rgb : UInt16) (c : Rgb32) : Prop :=
  r16 rgb = c.r >>> 3 ∧ g16 rgb = c.g >>> 2 ∧ b16 rgb = c.b >>> 3

theorem clamp_bounds (x : Int) : 0 ≤ clamp x ∧ clamp x ≤ 255 := by
  unfold clamp
  split_ifs <;> omega

theorem rgb565_toNat {r g b : UInt16} (hr : r.toNat < 32) (hg : g.toNat < 64)
    (hb : b.toNat < 32) :
    (rgb565 r g b).toNat = b.toNat * 2048 + g.toNat * 32 + r.toNat := by
  have hhigh : (b <<< 6 ||| g).toNat = b.toNat * 64 + g.toNat := by
    rw [UInt16.toNat_or, UInt16.toNat_shiftLeft]
    change b.toNat <<< 6 % 65536 ||| g.toNat = _
    rw [Nat.mod_eq_of_lt (by rw [Nat.shiftLeft_eq]; omega),
      ← Nat.shiftLeft_add_eq_or_of_lt hg, Nat.shiftLeft_eq]
  rw [rgb565, UInt16.toNat_or, UInt16.toNat_shiftLeft, hhigh]
  change (b.toNat * 64 + g.toNat) <<< 5 % 65536 ||| r.toNat = _
  rw [Nat.mod_eq_of_lt (by rw [Nat.shiftLeft_eq]; omega),
    ← Nat.shiftLeft_add_eq_or_of_lt hr, Nat.shiftLeft_eq]
  omega

theorem r16_toNat (rgb : UInt16) : (r16 rgb).toNat = rgb.toNat % 32 := by
  have hand : rgb.toNat &&& 31 = rgb.toNat % 32 := Nat.and_two_pow_sub_one_eq_mod _ 5
  simp only [r16, kRed5, UInt16.toNat_toUInt8, UInt16.toNat_and]
  change (rgb.toNat &&& 31) % 256 = _
  rw [hand]
  omega

theorem g16_toNat (rgb : UInt16) : (g16 rgb).toNat = rgb.toNat / 32 % 64 := by
  have hand : (rgb.toNat >>> 5) &&& 63 = (rgb.toNat >>> 5) % 64 :=
    Nat.and_two_pow_sub_one_eq_mod _ 6
  simp only [g16, kGreen6, UInt16.toNat_toUInt8, UInt16.toNat_shiftRight, UInt16.toNat_and]
  change ((rgb.toNat &&& 2016) >>> 5) % 256 = _
  rw [Nat.shiftRight_and_distrib]
  change (rgb.toNat >>> 5 &&& 63) % 256 = _
  rw [hand, Nat.shiftRight_eq_div_pow]
  omega

theorem b16_toNat (rgb : UInt16) : (b16 rgb).toNat = rgb.toNat / 2048 := by
  have hlt := rgb.toNat_lt
  have hand : (rgb.toNat >>> 11) &&& 31 = (rgb.toNat >>> 11) % 32 :=
    Nat.and_two_pow_sub_one_eq_mod _ 5
  simp only [b16, kBlue5, UInt16.toNat_toUInt8, UInt16.toNat_shiftRight, UInt16.toNat_and]
  change ((rgb.toNat &&& 63488) >>> 11) % 256 = _
  rw [Nat.shiftRight_and_distrib]
  change (rgb.toNat >>> 11 &&& 31) % 256 = _
  rw [hand, Nat.shiftRight_eq_div_pow]
  omega

theorem channel8_toNat (x : Int) : (UInt8.ofInt (clamp x)).toNat = (clamp x).toNat := by
  have hb := clamp_bounds x
  simp only [UInt8.ofInt, UInt8.toNat_ofNat']
  omega

theorem channel5_toNat (x : Int) :
    (UInt16.ofInt (clamp x / 8) &&& 0x1f).toNat = (clamp x).toNat / 8 := by
  have hb := clamp_bounds x
  have hand (n : ℕ) : n &&& 31 = n % 32 := Nat.and_two_pow_sub_one_eq_mod n 5
  rw [UInt16.toNat_and]
  change (UInt16.ofInt (clamp x / 8)).toNat &&& 31 = _
  rw [hand]
  simp only [UInt16.ofInt, UInt16.toNat_ofNat']
  omega

theorem channel6_toNat (x : Int) :
    (UInt16.ofInt (clamp x / 4) &&& 0x3f).toNat = (clamp x).toNat / 4 := by
  have hb := clamp_bounds x
  have hand (n : ℕ) : n &&& 63 = n % 64 := Nat.and_two_pow_sub_one_eq_mod n 6
  rw [UInt16.toNat_and]
  change (UInt16.ofInt (clamp x / 4)).toNat &&& 63 = _
  rw [hand]
  simp only [UInt16.ofInt, UInt16.toNat_ofNat']
  omega

theorem shift_toNat (x : UInt8) :
    (x >>> 3).toNat = x.toNat / 8 ∧ (x >>> 2).toNat = x.toNat / 4 := by
  rw [UInt8.toNat_shiftRight, UInt8.toNat_shiftRight]
  exact ⟨Nat.shiftRight_eq_div_pow x.toNat 3, Nat.shiftRight_eq_div_pow x.toNat 2⟩

theorem upperBits_channels (R G B : Int) :
    UpperBits
      (rgb565 (UInt16.ofInt (clamp R / 8) &&& 0x1f) (UInt16.ofInt (clamp G / 4) &&& 0x3f)
        (UInt16.ofInt (clamp B / 8) &&& 0x1f))
      ⟨UInt8.ofInt (clamp R), UInt8.ofInt (clamp G), UInt8.ofInt (clamp B)⟩ := by
  have hr := clamp_bounds R
  have hg := clamp_bounds G
  have hb := clamp_bounds B
  have hword := @rgb565_toNat (UInt16.ofInt (clamp R / 8) &&& 0x1f)
    (UInt16.ofInt (clamp G / 4) &&& 0x3f) (UInt16.ofInt (clamp B / 8) &&& 0x1f)
    (by rw [channel5_toNat]; omega) (by rw [channel6_toNat]; omega)
    (by rw [channel5_toNat]; omega)
  rw [channel5_toNat, channel5_toNat, channel6_toNat] at hword
  refine ⟨UInt8.toNat_inj.mp ?_, UInt8.toNat_inj.mp ?_, UInt8.toNat_inj.mp ?_⟩
  · rw [r16_toNat, hword, (shift_toNat _).1, channel8_toNat]
    omega
  · rw [g16_toNat, hword, (shift_toNat _).2, channel8_toNat]
    omega
  · rw [b16_toNat, hword, (shift_toNat _).1, channel8_toNat]
    omega

theorem upperBits_yuv (y u v : Int) : UpperBits (yuvToRgb565 y u v) (yuvToRgb32 y u v) :=
  upperBits_channels _ _ _

theorem UpperBits.unique {w w' : UInt16} {c : Rgb32} (h : UpperBits w c) (h' : UpperBits w' c) :
    w = w' := by
  have hr : r16 w = r16 w' := h.1.trans h'.1.symm
  have hg : g16 w = g16 w' := h.2.1.trans h'.2.1.symm
  have hb : b16 w = b16 w' := h.2.2.trans h'.2.2.symm
  have hr' := congrArg UInt8.toNat hr
  have hg' := congrArg UInt8.toNat hg
  have hb' := congrArg UInt8.toNat hb
  rw [r16_toNat, r16_toNat] at hr'
  rw [g16_toNat, g16_toNat] at hg'
  rw [b16_toNat, b16_toNat] at hb'
  apply UInt16.toNat_inj.mp
  omega

/-- At every position the word of the RGB565 converter of `f` has the upper bits of the
word of its RGB32 converter. -/
def ConvertersAgree (f : Format565) (m : Memory) (frame : ℕ) (width height : Int32) : Prop :=
  ∀ x y : ℕ, x < width.toNatClampNeg → y < height.toNatClampNeg →
    ∃ rgb c, (f.toRgb565 m frame width height)[y * width.toNatClampNeg + x]? = some rgb ∧
      (f.packing.toRgb32 m frame width height)[y * width.toNatClampNeg + x]? = some c ∧
      UpperBits rgb c

/-- Exchanging the two colour bytes of a pixel changes no RGB565 word of the frame. -/
def ColourSymmetric (m : Memory) (frame : ℕ) (width height : Int32) : Prop :=
  ∀ x y : ℕ, x < width.toNatClampNeg → y < height.toNatClampNeg →
    let i := y / 2 * (width.toNatClampNeg / 2) + x / 2
    let luma := (m (frame + (y * width.toNatClampNeg + x))).toNat
    let first := (m (pointer frame (pixTotal width height) + i)).toNat
    let second := (m (pointer frame (pixTotal width height + (pixTotal width height).tdiv 4)
      + i)).toNat
    yuvToRgb565 luma first second = yuvToRgb565 luma second first

theorem convertersAgree_iff_pixels (f : Format565) (m : Memory) (frame : ℕ) {width : Int32}
    (height : Int32) (heven : width.toNatClampNeg % 2 = 0) :
    ConvertersAgree f m frame width height ↔
      ∀ x y : ℕ, x < width.toNatClampNeg → y < height.toNatClampNeg →
        UpperBits
          (pixelOf yuvToRgb565 m frame (f.bases565 frame width height) width.toNatClampNeg x y)
          (pixelOf yuvToRgb32 m frame (f.packing.bases32 frame width height)
            width.toNatClampNeg x y) := by
  unfold ConvertersAgree
  rw [toRgb565_eq f m frame height heven, toRgb32_eq f.packing m frame height heven]
  constructor
  · intro hagree x y hx hy
    obtain ⟨rgb, c, hrgb, hc, hbits⟩ := hagree x y hx hy
    rw [getElem?_raster _ hx hy, Option.some.injEq] at hrgb hc
    rwa [hrgb, hc]
  · intro hbits x y hx hy
    exact ⟨_, _, getElem?_raster _ hx hy, getElem?_raster _ hx hy, hbits x y hx hy⟩

theorem convertersAgree_iff (f : Format565) (m : Memory) (frame : ℕ) (width height : Int32)
    (heven : width.toNatClampNeg % 2 = 0) :
    ConvertersAgree f m frame width height ↔
      (f = .yv12 → ColourSymmetric m frame width height) := by
  rw [convertersAgree_iff_pixels f m frame height heven]
  cases f with
  | yv12 =>
    constructor
    · intro hbits _ x y hx hy
      have hpixel := (hbits x y hx hy).unique (upperBits_yuv _ _ _)
      simpa [pixelOf, Format565.bases565, Format565.packing, Packing.bases32] using hpixel
    · intro hsymm x y hx hy
      have hpixel := hsymm rfl x y hx hy
      have hbits := upperBits_yuv
        (m (frame + (y * width.toNatClampNeg + x))).toNat
        (m (pointer frame (pixTotal width height + (pixTotal width height).tdiv 4) +
          (y / 2 * (width.toNatClampNeg / 2) + x / 2))).toNat
        (m (pointer frame (pixTotal width height) +
          (y / 2 * (width.toNatClampNeg / 2) + x / 2))).toNat
      rw [← hpixel] at hbits
      simpa [pixelOf, Format565.bases565, Format565.packing, Packing.bases32] using hbits
  | nv12 => exact ⟨fun _ hyv12 => (nomatch hyv12), fun _ _ _ _ _ => upperBits_yuv _ _ _⟩
  | nv21 => exact ⟨fun _ hyv12 => (nomatch hyv12), fun _ _ _ _ _ => upperBits_yuv _ _ _⟩

def smallFrame (first second : UInt8) : Memory := ofBytes [128, 128, 128, 128, first, second]

theorem convertersAgree_small :
    ConvertersAgree .nv21 (smallFrame 40 200) 0 2 2 ∧
      ConvertersAgree .yv12 (smallFrame 128 128) 0 2 2 := by
  have hsymm : ColourSymmetric (smallFrame 128 128) 0 2 2 := by
    intro x y hx hy
    have hx' : x < 2 := hx
    have hy' : y < 2 := hy
    interval_cases x <;> interval_cases y <;> rfl
  exact ⟨(convertersAgree_iff .nv21 _ 0 2 2 (by decide)).mpr nofun,
    (convertersAgree_iff .yv12 _ 0 2 2 (by decide)).mpr fun _ => hsymm⟩

/-- A blue pixel becomes red. -/
theorem converters_not_agree : ¬ConvertersAgree .yv12 (smallFrame 0 255) 0 2 2 := by
  intro hagree
  obtain ⟨rgb, c, hrgb, hc, hbits⟩ := hagree 0 0 (by decide) (by decide)
  have hrgb' : rgb = yuvToRgb565 128 0 255 := by
    have : some (yuvToRgb565 128 0 255) = some rgb := hrgb
    simpa using this.symm
  have hc' : c = yuvToRgb32 128 255 0 := by
    have : some (yuvToRgb32 128 255 0) = some c := hc
    simpa using this.symm
  subst hrgb' hc'
  exact absurd hbits.1 (by decide)

/-- A planar image of even size, with a colour sample for each two by two block. -/
structure PlanarImage where
  width : Int32
  height : Int32
  Y : List UInt8
  U : List UInt8
  V : List UInt8
  width_nonneg : 0 ≤ width.toInt
  height_nonneg : 0 ≤ height.toInt
  width_even : width.toNatClampNeg % 2 = 0
  height_even : height.toNatClampNeg % 2 = 0
  Y_length : Y.length = width.toNatClampNeg * height.toNatClampNeg
  U_length : U.length = width.toNatClampNeg / 2 * (height.toNatClampNeg / 2)
  V_length : V.length = width.toNatClampNeg / 2 * (height.toNatClampNeg / 2)

def interleave : List UInt8 → List UInt8 → List UInt8
  | a :: as, b :: bs => a :: b :: interleave as bs
  | _, _ => []

namespace PlanarImage
variable (img : PlanarImage)

def w : ℕ := img.width.toNatClampNeg

def h : ℕ := img.height.toNatClampNeg

def pack : Packing → List UInt8
  | .yv12 => img.Y ++ (img.V ++ img.U)
  | .yu12 => img.Y ++ (img.U ++ img.V)
  | .nv12 => img.Y ++ interleave img.U img.V
  | .nv21 => img.Y ++ interleave img.V img.U

def pixel (x y : ℕ) : Rgb32 :=
  let i := y / 2 * (img.w / 2) + x / 2
  yuvToRgb32 (img.Y.getD (y * img.w + x) 0).toNat (img.U.getD i 0).toNat (img.V.getD i 0).toNat

def rgb : List Rgb32 := raster img.w img.h img.pixel

end PlanarImage

def reads (v : Visit Unit) : List ℕ := [v.cursor.Y, v.cursor.Y + 1, v.cursor.U, v.cursor.V]

theorem holdsAt_interleave {m : Memory} {base : ℕ} {as bs : List UInt8}
    (hlen : as.length = bs.length) (h : HoldsAt m base (interleave as bs)) {i : ℕ}
    (hi : i < as.length) :
    m (base + i * 2) = as.getD i 0 ∧ m (base + 1 + i * 2) = bs.getD i 0 := by
  induction as generalizing base bs i with
  | nil => simp at hi
  | cons a as ih =>
    cases bs with
    | nil => simp at hlen
    | cons b bs =>
      obtain ⟨ha, hrest⟩ := holdsAt_cons.mp h
      obtain ⟨hb, hrest⟩ := holdsAt_cons.mp hrest
      cases i with
      | zero => exact ⟨by simpa using ha, by simpa using hb⟩
      | succ i =>
        simp only [List.length_cons, Nat.add_right_cancel_iff, Nat.add_lt_add_iff_right] at hlen hi
        obtain ⟨hleft, hright⟩ := ih hlen hrest hi
        have hstep : base + (i + 1) * 2 = base + 1 + 1 + i * 2 := by ring
        have hstep' : base + 1 + (i + 1) * 2 = base + 1 + 1 + 1 + i * 2 := by ring
        rw [hstep, hstep', hleft, hright]
        exact ⟨rfl, rfl⟩

theorem holdsAt_getD {m : Memory} {base : ℕ} {bs : List UInt8} (h : HoldsAt m base bs) {i : ℕ}
    (hi : i < bs.length) : m (base + i) = bs.getD i 0 := by
  rw [h i hi, List.getD_eq_getElem?_getD, List.getElem?_eq_getElem hi, Option.getD_some]

section Layout
variable {img : PlanarImage} {m : Memory} {frame : ℕ}

theorem PlanarImage.pixTotal_eq (hfits : img.w * img.h < 2 ^ 31) :
    pixTotal img.width img.height = (img.w * img.h : ℕ) := by
  have hw : img.width.toInt = img.w := (Int.toNat_of_nonneg img.width_nonneg).symm
  have hh : img.height.toInt = img.h := (Int.toNat_of_nonneg img.height_nonneg).symm
  exact toInt_mul_natCast hw hh hfits

theorem PlanarImage.quarter_eq : img.w * img.h / 4 = img.w / 2 * (img.h / 2) := by
  obtain ⟨a, ha⟩ : ∃ a, img.w = 2 * a := ⟨img.w / 2, by have := img.width_even; unfold w; omega⟩
  obtain ⟨b, hb⟩ : ∃ b, img.h = 2 * b := ⟨img.h / 2, by have := img.height_even; unfold h; omega⟩
  rw [ha, hb, show 2 * a * (2 * b) = 4 * (a * b) by ring]
  simp

theorem PlanarImage.block_lt {x y : ℕ} (hx : x < img.w) (hy : y < img.h) :
    y / 2 * (img.w / 2) + x / 2 < img.w / 2 * (img.h / 2) := by
  have hw := img.width_even
  have hh := img.height_even
  have hx' : x / 2 < img.w / 2 := by unfold w at *; omega
  have hy' : y / 2 + 1 ≤ img.h / 2 := by unfold h at *; omega
  calc y / 2 * (img.w / 2) + x / 2 < (y / 2 + 1) * (img.w / 2) := by rw [Nat.succ_mul]; omega
    _ ≤ img.h / 2 * (img.w / 2) := Nat.mul_le_mul_right _ hy'
    _ = img.w / 2 * (img.h / 2) := Nat.mul_comm ..

@[simp] theorem pointer_natCast (frame n : ℕ) : pointer frame n = frame + n := by
  rw [pointer, ← Nat.cast_add, Int.toNat_natCast]

theorem PlanarImage.bases32_eq (frame : ℕ) (hfits : img.w * img.h < 2 ^ 31) (p : Packing) :
    p.bases32 frame img.width img.height =
      let total := img.w * img.h
      let quarter := img.w / 2 * (img.h / 2)
      match p with
      | .yv12 => ⟨frame + (total + quarter), frame + total, 1⟩
      | .yu12 => ⟨frame + total, frame + (total + quarter), 1⟩
      | .nv12 => ⟨frame + total, frame + (total + 1), 2⟩
      | .nv21 => ⟨frame + (total + 1), frame + total, 2⟩ := by
  have htotal := img.pixTotal_eq hfits
  have hquarter : (img.w * img.h : ℕ) + ((img.w * img.h : ℕ) : ℤ).tdiv 4 =
      (img.w * img.h + img.w / 2 * (img.h / 2) : ℕ) := by
    rw [← quarter_eq, Int.natCast_tdiv_eq_ediv]
    push_cast
    rfl
  have hone : ((img.w * img.h : ℕ) : ℤ) + 1 = (img.w * img.h + 1 : ℕ) := by push_cast; rfl
  cases p <;> simp only [Packing.bases32, htotal, hquarter, hone, pointer_natCast]

theorem colour_bytes (p : Packing) (hfits : img.w * img.h < 2 ^ 31)
    (hm : HoldsAt m frame (img.pack p)) {i : ℕ} (hi : i < img.w / 2 * (img.h / 2)) :
    let b := p.bases32 frame img.width img.height
    m (b.U + i * b.dUV) = img.U.getD i 0 ∧ m (b.V + i * b.dUV) = img.V.getD i 0 := by
  have hY : img.Y.length = img.w * img.h := img.Y_length
  have hU : img.U.length = img.w / 2 * (img.h / 2) := img.U_length
  have hV : img.V.length = img.w / 2 * (img.h / 2) := img.V_length
  rw [img.bases32_eq frame hfits p]
  cases p with
  | yv12 =>
    obtain ⟨-, hrest⟩ := holdsAt_append.mp hm
    obtain ⟨hv, hu⟩ := holdsAt_append.mp hrest
    rw [hY] at hv hu
    rw [hV] at hu
    have hleft := holdsAt_getD hu (hi.trans_eq hU.symm)
    have hright := holdsAt_getD hv (hi.trans_eq hV.symm)
    exact ⟨by simpa [add_assoc] using hleft, by simpa using hright⟩
  | yu12 =>
    obtain ⟨-, hrest⟩ := holdsAt_append.mp hm
    obtain ⟨hu, hv⟩ := holdsAt_append.mp hrest
    rw [hY] at hu hv
    rw [hU] at hv
    have hleft := holdsAt_getD hu (hi.trans_eq hU.symm)
    have hright := holdsAt_getD hv (hi.trans_eq hV.symm)
    exact ⟨by simpa using hleft, by simpa [add_assoc] using hright⟩
  | nv12 =>
    obtain ⟨-, hrest⟩ := holdsAt_append.mp hm
    rw [hY] at hrest
    exact holdsAt_interleave (hU.trans hV.symm) hrest (hi.trans_eq hU.symm)
  | nv21 =>
    obtain ⟨-, hrest⟩ := holdsAt_append.mp hm
    rw [hY] at hrest
    exact (holdsAt_interleave (hV.trans hU.symm) hrest (hi.trans_eq hV.symm)).symm

theorem luma_byte (p : Packing) (hm : HoldsAt m frame (img.pack p)) {x y : ℕ} (hx : x < img.w)
    (hy : y < img.h) : m (frame + (y * img.w + x)) = img.Y.getD (y * img.w + x) 0 := by
  have hY : HoldsAt m frame img.Y := by
    cases p <;> exact (holdsAt_append.mp hm).1
  refine holdsAt_getD hY ?_
  rw [show img.Y.length = img.w * img.h from img.Y_length]
  nlinarith

theorem toRgb32_packed (p : Packing) (hfits : img.w * img.h < 2 ^ 31)
    (hm : HoldsAt m frame (img.pack p)) :
    p.toRgb32 m frame img.width img.height = img.rgb := by
  rw [toRgb32_eq p m frame img.height img.width_even]
  refine raster_congr fun x y hx hy => ?_
  obtain ⟨hu, hv⟩ := colour_bytes p hfits hm (img.block_lt hx hy)
  have hluma := luma_byte p hm hx hy
  unfold PlanarImage.w at hu hv hluma
  simp only [pixelOf, PlanarImage.pixel, PlanarImage.w, hu, hv, hluma]

theorem pixelOf_of_toRgb32 {p : Packing}
    (himage : p.toRgb32 m frame img.width img.height = img.rgb) {x y : ℕ} (hx : x < img.w)
    (hy : y < img.h) :
    pixelOf yuvToRgb32 m frame (p.bases32 frame img.width img.height) img.w x y =
      img.pixel x y := by
  have hconverted : (p.toRgb32 m frame img.width img.height)[y * img.w + x]? =
      some (pixelOf yuvToRgb32 m frame (p.bases32 frame img.width img.height) img.w x y) := by
    rw [toRgb32_eq p m frame img.height img.width_even]
    exact getElem?_raster _ hx hy
  rw [himage, PlanarImage.rgb, getElem?_raster _ hx hy, Option.some.injEq] at hconverted
  exact hconverted.symm

theorem PlanarImage.size_eq :
    img.w * img.h * 3 / 2 = img.w * img.h + 2 * (img.w / 2 * (img.h / 2)) := by
  have hfour := img.quarter_eq
  have hmod : img.w * img.h % 4 = 0 := by
    have hw : 2 ∣ img.w := Nat.dvd_of_mod_eq_zero img.width_even
    have hh : 2 ∣ img.h := Nat.dvd_of_mod_eq_zero img.height_even
    exact Nat.mod_eq_zero_of_dvd (mul_dvd_mul hw hh)
  omega

theorem reads_inside (p : Packing) (hfits : img.w * img.h < 2 ^ 31) {v : Visit Unit}
    (hv : v ∈ (p.bases32 frame img.width img.height).visits frame img.width img.height) :
    ∀ a ∈ reads v, frame ≤ a ∧ a < frame + img.w * img.h * 3 / 2 := by
  rw [visits_eq _ frame img.height img.width_even] at hv
  obtain ⟨y, hy, hrow⟩ := List.mem_flatMap.mp hv
  obtain ⟨k, hk, hplaced⟩ := List.mem_map.mp hrow
  have hy' : y < img.h := List.mem_range.mp hy
  have hk' : k < img.w / 2 := List.mem_range.mp hk
  have hx : 2 * k + 1 < img.w := by omega
  have hblock := img.block_lt (Nat.lt_of_succ_lt hx) hy'
  rw [Nat.mul_div_cancel_left k (by norm_num)] at hblock
  have hluma : y * (2 * (img.w / 2)) + 2 * k + 1 < img.w * img.h := by
    have hw : 2 * (img.w / 2) = img.w := Nat.two_mul_div_two_of_even
      (Nat.even_iff.mpr img.width_even)
    rw [hw]
    nlinarith
  intro a ha
  rw [img.size_eq]
  rw [← hplaced, img.bases32_eq frame hfits p] at ha
  have hw : img.width.toNatClampNeg = img.w := rfl
  cases p <;>
    · simp only [reads, placed, hw, List.mem_cons, List.not_mem_nil, or_false] at ha
      omega

/-- The four layouts of an image whose number of pixels is an `int` are converted to the same
RGB image, which has at `x`, `y` the colour of the samples there, with all reads inside the
frame. -/
theorem rgb32_layout_independent (img : PlanarImage) (hfits : img.w * img.h < 2 ^ 31)
    (p : Packing) (m : Memory) (frame : ℕ) (hm : HoldsAt m frame (img.pack p)) :
    p.toRgb32 m frame img.width img.height = img.rgb ∧
      (∀ x y, x < img.w → y < img.h → img.rgb[y * img.w + x]? = some (img.pixel x y)) ∧
      ∀ v ∈ (p.bases32 frame img.width img.height).visits frame img.width img.height,
        ∀ a ∈ reads v, frame ≤ a ∧ a < frame + img.w * img.h * 3 / 2 :=
  ⟨toRgb32_packed p hfits hm, fun _ _ hx hy => getElem?_raster _ hx hy,
    fun _ hv => reads_inside p hfits hv⟩

end Layout

def smallImage : PlanarImage where
  width := 2
  height := 2
  Y := [10, 20, 30, 40]
  U := [50]
  V := [60]
  width_nonneg := by decide
  height_nonneg := by decide
  width_even := by decide
  height_even := by decide
  Y_length := by decide
  U_length := by decide
  V_length := by decide

theorem rgb32_small_image :
    smallImage.w * smallImage.h < 2 ^ 31 ∧
      Packing.nv21.toRgb32 (ofBytes [10, 20, 30, 40, 60, 50]) 0 2 2 = smallImage.rgb := by
  have hfits : smallImage.w * smallImage.h < 2 ^ 31 := by decide
  exact ⟨hfits, (rgb32_layout_independent smallImage hfits .nv21 _ 0
    (holdsAt_ofBytes [10, 20, 30, 40, 60, 50])).1⟩

def hugeImage : PlanarImage where
  width := 65536
  height := 65536
  Y := List.replicate (65536 * 65536) 16
  U := List.replicate (32768 * 32768) 128
  V := List.replicate (32768 * 32768) 128
  width_nonneg := by decide
  height_nonneg := by decide
  width_even := by decide
  height_even := by decide
  Y_length := List.length_replicate
  U_length := List.length_replicate
  V_length := List.length_replicate

/-- The number of pixels of that image is 0 as an `int`, so the colour planes are looked for
in the Y plane. -/
theorem rgb32_not_layout_independent :
    ¬∀ (img : PlanarImage) (p : Packing) (m : Memory) (frame : ℕ),
      HoldsAt m frame (img.pack p) → p.toRgb32 m frame img.width img.height = img.rgb := by
  intro hall
  have hsample (n : ℕ) (b : UInt8) : (List.replicate (n + 1) b).getD 0 0 = b := rfl
  have hm := holdsAt_ofBytes (hugeImage.pack .yv12)
  have hpixel := pixelOf_of_toRgb32 (hall hugeImage .yv12 _ 0 hm) (x := 0) (y := 0)
    (by decide) (by decide)
  have hluma := luma_byte .yv12 hm (x := 0) (y := 0) (by decide) (by decide)
  have hY : hugeImage.Y.getD 0 0 = 16 := hsample (65536 * 65536 - 1) 16
  have hU : hugeImage.U.getD 0 0 = 128 := hsample (32768 * 32768 - 1) 128
  have hV : hugeImage.V.getD 0 0 = 128 := hsample (32768 * 32768 - 1) 128
  have hbases : Packing.yv12.bases32 0 hugeImage.width hugeImage.height = ⟨0, 0, 1⟩ := by
    have htotal : pixTotal hugeImage.width hugeImage.height = 0 := by decide
    simp [Packing.bases32, htotal, pointer]
  rw [hbases] at hpixel
  simp only [Nat.zero_mul, Nat.add_zero, hY] at hluma
  simp only [pixelOf, PlanarImage.pixel, Nat.zero_div, Nat.zero_mul, Nat.add_zero, hluma, hY, hU,
    hV] at hpixel
  exact absurd hpixel (by decide +kernel)

end Rpi3Device.Camera1
