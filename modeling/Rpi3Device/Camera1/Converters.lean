import Mathlib.Tactic
import Rpi3Device.ByteMemory
import Rpi3Device.PlaneScan

/-!
# The converters from YUV 4:2:0 frames to RGB32

A converter scans its frame in pairs of pixels and reads, for each pair, two bytes of
the Y plane and one of each colour plane. Addresses are numbers, and the memory is
whatever the process holds.
-/

namespace Rpi3Device.Camera1
open PlaneScan ByteMemory

structure YUVPixel where
  Y : UInt8
  U : UInt8
  V : UInt8
deriving DecidableEq

structure Rgb32 where
  r : UInt8
  g : UInt8
  b : UInt8
deriving DecidableEq

def clamp (x : Int) : Int :=
  if x > 255 then 255 else if x < 0 then 0 else x

def rgb32ToYuv (r g b : Int) : YUVPixel where
  Y := UInt8.ofInt ((66 * r + 129 * g + 25 * b + 128) / 256 + 16)
  U := UInt8.ofInt ((-38 * r - 74 * g + 112 * b + 128) / 256 + 128)
  V := UInt8.ofInt ((112 * r - 94 * g - 18 * b + 128) / 256 + 128)

def yuvToRgb32 (y u v : Int) : Rgb32 where
  r := UInt8.ofInt (clamp ((298 * (y - 16) + 409 * (v - 128) + 128) / 256))
  g := UInt8.ofInt (clamp ((298 * (y - 16) - 100 * (u - 128) - 208 * (v - 128) + 128) / 256))
  b := UInt8.ofInt (clamp ((298 * (y - 16) + 516 * (u - 128) + 128) / 256))

/-- The pairs of pixels that `_YUV420SToRGB32` goes through, with its pointers at each. -/
def yuv420SVisits (Y U V dUV width height : ℕ) : List (Visit Unit) :=
  scanRows (fun _ : Unit => ()) id (fun _ => ((), ())) dUV ((width + 1) / 2) height 0 ⟨Y, U, V⟩
    ⟨Y, U, V⟩ ()

def pairToRgb32 (m : Memory) (v : Visit Unit) : List Rgb32 :=
  let u : Int := (m v.cursor.U).toNat
  let w : Int := (m v.cursor.V).toNat
  [yuvToRgb32 (m v.cursor.Y).toNat u w, yuvToRgb32 (m (v.cursor.Y + 1)).toNat u w]

def toRgb32 (m : Memory) (visits : List (Visit Unit)) : List Rgb32 := visits.flatMap (pairToRgb32 m)

section Visits
variable {Y U V dUV width height : ℕ} {v : Visit Unit}

theorem yuv420SVisits_located (heven : width % 2 = 0)
    (h : v ∈ yuv420SVisits Y U V dUV width height) : v.Located U V dUV (width / 2) := by
  have hpairs : (width + 1) / 2 = width / 2 := by omega
  have hstart : AtRow U V dUV ((width + 1) / 2) 0 ⟨Y, U, V⟩ := ⟨by simp, by simp⟩
  have hlocated := (mem_scanRows hstart hstart h).1
  rwa [hpairs] at hlocated

theorem exists_yuv420SVisits (U V dUV : ℕ) {x y : ℕ} (heven : width % 2 = 0) (hx : x < width)
    (hy : y < height) :
    ∃ v ∈ yuv420SVisits Y U V dUV width height, v.x / 2 = x / 2 ∧ v.y = y := by
  have hpair : x / 2 < (width + 1) / 2 := by omega
  obtain ⟨v, hv, hvx, hvy⟩ := @exists_mem_scanRows Unit Unit Unit (fun _ => ((), ())) dUV 0
    (fun _ => ()) id ((width + 1) / 2) height (x / 2) y hpair hy ⟨Y, U, V⟩ ⟨Y, U, V⟩ ()
  exact ⟨v, hv, by omega, by omega⟩

end Visits
end Rpi3Device.Camera1
