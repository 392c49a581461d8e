import Mathlib.Tactic

/-!
# What a camera is configured to be

The configuration file makes these, and the cameras of each HAL version take their sizes from them.
-/

namespace Rpi3Device.Camera

inductive Orientation where
  | kFront
  | kBack
deriving DecidableEq

inductive HalVersion where
  | kHalV1
  | kHalV2
  | kHalV3
deriving DecidableEq

structure Resolution where
  width : Int32 := 0
  height : Int32 := 0
deriving DecidableEq

structure CameraDefinition where
  orientation : Orientation := .kFront
  hal_version : HalVersion := .kHalV1
  resolutions : List Resolution := []
deriving DecidableEq

end Rpi3Device.Camera
