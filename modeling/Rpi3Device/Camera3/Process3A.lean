import Mathlib.Tactic
import Rpi3Device.Camera3.CaptureRequest

/-!
# The 3A emulation of the fake HAL3 camera

`process3A` runs auto-exposure, auto-focus and auto-white-balance one after the
other on the fields of the camera and writes what they say into the settings of
the request. Each stage touches its own fields only. The two floating-point
updates of the exposure time are parameters, and so are the results of `rand`.
-/

namespace Rpi3Device.Camera3

inductive AeState where
  | inactive
  | searching
  | converged
  | locked
  | flashRequired
  | precapture
deriving DecidableEq

inductive AfState where
  | inactive
  | passiveScan
  | passiveFocused
  | activeScan
  | focusedLocked
  | notFocusedLocked
  | passiveUnfocused
deriving DecidableEq

inductive AwbState where
  | inactive
  | searching
  | converged
  | locked
deriving DecidableEq

inductive AeMode where
  | off
  | on
  | other (code : UInt8)
deriving DecidableEq

inductive AfMode where
  | off
  | auto
  | macroFocus
  | continuousVideo
  | continuousPicture
  | other (code : UInt8)
deriving DecidableEq

inductive AwbMode where
  | off
  | auto
  | incandescent
  | fluorescent
  | daylight
  | shade
  | other (code : UInt8)
deriving DecidableEq

inductive ControlMode where
  | off
  | useSceneMode
  | other (code : UInt8)
deriving DecidableEq

inductive AfTrigger where
  | idle
  | start
  | cancel
  | other (code : UInt8)
deriving DecidableEq

def AeMode.ofCode : UInt8 → AeMode
  | 0 => .off
  | 1 => .on
  | code => .other code

def AfMode.ofCode : UInt8 → AfMode
  | 0 => .off
  | 1 => .auto
  | 2 => .macroFocus
  | 3 => .continuousVideo
  | 4 => .continuousPicture
  | code => .other code

def AwbMode.ofCode : UInt8 → AwbMode
  | 0 => .off
  | 1 => .auto
  | 2 => .incandescent
  | 3 => .fluorescent
  | 5 => .daylight
  | 8 => .shade
  | code => .other code

def ControlMode.ofCode : UInt8 → ControlMode
  | 0 => .off
  | 2 => .useSceneMode
  | code => .other code

def AfTrigger.ofCode : UInt8 → AfTrigger
  | 0 => .idle
  | 1 => .start
  | 2 => .cancel
  | code => .other code

def AeState.code : AeState → Int64
  | .inactive => 0
  | .searching => 1
  | .converged => 2
  | .locked => 3
  | .flashRequired => 4
  | .precapture => 5

def AfState.code : AfState → Int64
  | .inactive => 0
  | .passiveScan => 1
  | .passiveFocused => 2
  | .activeScan => 3
  | .focusedLocked => 4
  | .notFocusedLocked => 5
  | .passiveUnfocused => 6

def AwbState.code : AwbState → Int64
  | .inactive => 0
  | .searching => 1
  | .converged => 2
  | .locked => 3

def ANDROID_CONTROL_SCENE_MODE_FACE_PRIORITY : UInt8 := 1
def ANDROID_CONTROL_AE_LOCK_ON : UInt8 := 1
def ANDROID_CONTROL_AE_PRECAPTURE_TRIGGER_START : UInt8 := 1
def ANDROID_CONTROL_AWB_LOCK_ON : UInt8 := 1
def ANDROID_LENS_STATE_STATIONARY : Int64 := 0
def ANDROID_LENS_STATE_MOVING : Int64 := 1

def kNormalExposureTime : Int64 := 10000000
def kFacePriorityExposureTime : Int64 := 30000000
def kNormalSensitivity : Int32 := 100
def kPrecaptureMinFrames : Int32 := 10
def kStableAeMaxFrames : Int32 := 100

def CameraMetadata.findU8 (settings : CameraMetadata) (tag : MetadataTag) : Option UInt8 :=
  (settings.find tag).map fun value => value.toUInt64.toUInt8

/-- What the emulation takes from the camera, and its floating-point arithmetic: `track` moves the
exposure time towards its target by `kExposureTrackRate`, `wander` scales the target by a random
power of two. -/
structure Emulation where
  mFacingBack : Bool
  backwardCompatible : Bool
  track : Int64 → Int64 → Int64
  wander : Int64 → Nat → Int64

structure Rand where
  ae : Nat := 0
  af : Nat := 0

structure State3A where
  mFacePriority : Bool := false
  mAeState : AeState := .inactive
  mAfState : AfState := .inactive
  mAwbState : AwbState := .inactive
  mAeMode : AeMode := .on
  mAfMode : AfMode := .auto
  mAwbMode : AwbMode := .auto
  mAeCounter : Int32 := 0
  mAeCurrentExposureTime : Int64 := kNormalExposureTime
  mAeTargetExposureTime : Int64 := kNormalExposureTime
  mAeCurrentSensitivity : Int32 := kNormalSensitivity
deriving DecidableEq

def aeLocked (settings : CameraMetadata) : Bool :=
  settings.findU8 .controlAeLock = some ANDROID_CONTROL_AE_LOCK_ON

def precaptureTrigger (settings : CameraMetadata) : Bool :=
  settings.findU8 .controlAePrecaptureTrigger = some ANDROID_CONTROL_AE_PRECAPTURE_TRIGGER_START

def State3A.exposureTarget (s : State3A) : Int64 :=
  if s.mFacePriority = true then kFacePriorityExposureTime else kNormalExposureTime

def State3A.runPrecapture (k : Emulation) (s : State3A) (locked : Bool) : State3A :=
  let counter := if s.mAeState ≠ .precapture then 0 else s.mAeCounter
  let target := s.exposureTarget
  if counter > kPrecaptureMinFrames ∧ target - s.mAeCurrentExposureTime < target / 10 then
    { s with
      mAeTargetExposureTime := target
      mAeCounter := 0
      mAeState := if locked = true then .locked else .converged }
  else
    { s with
      mAeTargetExposureTime := target
      mAeCurrentExposureTime := k.track target s.mAeCurrentExposureTime
      mAeCounter := counter + 1
      mAeState := .precapture }

/-- The occasional AE scan; it does not expect every state. -/
def State3A.runAeScan (k : Emulation) (s : State3A) (rand : Nat) : StatusT × State3A :=
  match s.mAeState with
  | .converged | .inactive =>
    if s.mAeCounter + 1 > kStableAeMaxFrames then
      (.ok, { s with
        mAeCounter := s.mAeCounter + 1
        mAeTargetExposureTime := k.wander s.exposureTarget rand
        mAeState := .searching })
    else (.ok, { s with mAeCounter := s.mAeCounter + 1 })
  | .searching =>
    let current := k.track s.mAeTargetExposureTime s.mAeCurrentExposureTime
    if (s.mAeTargetExposureTime - current).abs < s.mAeTargetExposureTime / 10 then
      (.ok, { s with mAeCurrentExposureTime := current, mAeState := .converged, mAeCounter := 0 })
    else (.ok, { s with mAeCurrentExposureTime := current })
  | .locked => (.ok, { s with mAeState := .converged, mAeCounter := 0 })
  | .flashRequired | .precapture => (.invalidOperation, s)

def aeModeOf (settings : CameraMetadata) : AeMode :=
  ((settings.findU8 .controlAeMode).map AeMode.ofCode).getD .on

def State3A.doFakeAE (k : Emulation) (s : State3A) (settings : CameraMetadata) (rand : Nat) :
    StatusT × State3A :=
  if settings.findU8 .controlAeMode = none ∧ k.backwardCompatible = true then (.badValue, s)
  else
    let s := { s with mAeMode := aeModeOf settings }
    if s.mAeMode = .off then (.ok, { s with mAeState := .inactive })
    else if precaptureTrigger settings = true ∨ s.mAeState = .precapture then
      (.ok, s.runPrecapture k (aeLocked settings))
    else if aeLocked settings = false then s.runAeScan k rand
    else (.ok, { s with mAeState := .locked })

def AfMode.isAuto : AfMode → Bool
  | .auto => true
  | .macroFocus => true
  | _ => false

def AfMode.isContinuous : AfMode → Bool
  | .continuousVideo => true
  | .continuousPicture => true
  | _ => false

def AfMode.admits (afMode : AfMode) (afState : AfState) : Bool :=
  if afMode.isAuto = true then
    afState ∈ [.inactive, .activeScan, .focusedLocked, .notFocusedLocked]
  else if afMode.isContinuous = true then
    afState ∈ [.inactive, .passiveScan, .passiveFocused, .focusedLocked, .notFocusedLocked]
  else afState ∈ [AfState.inactive]

theorem AfMode.admits_inactive (afMode : AfMode) : afMode.admits .inactive = true := by
  cases afMode <;> rfl

theorem AfMode.admits_auto_iff {afMode : AfMode} {afState : AfState}
    (hmode : afMode.isAuto = true) :
    afMode.admits afState = true ↔
      afState = .inactive ∨ afState = .activeScan ∨ afState = .focusedLocked ∨
        afState = .notFocusedLocked := by
  simp [AfMode.admits, hmode]

theorem AfMode.admits_continuous_iff {afMode : AfMode} {afState : AfState}
    (hmode : afMode.isContinuous = true) :
    afMode.admits afState = true ↔
      afState = .inactive ∨ afState = .passiveScan ∨ afState = .passiveFocused ∨
        afState = .focusedLocked ∨ afState = .notFocusedLocked := by
  cases afMode <;> simp_all [AfMode.admits, AfMode.isAuto, AfMode.isContinuous]

def sweepResult (rand : Nat) : AfState :=
  if rand % 3 ≠ 0 then .focusedLocked else .notFocusedLocked

def afTransition (afMode : AfMode) (start afModeChanged : Bool) (rand : Nat) : AfState → AfState
  | .inactive =>
    if start = true then
      if afMode.isAuto = true then .activeScan
      else if afMode.isContinuous = true then .notFocusedLocked
      else .inactive
    else if afModeChanged = false ∧ afMode.isContinuous = true then .passiveScan
    else .inactive
  | .passiveScan =>
    if start = true then sweepResult rand
    else if rand % 3 = 0 then .passiveFocused
    else .passiveScan
  | .passiveFocused => if start = true then sweepResult rand else .passiveFocused
  | .activeScan => sweepResult rand
  | .focusedLocked => if start = true ∧ afMode.isAuto = true then .activeScan else .focusedLocked
  | .notFocusedLocked =>
    if start = true ∧ afMode.isAuto = true then .activeScan else .notFocusedLocked
  | .passiveUnfocused => .passiveUnfocused

def afModeOf (settings : CameraMetadata) : AfMode :=
  ((settings.findU8 .controlAfMode).map AfMode.ofCode).getD .off

def afTriggerOf (settings : CameraMetadata) : AfTrigger :=
  ((settings.findU8 .controlAfTrigger).map AfTrigger.ofCode).getD .idle

def State3A.doFakeAF (k : Emulation) (s : State3A) (settings : CameraMetadata) (rand : Nat) :
    StatusT × State3A :=
  if settings.findU8 .controlAfMode = none ∧ k.backwardCompatible = true then (.badValue, s)
  else
    let afMode := afModeOf settings
    if afMode = .off then (.ok, { s with mAfState := .inactive })
    else if afMode.isAuto = false ∧ afMode.isContinuous = false then (.badValue, s)
    else if k.mFacingBack = false then (.badValue, s)
    else
      let afModeChanged := decide (s.mAfMode ≠ afMode)
      let s := { s with mAfMode := afMode }
      match afTriggerOf settings with
      | .idle =>
        (.ok, { s with mAfState := afTransition afMode false afModeChanged rand s.mAfState })
      | .start =>
        (.ok, { s with mAfState := afTransition afMode true afModeChanged rand s.mAfState })
      | .cancel => (.ok, { s with mAfState := .inactive })
      | .other _ => (.badValue, s)

def awbModeOf (settings : CameraMetadata) : AwbMode :=
  ((settings.findU8 .controlAwbMode).map AwbMode.ofCode).getD .auto

def awbLocked (settings : CameraMetadata) : Bool :=
  settings.findU8 .controlAwbLock = some ANDROID_CONTROL_AWB_LOCK_ON

def State3A.doFakeAWB (k : Emulation) (s : State3A) (settings : CameraMetadata) :
    StatusT × State3A :=
  if settings.findU8 .controlAwbMode = none ∧ k.backwardCompatible = true then (.badValue, s)
  else
    match awbModeOf settings with
    | .off => (.ok, { s with mAwbState := .inactive })
    | .other _ => (.badValue, s)
    | _ => (.ok, { s with mAwbState := if awbLocked settings = true then .locked else .converged })

def State3A.entries (s : State3A) : List (MetadataTag × Int64) :=
  (if s.mAeMode ≠ .off then
    [(.sensorExposureTime, s.mAeCurrentExposureTime),
      (.sensorSensitivity, s.mAeCurrentSensitivity.toInt64)]
  else []) ++
    [(.controlAeState, s.mAeState.code), (.controlAfState, s.mAfState.code),
      (.controlAwbState, s.mAwbState.code),
      (.lensState, if s.mAfState = .passiveScan ∨ s.mAfState = .activeScan then
        ANDROID_LENS_STATE_MOVING else ANDROID_LENS_STATE_STATIONARY)]

def State3A.update3A (s : State3A) (settings : CameraMetadata) : CameraMetadata :=
  s.entries.foldl (fun settings entry => settings.update entry.1 entry.2) settings

def State3A.runStages (k : Emulation) (s : State3A) (settings : CameraMetadata) (rand : Rand) :
    StatusT × State3A :=
  match s.doFakeAE k settings rand.ae with
  | (.ok, s) =>
    match s.doFakeAF k settings rand.af with
    | (.ok, s) => s.doFakeAWB k settings
    | failure => failure
  | failure => failure

def controlModeOf (settings : CameraMetadata) : Option ControlMode :=
  (settings.findU8 .controlMode).map ControlMode.ofCode

def State3A.process3A (k : Emulation) (s : State3A) (settings : CameraMetadata) (rand : Rand) :
    StatusT × State3A :=
  match controlModeOf settings with
  | none => (.badValue, s)
  | some .off => (.ok, { s with
      mAeMode := .off
      mAfMode := .off
      mAwbMode := .off
      mAeState := .inactive
      mAfState := .inactive
      mAwbState := .inactive })
  | some .useSceneMode =>
    if k.backwardCompatible = false then (.badValue, s)
    else if settings.findU8 .controlSceneMode = some ANDROID_CONTROL_SCENE_MODE_FACE_PRIORITY then
      { s with mFacePriority := true }.runStages k settings rand
    else (.badValue, s)
  | some (.other _) => { s with mFacePriority := false }.runStages k settings rand

def State3A.fake (k : Emulation) (s : State3A) (settings : CameraMetadata) (rand : Rand) :
    Fake3A where
  res := (s.process3A k settings rand).1
  updates := (s.process3A k settings rand).2.entries

theorem controlModeOf_eq_none_iff (settings : CameraMetadata) :
    controlModeOf settings = none ↔ settings.find .controlMode = none := by
  simp [controlModeOf, CameraMetadata.findU8]

theorem process3A_fake_fst (k : Emulation) (s : State3A) (settings : CameraMetadata)
    (rand : Rand) :
    (process3A (s.fake k settings rand) settings).1 = (s.process3A k settings rand).1 := by
  unfold process3A
  split_ifs with hmode hres
  · rw [State3A.process3A, (controlModeOf_eq_none_iff settings).mpr hmode]
  · exact hres.symm
  · rfl

theorem process3A_fake_snd {k : Emulation} {s : State3A} {settings : CameraMetadata}
    {rand : Rand} (h : (s.process3A k settings rand).1 = .ok) :
    (process3A (s.fake k settings rand) settings).2 =
      (s.process3A k settings rand).2.update3A settings := by
  have hfst := process3A_fake_fst k s settings rand
  unfold process3A at hfst ⊢
  split_ifs at hfst ⊢ with hmode hres
  · simp [h] at hfst
  · rfl
  · exact absurd h hres

def State3A.ae (s : State3A) : AeState × AeMode × Int32 × Int64 × Int64 × Int32 :=
  (s.mAeState, s.mAeMode, s.mAeCounter, s.mAeCurrentExposureTime, s.mAeTargetExposureTime,
    s.mAeCurrentSensitivity)

def State3A.af (s : State3A) : AfState × AfMode := (s.mAfState, s.mAfMode)

section Frames
variable (k : Emulation) (s : State3A) (settings : CameraMetadata) (rand : Nat)

theorem runPrecapture_frame (locked : Bool) :
    (s.runPrecapture k locked).mFacePriority = s.mFacePriority ∧
      (s.runPrecapture k locked).af = s.af ∧
      (s.runPrecapture k locked).mAwbState = s.mAwbState := by
  simp only [State3A.runPrecapture]
  split_ifs <;> exact ⟨rfl, rfl, rfl⟩

theorem runAeScan_frame :
    (s.runAeScan k rand).2.mFacePriority = s.mFacePriority ∧
      (s.runAeScan k rand).2.af = s.af ∧ (s.runAeScan k rand).2.mAwbState = s.mAwbState := by
  simp only [State3A.runAeScan]
  split <;> (try split) <;> exact ⟨rfl, rfl, rfl⟩

theorem doFakeAE_frame :
    (s.doFakeAE k settings rand).2.mFacePriority = s.mFacePriority ∧
      (s.doFakeAE k settings rand).2.af = s.af ∧
      (s.doFakeAE k settings rand).2.mAwbState = s.mAwbState := by
  simp only [State3A.doFakeAE]
  split_ifs
  · exact ⟨rfl, rfl, rfl⟩
  · exact ⟨rfl, rfl, rfl⟩
  · exact runPrecapture_frame k _ _
  · exact runAeScan_frame k _ rand
  · exact ⟨rfl, rfl, rfl⟩

theorem doFakeAF_frame :
    (s.doFakeAF k settings rand).2.mFacePriority = s.mFacePriority ∧
      (s.doFakeAF k settings rand).2.ae = s.ae ∧
      (s.doFakeAF k settings rand).2.mAwbState = s.mAwbState := by
  simp only [State3A.doFakeAF]
  split_ifs
  · exact ⟨rfl, rfl, rfl⟩
  · exact ⟨rfl, rfl, rfl⟩
  · exact ⟨rfl, rfl, rfl⟩
  · exact ⟨rfl, rfl, rfl⟩
  · split <;> exact ⟨rfl, rfl, rfl⟩

theorem doFakeAWB_frame :
    (s.doFakeAWB k settings).2.mFacePriority = s.mFacePriority ∧
      (s.doFakeAWB k settings).2.ae = s.ae ∧ (s.doFakeAWB k settings).2.af = s.af := by
  unfold State3A.doFakeAWB
  split
  · exact ⟨rfl, rfl, rfl⟩
  · split <;> exact ⟨rfl, rfl, rfl⟩

end Frames
end Rpi3Device.Camera3
