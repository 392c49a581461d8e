import Mathlib.Tactic
import Rpi3Device.Camera3.Process3A

/-!
# The 3A control thread of the fake HAL2 camera

Each iteration of `threadLoop` takes a snapshot of the shared fields under
`mInputMutex`, works on it alone and writes the AF and the AE state back in later
critical sections. Requests and triggers may come between any two sections. The
random choices of an iteration are arguments, and so is each comparison of `rand`
with a rate.
-/

namespace Rpi3Device.Camera2
open Camera3 TransitionSystem

def kControlCycleDelay : Int := 100000000
def kMinAfDuration : Int := 500000000
def kMinAeDuration : Int := 500000000
def kMinPrecaptureAeDuration : Int := 100000000
def kNormalExposureTime : Int := 10000000
def kMinExposureTime : Int := 1000000

structure ControlFields where
  mStartAf : Bool := false
  mCancelAf : Bool := false
  mStartPrecapture : Bool := false
  mAfMode : AfMode := .auto
  mAfModeChange : Bool := false
  mAeMode : AeMode := .on
  mAfTriggerId : Int32 := 0
  mPrecaptureTriggerId : Int32 := 0
  mAfState : AfState := .inactive
  mAeState : AeState := .inactive
  mAeLock : Bool
  mExposureTime : Int := kNormalExposureTime
deriving DecidableEq

structure ScanFields where
  mAfScanDuration : Int := 0
  mAeScanDuration : Int := 0
  mLockAfterPassiveScan : Bool := false
deriving DecidableEq

inductive ControlEvent where
  | autofocus (afState : AfState) (triggerId : Int32)
  | autoexposure (aeState : AeState) (triggerId : Int32)
  | unexpectedAfState (afMode : AfMode) (afState : AfState)
  | unexpectedAfMode (afMode : AfMode)
  | iteration (aeLock relocked : Bool) (aeState : AeState)
deriving DecidableEq

def ControlEvent.isUnexpected : ControlEvent → Bool
  | .unexpectedAfState _ _ => true
  | .unexpectedAfMode _ => true
  | _ => false

/-- The status, the settings of the request and the fields after the call. `stale` is what the
entry variable holds from an earlier lookup when the request has no AF mode. -/
def ControlFields.processRequest (c : ControlFields) (request : CameraMetadata) (stale : UInt8) :
    StatusT × CameraMetadata × ControlFields :=
  if (controlModeOf request).getD .off = .off then
    (if controlModeOf request = none then .nameNotFound else .ok, request,
      { c with
        mAfMode := .off
        mAeLock := true
        mAeMode := .off
        mAfModeChange := true
        mStartAf := false
        mCancelAf := true
        mAeState := .inactive })
  else
    let afMode := AfMode.ofCode ((request.findU8 .controlAfMode).getD stale)
    let c := if c.mAfMode ≠ afMode then
        { c with mAfMode := afMode, mAfModeChange := true, mStartAf := false, mCancelAf := false }
      else c
    let aeMode := ((request.findU8 .controlAeMode).map AeMode.ofCode).getD .off
    let aeLock := decide ((request.findU8 .controlAeLock).getD ANDROID_CONTROL_AE_LOCK_ON =
      ANDROID_CONTROL_AE_LOCK_ON)
    let c := { c with
      mAeMode := aeMode
      mAeState := if c.mAeLock = true ∧ aeLock = false then .inactive else c.mAeState
      mAeLock := aeLock }
    let request := if aeMode ≠ .off ∧ request.find .sensorExposureTime ≠ none then
        request.update .sensorExposureTime (Int64.ofInt c.mExposureTime)
      else request
    (.ok, request, c)

inductive TriggerType where
  | autofocus
  | cancelAutofocus
  | precaptureMetering
  | other (code : UInt32)
deriving DecidableEq

def ControlFields.triggerAction (c : ControlFields) (ext1 : Int32) :
    TriggerType → StatusT × ControlFields
  | .autofocus => (.ok, { c with mAfTriggerId := ext1, mStartAf := true, mCancelAf := false })
  | .cancelAutofocus => (.ok, { c with mAfTriggerId := ext1, mStartAf := false, mCancelAf := true })
  | .precaptureMetering => (.ok, { c with mPrecaptureTriggerId := ext1, mStartPrecapture := true })
  | .other _ => (.badValue, c)

structure ControlRand where
  afDuration : Nat := 0
  afStart : Bool := false
  afPassiveDuration : Nat := 0
  afSuccess : Bool := true
  aePrecaptureDuration : Nat := 0
  aeStart : Bool := false
  aeDuration : Nat := 0
  exposureDelta : Int := 0

def processAfTrigger (rand : ControlRand) (p : ScanFields) (afMode : AfMode) (afState : AfState) :
    AfState × ScanFields × List ControlEvent :=
  match afMode with
  | .off => (afState, p, [])
  | .auto | .macroFocus =>
    match afState with
    | .inactive | .focusedLocked | .notFocusedLocked =>
      (.activeScan, { p with mAfScanDuration := rand.afDuration + kMinAfDuration }, [])
    | .activeScan => (afState, p, [])
    | _ => (afState, p, [.unexpectedAfState afMode afState])
  | .continuousPicture =>
    match afState with
    | .passiveScan => (afState, { p with mLockAfterPassiveScan := true }, [])
    | .inactive => (.notFocusedLocked, p, [])
    | .passiveFocused => (.focusedLocked, p, [])
    | .focusedLocked | .notFocusedLocked => (afState, p, [])
    | _ => (afState, p, [.unexpectedAfState afMode afState])
  | .continuousVideo =>
    match afState with
    | .passiveScan | .inactive => (.notFocusedLocked, p, [])
    | .passiveFocused => (.focusedLocked, p, [])
    | .focusedLocked | .notFocusedLocked => (afState, p, [])
    | _ => (afState, p, [.unexpectedAfState afMode afState])
  | .other _ => (afState, p, [])

def maybeStartAfScan (rand : ControlRand) (p : ScanFields) (afMode : AfMode) (afState : AfState) :
    AfState × ScanFields :=
  if afMode.isContinuous = true ∧ (afState = .inactive ∨ afState = .passiveFocused) ∧
      rand.afStart = true then
    (.passiveScan, { p with mAfScanDuration := rand.afPassiveDuration + kMinAfDuration })
  else (afState, p)

def updateAfScan (rand : ControlRand) (p : ScanFields) (afMode : AfMode) (afState : AfState)
    (maxSleep : Int) : AfState × ScanFields × Int × List ControlEvent :=
  if ¬ (afState = .activeScan ∨ afState = .passiveScan) then (afState, p, maxSleep, [])
  else if p.mAfScanDuration ≤ 0 then
    match afMode with
    | .macroFocus | .auto =>
      (if rand.afSuccess = true then .focusedLocked else .notFocusedLocked, p, maxSleep, [])
    | .continuousPicture =>
      if p.mLockAfterPassiveScan = true then
        (.focusedLocked, { p with mLockAfterPassiveScan := false }, maxSleep, [])
      else (.passiveFocused, p, maxSleep, [])
    | .continuousVideo => (.passiveFocused, p, maxSleep, [])
    | _ => (afState, p, maxSleep, [.unexpectedAfMode afMode])
  else (afState, p, min p.mAfScanDuration maxSleep, [])

def aeScans : AeMode → Bool
  | .off => false
  | .on => true
  | .other code => code = 2 ∨ code = 3 ∨ code = 4

def processPrecaptureTrigger (rand : ControlRand) (p : ScanFields) (aeMode : AeMode)
    (aeState : AeState) : AeState × ScanFields :=
  if aeScans aeMode = true then
    (.precapture,
      { p with mAeScanDuration := rand.aePrecaptureDuration + kMinPrecaptureAeDuration })
  else (aeState, p)

def maybeStartAeScan (rand : ControlRand) (p : ScanFields) (aeMode : AeMode) (aeLocked : Bool)
    (aeState : AeState) : AeState × ScanFields :=
  if aeLocked = true then (aeState, p)
  else if aeScans aeMode = true ∧ (aeState = .inactive ∨ aeState = .converged) ∧
      rand.aeStart = true then
    (.searching, { p with mAeScanDuration := rand.aeDuration + kMinAeDuration })
  else (aeState, p)

def updateAeScan (rand : ControlRand) (p : ScanFields) (aeLock : Bool) (aeState : AeState)
    (maxSleep exposureTime : Int) : AeState × ScanFields × Int × Int :=
  if aeLock = true ∧ aeState ≠ .precapture then
    (.locked, { p with mAeScanDuration := 0 }, maxSleep, exposureTime)
  else if aeState = .searching ∨ aeState = .precapture then
    if p.mAeScanDuration ≤ 0 then
      (if aeLock = true then .locked else .converged, p, maxSleep, kNormalExposureTime)
    else (aeState, p, min p.mAeScanDuration maxSleep,
      max (exposureTime + rand.exposureDelta) kMinExposureTime)
  else (aeState, p, maxSleep, exposureTime)

def ControlFields.updateAfState (c : ControlFields) (newState : AfState) (triggerId : Int32) :
    ControlFields × List ControlEvent :=
  if c.mAfState ≠ newState then
    ({ c with mAfState := newState }, [.autofocus newState triggerId])
  else (c, [])

def ControlFields.updateAeState (c : ControlFields) (newState : AeState) (triggerId : Int32) :
    ControlFields × List ControlEvent :=
  if c.mAeState ≠ newState then
    ({ c with mAeState := newState }, [.autoexposure newState triggerId])
  else (c, [])

/-- The locals of an iteration; `relocked` records whether a request locked AE since the snapshot,
for the statements about it alone. -/
structure ControlLocals where
  afModeChange : Bool
  afTriggered : Bool
  afCancelled : Bool
  afState : AfState
  afMode : AfMode
  afTriggerId : Int32
  precaptureTriggered : Bool
  aeState : AeState
  aeMode : AeMode
  aeLock : Bool
  precaptureTriggerId : Int32
  nextSleep : Int
  relocked : Bool
deriving DecidableEq

/-- Where the thread is: before the snapshot, before the reset of AF, before the AF stage with its
write, before the AE stage, before the AE write, or asleep. -/
inductive ControlPlace where
  | top
  | resetAf (l : ControlLocals)
  | focus (l : ControlLocals)
  | expose (l : ControlLocals)
  | writeAe (l : ControlLocals)
  | asleep (l : ControlLocals)
deriving DecidableEq

structure ControlState where
  fields : ControlFields
  scan : ScanFields
  place : ControlPlace
deriving DecidableEq

inductive ControlAction where
  | processRequest (request : CameraMetadata) (stale : UInt8)
  | triggerAction (type : TriggerType) (ext1 : Int32)
  | snapshot
  | resetAf
  | focus (rand : ControlRand)
  | expose (rand : ControlRand)
  | writeAe
  | wake

def ControlFields.snapshot (c : ControlFields) : ControlLocals × ControlFields :=
  (⟨c.mAfModeChange, c.mStartAf, !c.mStartAf && c.mCancelAf, c.mAfState, c.mAfMode, c.mAfTriggerId,
      c.mStartPrecapture, c.mAeState, c.mAeMode, c.mAeLock, c.mPrecaptureTriggerId,
      kControlCycleDelay, false⟩,
    { c with
      mStartAf := false
      mCancelAf := c.mStartAf && c.mCancelAf
      mAfModeChange := false
      mStartPrecapture := false })

def focusStage (rand : ControlRand) (p : ScanFields) (l : ControlLocals) :
    ControlLocals × ScanFields × List ControlEvent :=
  let (afState, p, es) :=
    if l.afTriggered = true then processAfTrigger rand p l.afMode l.afState else (l.afState, p, [])
  let (afState, p) := maybeStartAfScan rand p l.afMode afState
  let (afState, p, nextSleep, es') := updateAfScan rand p l.afMode afState l.nextSleep
  ({ l with afState := afState, nextSleep := nextSleep }, p, es ++ es')

def exposeStage (rand : ControlRand) (p : ScanFields) (l : ControlLocals) (exposureTime : Int) :
    ControlLocals × ScanFields × Int :=
  let (aeState, p) :=
    if l.precaptureTriggered = true then processPrecaptureTrigger rand p l.aeMode l.aeState
    else (l.aeState, p)
  let (aeState, p) := maybeStartAeScan rand p l.aeMode l.aeLock aeState
  let (aeState, p, nextSleep, exposureTime) :=
    updateAeScan rand p l.aeLock aeState l.nextSleep exposureTime
  ({ l with aeState := aeState, nextSleep := nextSleep }, p, exposureTime)

def ScanFields.sleep (p : ScanFields) (nextSleep : Int) : ScanFields :=
  { p with
    mAfScanDuration := if p.mAfScanDuration > 0 then p.mAfScanDuration - nextSleep
      else p.mAfScanDuration
    mAeScanDuration := if p.mAeScanDuration > 0 then p.mAeScanDuration - nextSleep
      else p.mAeScanDuration }

def ControlPlace.noteLock (aeLock : Bool) : ControlPlace → ControlPlace
  | .top => .top
  | .resetAf l => .resetAf { l with relocked := l.relocked || aeLock }
  | .focus l => .focus { l with relocked := l.relocked || aeLock }
  | .expose l => .expose { l with relocked := l.relocked || aeLock }
  | .writeAe l => .writeAe { l with relocked := l.relocked || aeLock }
  | .asleep l => .asleep { l with relocked := l.relocked || aeLock }

def controlMachine : Machine ControlState ControlAction ControlEvent where
  step s
    | .processRequest request stale =>
      let fields := (s.fields.processRequest request stale).2.2
      some ({ s with fields := fields, place := s.place.noteLock fields.mAeLock }, [])
    | .triggerAction type ext1 =>
      some ({ s with fields := (s.fields.triggerAction ext1 type).2 }, [])
    | .snapshot =>
      match s.place with
      | .top =>
        let (l, fields) := s.fields.snapshot
        some ({ s with
          fields := fields
          place := if l.afCancelled = true ∨ l.afModeChange = true then .resetAf l
            else .focus l }, [])
      | _ => none
    | .resetAf =>
      match s.place with
      | .resetAf l =>
        let (fields, es) := s.fields.updateAfState .inactive l.afTriggerId
        some (⟨fields, { s.scan with mAfScanDuration := 0, mLockAfterPassiveScan := false },
          .focus { l with afState := .inactive }⟩, es)
      | _ => none
    | .focus rand =>
      match s.place with
      | .focus l =>
        let (l, p, es) := focusStage rand s.scan l
        let (fields, es') := s.fields.updateAfState l.afState l.afTriggerId
        some (⟨fields, p, .expose l⟩, es ++ es')
      | _ => none
    | .expose rand =>
      match s.place with
      | .expose l =>
        let (l, p, exposureTime) := exposeStage rand s.scan l s.fields.mExposureTime
        some (⟨{ s.fields with mExposureTime := exposureTime }, p, .writeAe l⟩, [])
      | _ => none
    | .writeAe =>
      match s.place with
      | .writeAe l =>
        let (fields, es) := s.fields.updateAeState l.aeState l.precaptureTriggerId
        some ({ s with fields := fields, place := .asleep l }, es)
      | _ => none
    | .wake =>
      match s.place with
      | .asleep l =>
        some ({ s with scan := s.scan.sleep l.nextSleep, place := .top },
          [.iteration l.aeLock l.relocked s.fields.mAeState])
      | _ => none

/-- The thread as `readyToRun` leaves it; the constructor does not set `mAeLock`. -/
def readyToRun (aeLock : Bool) : ControlState where
  fields := { mAeLock := aeLock }
  scan := {}
  place := .top

inductive ControlStep : ControlState → ControlAction → ControlState → List ControlEvent → Prop where
  | processRequest {c p place} (request : CameraMetadata) (stale : UInt8) :
      ControlStep ⟨c, p, place⟩ (.processRequest request stale)
        ⟨(c.processRequest request stale).2.2, p,
          place.noteLock (c.processRequest request stale).2.2.mAeLock⟩ []
  | triggerAction {c p place} (type : TriggerType) (ext1 : Int32) :
      ControlStep ⟨c, p, place⟩ (.triggerAction type ext1)
        ⟨(c.triggerAction ext1 type).2, p, place⟩ []
  | snapshotReset {c p} (h : c.snapshot.1.afCancelled = true ∨ c.snapshot.1.afModeChange = true) :
      ControlStep ⟨c, p, .top⟩ .snapshot ⟨c.snapshot.2, p, .resetAf c.snapshot.1⟩ []
  | snapshot {c p}
      (h : ¬ (c.snapshot.1.afCancelled = true ∨ c.snapshot.1.afModeChange = true)) :
      ControlStep ⟨c, p, .top⟩ .snapshot ⟨c.snapshot.2, p, .focus c.snapshot.1⟩ []
  | resetAf {c p} (l : ControlLocals) :
      ControlStep ⟨c, p, .resetAf l⟩ .resetAf
        ⟨(c.updateAfState .inactive l.afTriggerId).1,
          { p with mAfScanDuration := 0, mLockAfterPassiveScan := false },
          .focus { l with afState := .inactive }⟩
        (c.updateAfState .inactive l.afTriggerId).2
  | focus {c p} (l : ControlLocals) (rand : ControlRand) :
      ControlStep ⟨c, p, .focus l⟩ (.focus rand)
        ⟨(c.updateAfState (focusStage rand p l).1.afState (focusStage rand p l).1.afTriggerId).1,
          (focusStage rand p l).2.1, .expose (focusStage rand p l).1⟩
        ((focusStage rand p l).2.2 ++
          (c.updateAfState (focusStage rand p l).1.afState (focusStage rand p l).1.afTriggerId).2)
  | expose {c p} (l : ControlLocals) (rand : ControlRand) :
      ControlStep ⟨c, p, .expose l⟩ (.expose rand)
        ⟨{ c with mExposureTime := (exposeStage rand p l c.mExposureTime).2.2 },
          (exposeStage rand p l c.mExposureTime).2.1,
          .writeAe (exposeStage rand p l c.mExposureTime).1⟩ []
  | writeAe {c p} (l : ControlLocals) :
      ControlStep ⟨c, p, .writeAe l⟩ .writeAe
        ⟨(c.updateAeState l.aeState l.precaptureTriggerId).1, p, .asleep l⟩
        (c.updateAeState l.aeState l.precaptureTriggerId).2
  | wake {c p} (l : ControlLocals) :
      ControlStep ⟨c, p, .asleep l⟩ .wake ⟨c, p.sleep l.nextSleep, .top⟩
        [.iteration l.aeLock l.relocked c.mAeState]

theorem controlStep_of_step {s s' : ControlState} {a : ControlAction} {es : List ControlEvent}
    (h : controlMachine.step s a = some (s', es)) : ControlStep s a s' es := by
  obtain ⟨c, p, place⟩ := s
  cases a with
  | processRequest request stale =>
    cases h
    exact .processRequest request stale
  | triggerAction type ext1 =>
    cases h
    exact .triggerAction type ext1
  | snapshot =>
    cases place with
    | top =>
      by_cases hreset : c.snapshot.1.afCancelled = true ∨ c.snapshot.1.afModeChange = true
      · simp only [controlMachine, if_pos hreset, Option.some.injEq, Prod.mk.injEq] at h
        obtain ⟨rfl, rfl⟩ := h
        exact .snapshotReset hreset
      · simp only [controlMachine, if_neg hreset, Option.some.injEq, Prod.mk.injEq] at h
        obtain ⟨rfl, rfl⟩ := h
        exact .snapshot hreset
    | _ => cases h
  | resetAf =>
    cases place with
    | resetAf l =>
      cases h
      exact .resetAf l
    | _ => cases h
  | focus rand =>
    cases place with
    | focus l =>
      cases h
      exact .focus l rand
    | _ => cases h
  | expose rand =>
    cases place with
    | expose l =>
      cases h
      exact .expose l rand
    | _ => cases h
  | writeAe =>
    cases place with
    | writeAe l =>
      cases h
      exact .writeAe l
    | _ => cases h
  | wake =>
    cases place with
    | asleep l =>
      cases h
      exact .wake l
    | _ => cases h

end Rpi3Device.Camera2
