import Mathlib.Tactic
import Rpi3Device.Camera3.CaptureRequest

/-!
# The threads of the fake HAL3 camera

The framework's thread, which calls `processCaptureRequest` and `closeCamera` one
after the other, the sensor thread, the readout thread and the JPEG thread. A step
of a thread is one section under a mutex. A thread that waits on a condition is at
a place of its own; it leaves it when the condition is signalled or, where the code
gives a timeout, when the wait times out or fails. There are no spurious wake-ups.

`EmulatedFakeCamera3::mLock` is held by the framework's thread at every place but
`idle`, `join` and `release`. The two lists a request allocates are named by the
address of the allocation.
-/

namespace Rpi3Device.Camera3
open TransitionSystem

inductive WaitResult where
  | ok
  | timedOut
  | failed
deriving DecidableEq

structure Request where
  prepared : PreparedRequest
  buffers : Nat
  sensorBuffers : Nat
deriving DecidableEq

def kMaxQueueSize : Nat := 2
def kMaxWaitLoops : Nat := 1000
def kMaxSyncTimeoutCount : Nat := 1000

inductive CallerPc where
  | idle
  | waitForDone (r : Request) (waiting : Bool)
  | reserve (r : Request)
  | waitForReadout (r : Request)
  | queueFull (r : Request) (loopCount : Nat)
  | waitForVSync (r : Request) (syncTimeoutCount : Nat)
  | vsyncWait (r : Request) (syncTimeoutCount : Nat)
  | setExposureTime (r : Request)
  | setFrameDuration (r : Request)
  | setSensitivity (r : Request)
  | setDestinationBuffers (r : Request)
  | setFrameNumber (r : Request)
  | queueCaptureRequest (r : Request)
  | cacheSettings (r : Request)
  | shutDown
  | clearSensor
  | requestExit
  | join
  | release
deriving DecidableEq

def CallerPc.holdsLock : CallerPc → Bool
  | .idle => false
  | .join => false
  | .release => false
  | _ => true

structure Shot where
  exposureTime : UInt64
  frameDuration : UInt64
  gain : UInt32
  buffers : Option Nat
  frameNumber : UInt32
deriving DecidableEq

inductive SensorPc where
  | top
  | readout (shot : Shot)
  | waitComplete (shot : Shot) (capturedBuffers : Nat)
  | complete (shot : Shot) (capturedBuffers : Nat)
  | capture (shot : Shot)
  | exited
deriving DecidableEq

structure Sensor where
  pc : SensorPc := .top
  mGotVSync : Bool := false
  mExposureTime : UInt64
  mFrameDuration : UInt64
  mGainFactor : UInt32 := 100
  mNextBuffers : Option Nat := none
  mFrameNumber : UInt32 := 0
  mNextCapturedBuffers : Option Nat := none
  mCapturedBuffers : Option Nat := none
  exitPending : Bool := false

/-- The places of the readout thread. From the buffer loop on they carry the buffers done, the
ones left and whether the compressor took one. -/
inductive ReadoutPc where
  | top
  | waitRequest
  | wokenRequest
  | waitForNewFrame
  | waitFrame
  | buffers (done rest : List HalBuffer) (needJpeg : Bool)
  | startJpeg (done : List HalBuffer) (buf : HalBuffer) (rest : List HalBuffer) (needJpeg : Bool)
  | signalIdle (done : List HalBuffer) (needJpeg : Bool)
  | send (done : List HalBuffer) (needJpeg : Bool)
  | exited
  | crashed
deriving DecidableEq

/-- No current request stands for one with empty settings; `sensorBuffers` is its list, NULL once
the compressor has it. -/
structure Readout where
  pc : ReadoutPc := .top
  mInFlightQueue : List Request := []
  mThreadActive : Bool
  mCurrentRequest : Option Request := none
  sensorBuffers : Option Nat := none
  mJpegWaiting : Bool := false
  mJpegHalBuffer : HalBuffer
  mJpegFrameNumber : UInt32
  exitPending : Bool := false

inductive JpegPc where
  | idle
  | compress
  | notify (success : Bool)
  | cleanUp
  | exiting
deriving DecidableEq

structure Jpeg where
  pc : JpegPc := .idle
  mIsBusy : Bool := false
  mBuffers : Option Nat := none

structure Camera where
  caller : CallerPc := .idle
  sensor : Sensor
  readout : Readout
  jpeg : Jpeg := {}
  mSensor : Bool := true
  mStatus : CameraStatus
  table : StreamTable
  nextBlock : Nat := 0

inductive Event where
  | alloc (block : Nat)
  | delete (block : Nat)
  | accepted (r : Request)
  | returned (status : StatusT)
  | reserved
  | cleanedUp
  | shutter (frameNumber : UInt32)
  | capture (buffers : Nat) (exposureTime frameDuration : UInt64) (gain : UInt32)
  | sensorCall (present : Bool)
  | frame (buffers : Nat) (held : Option Request)
  | captureResult (frameNumber : UInt32) (buffers : List HalBuffer)
  | closed (status : StatusT)
deriving DecidableEq

def Sensor.shot (sensor : Sensor) : Shot where
  exposureTime := sensor.mExposureTime
  frameDuration := sensor.mFrameDuration
  gain := sensor.mGainFactor
  buffers := sensor.mNextBuffers
  frameNumber := sensor.mFrameNumber

def enterRequest (c : Camera) (request : Option CaptureRequest) (fake : Fake3A)
    (o : BufferOutcomes) : Option (Camera × List Event) :=
  if c.caller = .idle then
    let b := beginRequest c.table c.mStatus request fake o
    let c := { c with mStatus := b.mStatus, table := b.table }
    match b.result with
    | .error res =>
      if b.allocated = true then
        some ({ c with nextBlock := c.nextBlock + 2 }, [.alloc c.nextBlock,
          .alloc (c.nextBlock + 1), .delete c.nextBlock, .delete (c.nextBlock + 1), .returned res])
      else some (c, [.returned res])
    | .ok prepared =>
      let r : Request := ⟨prepared, c.nextBlock + 1, c.nextBlock⟩
      some ({ c with
        caller := if prepared.needJpeg = true then .waitForDone r false else .waitForReadout r
        nextBlock := c.nextBlock + 2 }, [.alloc r.sensorBuffers, .alloc r.buffers])
  else none

def enterClose (c : Camera) : Option (Camera × List Event) :=
  if c.caller = .idle then
    if c.mStatus = .closed then some (c, [.closed .ok])
    else some ({ c with caller := .shutDown, sensor := { c.sensor with exitPending := true } }, [])
  else none

def clearStreams (t : StreamTable) : StreamTable :=
  { t.mStreams.foldl dropInfo t with mStreams := [] }

def callerStep (c : Camera) (res : WaitResult) : Option (Camera × List Event) :=
  match c.caller with
  | .idle => none
  | .waitForDone r waiting =>
    if waiting = true ∧ res ≠ .ok then some ({ c with caller := .idle }, [.returned .noInit])
    else if c.jpeg.mIsBusy = false then some ({ c with caller := .reserve r }, [])
    else if waiting = false then some ({ c with caller := .waitForDone r true }, [])
    else none
  | .reserve r =>
    if c.jpeg.mIsBusy = true then some ({ c with caller := .idle }, [.returned .noInit])
    else some ({ c with caller := .waitForReadout r, jpeg := { c.jpeg with mIsBusy := true } },
      [.reserved])
  | .waitForReadout r =>
    if kMaxQueueSize ≤ c.readout.mInFlightQueue.length then
      some ({ c with caller := .queueFull r 0 }, [])
    else some ({ c with caller := .waitForVSync r 0 }, [])
  | .queueFull r loopCount =>
    if res = .failed ∨ loopCount = kMaxWaitLoops then
      some ({ c with caller := .idle }, [.returned .noInit])
    else if kMaxQueueSize ≤ c.readout.mInFlightQueue.length then
      some ({ c with caller := .queueFull r (loopCount + 1) }, [])
    else some ({ c with caller := .waitForVSync r 0 }, [])
  | .waitForVSync r syncTimeoutCount =>
    some ({ c with
      caller := .vsyncWait r syncTimeoutCount
      sensor := { c.sensor with mGotVSync := false } }, [])
  | .vsyncWait r syncTimeoutCount =>
    if res ≠ .failed ∧ c.sensor.mGotVSync = true then
      some ({ c with caller := .setExposureTime r }, [])
    else if res = .ok then none
    else if c.mStatus = .error ∨ syncTimeoutCount = kMaxSyncTimeoutCount then
      some ({ c with caller := .idle }, [.returned .noInit])
    else some ({ c with caller := .waitForVSync r (syncTimeoutCount + 1) }, [])
  | .setExposureTime r =>
    some ({ c with
      caller := .setFrameDuration r
      sensor := { c.sensor with
        mExposureTime := r.prepared.sensor.exposureTime.toUInt64 } }, [])
  | .setFrameDuration r =>
    some ({ c with
      caller := .setSensitivity r
      sensor := { c.sensor with
        mFrameDuration := r.prepared.sensor.frameDuration.toUInt64 } }, [])
  | .setSensitivity r =>
    some ({ c with
      caller := .setDestinationBuffers r
      sensor := { c.sensor with mGainFactor := r.prepared.sensor.sensitivity } }, [])
  | .setDestinationBuffers r =>
    some ({ c with
      caller := .setFrameNumber r
      sensor := { c.sensor with mNextBuffers := some r.sensorBuffers } }, [])
  | .setFrameNumber r =>
    some ({ c with
      caller := .queueCaptureRequest r
      sensor := { c.sensor with mFrameNumber := r.prepared.frameNumber } }, [])
  | .queueCaptureRequest r =>
    some ({ c with
      caller := .cacheSettings r
      readout := { c.readout with
        mInFlightQueue := c.readout.mInFlightQueue ++ [r]
        pc := if c.readout.pc = .waitRequest then .wokenRequest else c.readout.pc } },
      [.accepted r])
  | .cacheSettings r =>
    some ({ c with
      caller := .idle
      table := { c.table with mPrevSettings := r.prepared.settings } }, [.returned .ok])
  | .shutDown =>
    if res = .failed then some ({ c with caller := .idle }, [.closed .invalidOperation])
    else if c.sensor.pc = .exited then some ({ c with caller := .clearSensor }, [])
    else none
  | .clearSensor => some ({ c with caller := .requestExit, mSensor := false }, [])
  | .requestExit =>
    some ({ c with caller := .join, readout := { c.readout with exitPending := true } }, [])
  | .join => if c.readout.pc = .exited then some ({ c with caller := .release }, []) else none
  | .release =>
    some ({ c with
      caller := .idle
      table := clearStreams c.table
      readout := { c.readout with mInFlightQueue := [] }
      mStatus := .closed },
      c.readout.mInFlightQueue.flatMap (fun r => [.delete r.buffers, .delete r.sensorBuffers]) ++
        [.closed .ok])

def sensorStep (c : Camera) : Option (Camera × List Event) :=
  match c.sensor.pc with
  | .top =>
    if c.sensor.exitPending = true then
      some ({ c with sensor := { c.sensor with pc := .exited } }, [])
    else some ({ c with sensor := { c.sensor with
      pc := .readout c.sensor.shot
      mNextBuffers := none
      mGotVSync := true } }, [])
  | .readout shot =>
    match c.sensor.mNextCapturedBuffers with
    | none => some ({ c with sensor := { c.sensor with pc := .capture shot } }, [])
    | some capturedBuffers =>
      if c.sensor.mCapturedBuffers = none then
        some ({ c with sensor := { c.sensor with
          pc := .capture shot
          mCapturedBuffers := some capturedBuffers } }, [])
      else
        some ({ c with sensor := { c.sensor with pc := .waitComplete shot capturedBuffers } }, [])
  | .waitComplete _ _ => none
  | .complete shot capturedBuffers =>
    some ({ c with sensor := { c.sensor with
      pc := .capture shot
      mCapturedBuffers := some capturedBuffers } }, [])
  | .capture shot =>
    some ({ c with sensor := { c.sensor with
      pc := .top
      mNextCapturedBuffers := shot.buffers } },
      match shot.buffers with
      | none => []
      | some buffers => [.shutter shot.frameNumber,
          .capture buffers shot.exposureTime shot.frameDuration shot.gain])
  | .exited => none

/-- A BLOB buffer that is not a depth cloud goes to the JPEG compressor. -/
def isJpeg (streams : Nat → Stream) (b : HalBuffer) : Bool :=
  decide ((streams b.stream).format = .blob ∧ (streams b.stream).dataSpace ≠ .depth)

def takeRequest (c : Camera) : Option (Camera × List Event) :=
  match c.readout.mInFlightQueue with
  | [] => none
  | r :: rest => some ({ c with readout := { c.readout with
      pc := .waitForNewFrame
      mInFlightQueue := rest
      mThreadActive := true
      mCurrentRequest := some r
      sensorBuffers := some r.sensorBuffers } }, [])

def takeFrame (c : Camera) (buffers : Nat) : Camera × List Event :=
  ({ c with
    sensor := { c.sensor with
      mCapturedBuffers := none
      pc := match c.sensor.pc with
        | .waitComplete shot capturedBuffers => .complete shot capturedBuffers
        | pc => pc }
    readout := { c.readout with
      pc := .buffers [] ((c.readout.mCurrentRequest.map (·.prepared.buffers)).getD []) false } },
    [.frame buffers c.readout.mCurrentRequest])

def finished (b : HalBuffer) (status : BufferStatus) : HalBuffer :=
  { b with status := status, acquireFence := -1, releaseFence := -1 }

def isIdle (readout : Readout) : Prop :=
  readout.mInFlightQueue = [] ∧ readout.mThreadActive = false

instance (readout : Readout) : Decidable (isIdle readout) :=
  inferInstanceAs (Decidable (_ ∧ _))

def signalReadoutIdle (c : Camera) : CameraStatus :=
  if c.mStatus = .active ∧ isIdle c.readout then .ready else c.mStatus

def readoutStep (c : Camera) (res : WaitResult) : Option (Camera × List Event) :=
  match c.readout.pc with
  | .top =>
    if c.readout.exitPending = true then
      some ({ c with readout := { c.readout with pc := .exited } }, [])
    else
      match c.readout.mCurrentRequest with
      | some _ => some ({ c with readout := { c.readout with pc := .waitForNewFrame } }, [])
      | none =>
        if c.readout.mInFlightQueue = [] then
          some ({ c with readout := { c.readout with pc := .waitRequest } }, [])
        else takeRequest c
  | .waitRequest =>
    match res with
    | .ok => none
    | .timedOut => some ({ c with readout := { c.readout with pc := .top } }, [])
    | .failed => some ({ c with readout := { c.readout with pc := .exited } }, [])
  | .wokenRequest => takeRequest c
  | .waitForNewFrame =>
    if c.mSensor = true then
      match c.sensor.mCapturedBuffers with
      | some buffers =>
        let (c', es) := takeFrame c buffers
        some (c', .sensorCall true :: es)
      | none => some ({ c with readout := { c.readout with pc := .waitFrame } }, [.sensorCall true])
    else some ({ c with readout := { c.readout with pc := .crashed } }, [.sensorCall false])
  | .waitFrame =>
    match res, c.sensor.mCapturedBuffers with
    | .ok, some buffers => some (takeFrame c buffers)
    | _, _ => some ({ c with readout := { c.readout with pc := .top } }, [])
  | .buffers done (b :: rest) needJpeg =>
    if isJpeg c.table.streams b = true then
      if c.readout.mJpegWaiting = true ∨ c.jpeg.mIsBusy = false then
        some ({ c with readout := { c.readout with
          pc := .buffers (done ++ [finished b .error]) rest needJpeg } }, [])
      else some ({ c with
        readout := { c.readout with pc := .startJpeg done b rest needJpeg }
        jpeg := { c.jpeg with mBuffers := c.readout.sensorBuffers } }, [])
    else
      some ({ c with readout := { c.readout with
        pc := .buffers (done ++ [finished b .ok]) rest needJpeg } }, [])
  | .startJpeg done b rest needJpeg =>
    if res = .ok then
      if c.jpeg.pc = .idle then some ({ c with
        readout := { c.readout with
          pc := .buffers done rest true
          mJpegHalBuffer := b
          mJpegFrameNumber := (c.readout.mCurrentRequest.map (·.prepared.frameNumber)).getD 0
          mJpegWaiting := true
          sensorBuffers := none }
        jpeg := { c.jpeg with pc := .compress } }, [])
      else none
    else some ({ c with readout := { c.readout with
      pc := .buffers (done ++ [finished b .error]) rest needJpeg } },
      (c.jpeg.mBuffers.map Event.delete).toList)
  | .buffers done [] needJpeg =>
    if c.readout.mInFlightQueue = [] then
      some ({ c with readout := { c.readout with
        pc := .signalIdle done needJpeg
        mThreadActive := false } }, [])
    else some ({ c with readout := { c.readout with pc := .send done needJpeg } }, [])
  | .signalIdle done needJpeg =>
    if c.caller.holdsLock = true then none
    else some ({ c with
      readout := { c.readout with pc := .send done needJpeg }
      mStatus := signalReadoutIdle c }, [])
  | .send done needJpeg =>
    match c.readout.mCurrentRequest with
    | none => none
    | some r =>
      some ({ c with readout := { c.readout with
        pc := .top
        mCurrentRequest := none
        sensorBuffers := if needJpeg = true then c.readout.sensorBuffers else none } },
        [.captureResult r.prepared.frameNumber done, .delete r.buffers] ++
          if needJpeg = true then [] else (c.readout.sensorBuffers.map Event.delete).toList)
  | .exited => none
  | .crashed => none

def jpegStep (c : Camera) (success : Bool) : Option (Camera × List Event) :=
  match c.jpeg.pc with
  | .idle => none
  | .compress =>
    if c.jpeg.mBuffers = none then none
    else some ({ c with jpeg := { c.jpeg with pc := .notify success } }, [])
  | .notify success =>
    match c.readout.pc with
    | .startJpeg _ _ _ _ => none
    | _ =>
      some ({ c with
        jpeg := { c.jpeg with pc := .cleanUp }
        readout := { c.readout with
          mJpegWaiting := false
          mJpegHalBuffer :=
            finished c.readout.mJpegHalBuffer (if success = true then .ok else .error) } },
        [.captureResult c.readout.mJpegFrameNumber
          [finished c.readout.mJpegHalBuffer (if success = true then .ok else .error)]])
  | .cleanUp =>
    some ({ c with jpeg := { c.jpeg with pc := .exiting, mBuffers := none, mIsBusy := false } },
      (c.jpeg.mBuffers.map Event.delete).toList ++ [.cleanedUp])
  | .exiting => some ({ c with jpeg := { c.jpeg with pc := .idle } }, [])

inductive Action where
  | processCaptureRequest (request : Option CaptureRequest) (fake : Fake3A) (o : BufferOutcomes)
  | closeCamera
  | caller (res : WaitResult)
  | sensor
  | readout (res : WaitResult)
  | jpeg (success : Bool)

def Action.isClose : Action → Bool
  | .closeCamera => true
  | _ => false

def Action.isSensor : Action → Bool
  | .sensor => true
  | _ => false

def cameraStep (c : Camera) : Action → Option (Camera × List Event)
  | .processCaptureRequest request fake o => enterRequest c request fake o
  | .closeCamera => enterClose c
  | .caller res => callerStep c res
  | .sensor => sensorStep c
  | .readout res => readoutStep c res
  | .jpeg success => jpegStep c success

def camera : Machine Camera Action Event := ⟨cameraStep⟩

def StaysOpen (_ : Camera) (action : Action) : Prop := action.isClose = false

instance (c : Camera) (action : Action) : Decidable (StaysOpen c action) :=
  inferInstanceAs (Decidable (_ = _))

/-- A connected camera at rest: both threads run, nothing is queued, reserved or captured. -/
structure AtRest (c : Camera) : Prop where
  caller : c.caller = .idle
  sensor : c.sensor.pc = .top
  mNextBuffers : c.sensor.mNextBuffers = none
  mNextCapturedBuffers : c.sensor.mNextCapturedBuffers = none
  mCapturedBuffers : c.sensor.mCapturedBuffers = none
  sensorExit : c.sensor.exitPending = false
  readout : c.readout.pc = .top
  mInFlightQueue : c.readout.mInFlightQueue = []
  mCurrentRequest : c.readout.mCurrentRequest = none
  sensorBuffers : c.readout.sensorBuffers = none
  mJpegWaiting : c.readout.mJpegWaiting = false
  readoutExit : c.readout.exitPending = false
  jpeg : c.jpeg = {}
  mSensor : c.mSensor = true

def previewCamera : Camera where
  sensor := { mExposureTime := 33321760, mFrameDuration := 33331760 }
  readout := { mThreadActive := false, mJpegHalBuffer := previewBuffer 0, mJpegFrameNumber := 0 }
  mStatus := .ready
  table := previewTable

theorem previewCamera_atRest : AtRest previewCamera := by
  constructor <;> rfl

def previewRun : List Action :=
  [Action.processCaptureRequest (some twoBufferRequest) {} {}] ++
    List.replicate 2 (Action.caller .ok) ++ [Action.sensor] ++
    List.replicate 8 (Action.caller .ok) ++ List.replicate 7 Action.sensor ++
    List.replicate 2 (Action.readout .ok)

end Rpi3Device.Camera3
