import Mathlib.Tactic
import Rpi3Device.Camera3.Pipeline

/-!
# What the threads can do

One list of moves for each thread, with the guards the code checks, and the proof
that every step is one of them. The invariants of the camera are proved by cases
on the moves. The waits of a request before it reaches the sensor are one move,
and so are the four error exits between them.
-/

namespace Rpi3Device.Camera3
open TransitionSystem

def CallerPc.request : CallerPc → Option Request
  | .waitForDone r _ => some r
  | .reserve r => some r
  | .waitForReadout r => some r
  | .queueFull r _ => some r
  | .waitForVSync r _ => some r
  | .vsyncWait r _ => some r
  | .setExposureTime r => some r
  | .setFrameDuration r => some r
  | .setSensitivity r => some r
  | .setDestinationBuffers r => some r
  | .setFrameNumber r => some r
  | .queueCaptureRequest r => some r
  | _ => none

def CallerPc.pastReserve : CallerPc → Option Request
  | .waitForReadout r => some r
  | .queueFull r _ => some r
  | .waitForVSync r _ => some r
  | .vsyncWait r _ => some r
  | .setExposureTime r => some r
  | .setFrameDuration r => some r
  | .setSensitivity r => some r
  | .setDestinationBuffers r => some r
  | .setFrameNumber r => some r
  | .queueCaptureRequest r => some r
  | _ => none

def CallerPc.delivered : CallerPc → Option Request
  | .setFrameNumber r => some r
  | .queueCaptureRequest r => some r
  | _ => none

def CallerPc.beforeSync : CallerPc → Bool
  | .waitForDone _ _ => true
  | .reserve _ => true
  | .waitForReadout _ => true
  | .queueFull _ _ => true
  | .waitForVSync _ _ => true
  | _ => false

def CallerPc.closes : CallerPc → Bool
  | .shutDown => true
  | .clearSensor => true
  | .requestExit => true
  | .join => true
  | .release => true
  | _ => false

theorem CallerPc.not_closes {pc pc' : CallerPc} (h : pc.closes = false) (hpc : pc = pc')
    (hcloses : pc'.closes = true) : False := by
  rw [hpc, hcloses] at h
  cases h

def Readout.awaited (readout : Readout) : List Request :=
  match readout.pc with
  | .buffers _ _ _ => []
  | .startJpeg _ _ _ _ => []
  | .signalIdle _ _ => []
  | .send _ _ => []
  | _ => readout.mCurrentRequest.toList

def ReadoutPc.gaveBuffers : ReadoutPc → Option Bool
  | .buffers _ _ needJpeg => some needJpeg
  | .startJpeg _ _ _ needJpeg => some needJpeg
  | .signalIdle _ needJpeg => some needJpeg
  | .send _ needJpeg => some needJpeg
  | _ => none

theorem Readout.awaited_of_gaveBuffers_none {readout : Readout}
    (h : readout.pc.gaveBuffers = none) : readout.awaited = readout.mCurrentRequest.toList := by
  cases hpc : readout.pc <;> simp [hpc, ReadoutPc.gaveBuffers] at h <;>
    simp [Readout.awaited, hpc]

def ReadoutPc.starting : ReadoutPc → Bool
  | .startJpeg _ _ _ _ => true
  | _ => false

def JpegPc.reporting : JpegPc → Bool
  | .compress => true
  | .notify _ => true
  | _ => false

inductive WaitFails (c : Camera) (res : WaitResult) (r : Request) : Prop where
  | done : c.caller = .waitForDone r true → res ≠ .ok → WaitFails c res r
  | reserve : c.caller = .reserve r → c.jpeg.mIsBusy = true → WaitFails c res r
  | readout {n : Nat} : c.caller = .queueFull r n → res = .failed ∨ n = kMaxWaitLoops →
      WaitFails c res r
  | vsync {n : Nat} : c.caller = .vsyncWait r n →
      ¬ (res ≠ .failed ∧ c.sensor.mGotVSync = true) →
      c.mStatus = .error ∨ n = kMaxSyncTimeoutCount → WaitFails c res r

theorem ReadoutPc.woken_places {pc pc' : ReadoutPc}
    (h : pc' = if pc = .waitRequest then .wokenRequest else pc) :
    (pc' = .waitRequest ∨ pc' = .wokenRequest → pc = .waitRequest ∨ pc = .wokenRequest) ∧
      (pc' = .waitForNewFrame ∨ pc' = .waitFrame → pc = .waitForNewFrame ∨ pc = .waitFrame) := by
  by_cases hw : pc = .waitRequest
  · simp [h, hw]
  · rw [if_neg hw] at h
    simp [h]

theorem WaitFails.places {c : Camera} {res : WaitResult} {r : Request} (h : WaitFails c res r) :
    c.caller.request = some r ∧ c.caller.delivered = none ∧ c.caller.closes = false := by
  cases h with
  | done hpc _ => simp [hpc, CallerPc.request, CallerPc.delivered, CallerPc.closes]
  | reserve hpc _ => simp [hpc, CallerPc.request, CallerPc.delivered, CallerPc.closes]
  | readout hpc _ => simp [hpc, CallerPc.request, CallerPc.delivered, CallerPc.closes]
  | vsync hpc _ _ => simp [hpc, CallerPc.request, CallerPc.delivered, CallerPc.closes]

inductive EnterMove (c : Camera) : Action → Camera → List Event → Prop where
  | rejected {request : Option CaptureRequest} {fake : Fake3A} {o : BufferOutcomes}
      {b : Begun} {status : StatusT} : c.caller = .idle →
      b = beginRequest c.table c.mStatus request fake o → b.result = .error status →
      b.allocated = false → EnterMove c (.processCaptureRequest request fake o)
        { c with mStatus := b.mStatus, table := b.table } [.returned status]
  | lockFailed {request : Option CaptureRequest} {fake : Fake3A} {o : BufferOutcomes}
      {b : Begun} {status : StatusT} : c.caller = .idle →
      b = beginRequest c.table c.mStatus request fake o → b.result = .error status →
      b.allocated = true → EnterMove c (.processCaptureRequest request fake o)
        { c with mStatus := b.mStatus, table := b.table, nextBlock := c.nextBlock + 2 }
        [.alloc c.nextBlock, .alloc (c.nextBlock + 1), .delete c.nextBlock,
          .delete (c.nextBlock + 1), .returned status]
  | prepared {request : Option CaptureRequest} {fake : Fake3A} {o : BufferOutcomes}
      {b : Begun} {p : PreparedRequest} {r : Request} {pc : CallerPc} : c.caller = .idle →
      b = beginRequest c.table c.mStatus request fake o → b.result = .ok p →
      r = ⟨p, c.nextBlock + 1, c.nextBlock⟩ →
      pc = (if p.needJpeg = true then .waitForDone r false else .waitForReadout r) →
      EnterMove c (.processCaptureRequest request fake o)
        { c with
          mStatus := b.mStatus, table := b.table, caller := pc, nextBlock := c.nextBlock + 2 }
        [.alloc r.sensorBuffers, .alloc r.buffers]
  | alreadyClosed : c.caller = .idle → c.mStatus = .closed →
      EnterMove c .closeCamera c [.closed .ok]
  | closing : c.caller = .idle → c.mStatus ≠ .closed → EnterMove c .closeCamera
      { c with caller := .shutDown, sensor := { c.sensor with exitPending := true } } []

inductive CallerMove (c : Camera) (res : WaitResult) : Camera → List Event → Prop where
  | failed {r : Request} : WaitFails c res r →
      CallerMove c res { c with caller := .idle } [.returned .noInit]
  | waits {pc : CallerPc} : pc.beforeSync = true → pc.request = c.caller.request →
      pc.pastReserve = c.caller.pastReserve → c.caller.delivered = none →
      CallerMove c res { c with caller := pc } []
  | reserved {r : Request} : c.caller = .reserve r → c.jpeg.mIsBusy = false →
      CallerMove c res
        { c with caller := .waitForReadout r, jpeg := { c.jpeg with mIsBusy := true } } [.reserved]
  | syncStarted {r : Request} {n : Nat} : c.caller = .waitForVSync r n → CallerMove c res
      { c with caller := .vsyncWait r n, sensor := { c.sensor with mGotVSync := false } } []
  | synced {r : Request} {n : Nat} : c.caller = .vsyncWait r n → c.sensor.mGotVSync = true →
      CallerMove c res { c with caller := .setExposureTime r } []
  | exposureSet {r : Request} : c.caller = .setExposureTime r → CallerMove c res
      { c with
        caller := .setFrameDuration r
        sensor := { c.sensor with
          mExposureTime := r.prepared.sensor.exposureTime.toUInt64 } } []
  | durationSet {r : Request} : c.caller = .setFrameDuration r → CallerMove c res
      { c with
        caller := .setSensitivity r
        sensor := { c.sensor with
          mFrameDuration := r.prepared.sensor.frameDuration.toUInt64 } } []
  | sensitivitySet {r : Request} : c.caller = .setSensitivity r → CallerMove c res
      { c with
        caller := .setDestinationBuffers r
        sensor := { c.sensor with mGainFactor := r.prepared.sensor.sensitivity } } []
  | buffersSet {r : Request} : c.caller = .setDestinationBuffers r → CallerMove c res
      { c with
        caller := .setFrameNumber r
        sensor := { c.sensor with mNextBuffers := some r.sensorBuffers } } []
  | frameNumberSet {r : Request} : c.caller = .setFrameNumber r → CallerMove c res
      { c with
        caller := .queueCaptureRequest r
        sensor := { c.sensor with mFrameNumber := r.prepared.frameNumber } } []
  | queued {r : Request} : c.caller = .queueCaptureRequest r → CallerMove c res
      { c with
        caller := .cacheSettings r
        readout := { c.readout with
          mInFlightQueue := c.readout.mInFlightQueue ++ [r]
          pc := if c.readout.pc = .waitRequest then .wokenRequest else c.readout.pc } }
      [.accepted r]
  | cached {r : Request} : c.caller = .cacheSettings r → CallerMove c res
      { c with
        caller := .idle
        table := { c.table with mPrevSettings := r.prepared.settings } } [.returned .ok]
  | shutDownFailed : c.caller = .shutDown → res = .failed →
      CallerMove c res { c with caller := .idle } [.closed .invalidOperation]
  | shutDownDone : c.caller = .shutDown → c.sensor.pc = .exited →
      CallerMove c res { c with caller := .clearSensor } []
  | sensorCleared : c.caller = .clearSensor →
      CallerMove c res { c with caller := .requestExit, mSensor := false } []
  | exitRequested : c.caller = .requestExit → CallerMove c res
      { c with caller := .join, readout := { c.readout with exitPending := true } } []
  | joined : c.caller = .join → c.readout.pc = .exited →
      CallerMove c res { c with caller := .release } []
  | released : c.caller = .release → CallerMove c res
      { c with
        caller := .idle
        table := clearStreams c.table
        readout := { c.readout with mInFlightQueue := [] }
        mStatus := .closed }
      (c.readout.mInFlightQueue.flatMap (fun r => [.delete r.buffers, .delete r.sensorBuffers]) ++
        [.closed .ok])

inductive SensorMove (c : Camera) : Camera → List Event → Prop where
  | exit : c.sensor.pc = .top → c.sensor.exitPending = true →
      SensorMove c { c with sensor := { c.sensor with pc := .exited } } []
  | snapshot : c.sensor.pc = .top → c.sensor.exitPending = false → SensorMove c
      { c with sensor := { c.sensor with
        pc := .readout c.sensor.shot, mNextBuffers := none, mGotVSync := true } } []
  | nothingCaptured {shot : Shot} : c.sensor.pc = .readout shot →
      c.sensor.mNextCapturedBuffers = none →
      SensorMove c { c with sensor := { c.sensor with pc := .capture shot } } []
  | published {shot : Shot} {b : Nat} : c.sensor.pc = .readout shot →
      c.sensor.mNextCapturedBuffers = some b → c.sensor.mCapturedBuffers = none → SensorMove c
      { c with sensor := { c.sensor with pc := .capture shot, mCapturedBuffers := some b } } []
  | blocked {shot : Shot} {b : Nat} : c.sensor.pc = .readout shot →
      c.sensor.mNextCapturedBuffers = some b → c.sensor.mCapturedBuffers ≠ none →
      SensorMove c { c with sensor := { c.sensor with pc := .waitComplete shot b } } []
  | completed {shot : Shot} {b : Nat} : c.sensor.pc = .complete shot b → SensorMove c
      { c with sensor := { c.sensor with pc := .capture shot, mCapturedBuffers := some b } } []
  | idleFrame {shot : Shot} : c.sensor.pc = .capture shot → shot.buffers = none → SensorMove c
      { c with sensor := { c.sensor with pc := .top, mNextCapturedBuffers := none } } []
  | captured {shot : Shot} {b : Nat} : c.sensor.pc = .capture shot → shot.buffers = some b →
      SensorMove c { c with sensor := { c.sensor with pc := .top, mNextCapturedBuffers := some b } }
        [.shutter shot.frameNumber,
          .capture b shot.exposureTime shot.frameDuration shot.gain]

inductive ReadoutMove (c : Camera) (res : WaitResult) : Camera → List Event → Prop where
  | exit : c.readout.pc = .top → c.readout.exitPending = true →
      ReadoutMove c res { c with readout := { c.readout with pc := .exited } } []
  | resume {r : Request} : c.readout.pc = .top → c.readout.exitPending = false →
      c.readout.mCurrentRequest = some r →
      ReadoutMove c res { c with readout := { c.readout with pc := .waitForNewFrame } } []
  | waits : c.readout.pc = .top → c.readout.exitPending = false →
      c.readout.mCurrentRequest = none → c.readout.mInFlightQueue = [] →
      ReadoutMove c res { c with readout := { c.readout with pc := .waitRequest } } []
  | takes {r : Request} {rest : List Request} :
      c.readout.pc = .top ∧ c.readout.exitPending = false ∧ c.readout.mCurrentRequest = none ∨
        c.readout.pc = .wokenRequest →
      c.readout.mInFlightQueue = r :: rest → ReadoutMove c res
      { c with readout := { c.readout with
        pc := .waitForNewFrame
        mInFlightQueue := rest
        mThreadActive := true
        mCurrentRequest := some r
        sensorBuffers := some r.sensorBuffers } } []
  | waitTimedOut : c.readout.pc = .waitRequest →
      ReadoutMove c res { c with readout := { c.readout with pc := .top } } []
  | waitFailed : c.readout.pc = .waitRequest → res = .failed →
      ReadoutMove c res { c with readout := { c.readout with pc := .exited } } []
  | sensorMissing : c.readout.pc = .waitForNewFrame → c.mSensor = false →
      ReadoutMove c res { c with readout := { c.readout with pc := .crashed } } [.sensorCall false]
  | noFrame : c.readout.pc = .waitForNewFrame → c.mSensor = true →
      c.sensor.mCapturedBuffers = none →
      ReadoutMove c res { c with readout := { c.readout with pc := .waitFrame } } [.sensorCall true]
  | frame {b : Nat} {es : List Event} :
      c.readout.pc = .waitForNewFrame ∧ c.mSensor = true ∧ es = [.sensorCall true] ∨
        c.readout.pc = .waitFrame ∧ es = [] →
      c.sensor.mCapturedBuffers = some b →
      ReadoutMove c res (takeFrame c b).1 (es ++ (takeFrame c b).2)
  | frameTimedOut : c.readout.pc = .waitFrame →
      ReadoutMove c res { c with readout := { c.readout with pc := .top } } []
  | jpegRefused {done rest : List HalBuffer} {b : HalBuffer} {needJpeg : Bool} :
      c.readout.pc = .buffers done (b :: rest) needJpeg → isJpeg c.table.streams b = true →
      c.readout.mJpegWaiting = true ∨ c.jpeg.mIsBusy = false → ReadoutMove c res
      { c with readout := { c.readout with
        pc := .buffers (done ++ [finished b .error]) rest needJpeg } } []
  | jpegOffered {done rest : List HalBuffer} {b : HalBuffer} {needJpeg : Bool} :
      c.readout.pc = .buffers done (b :: rest) needJpeg → isJpeg c.table.streams b = true →
      c.readout.mJpegWaiting = false → c.jpeg.mIsBusy = true → ReadoutMove c res
      { c with
        readout := { c.readout with pc := .startJpeg done b rest needJpeg }
        jpeg := { c.jpeg with mBuffers := c.readout.sensorBuffers } } []
  | bufferDone {done rest : List HalBuffer} {b : HalBuffer} {needJpeg : Bool} :
      c.readout.pc = .buffers done (b :: rest) needJpeg → isJpeg c.table.streams b = false →
      ReadoutMove c res
      { c with readout := { c.readout with
        pc := .buffers (done ++ [finished b .ok]) rest needJpeg } } []
  | jpegStarted {done rest : List HalBuffer} {b : HalBuffer} {needJpeg : Bool} :
      c.readout.pc = .startJpeg done b rest needJpeg → res = .ok → c.jpeg.pc = .idle →
      ReadoutMove c res
      { c with
        readout := { c.readout with
          pc := .buffers done rest true
          mJpegHalBuffer := b
          mJpegFrameNumber := (c.readout.mCurrentRequest.map (·.prepared.frameNumber)).getD 0
          mJpegWaiting := true
          sensorBuffers := none }
        jpeg := { c.jpeg with pc := .compress } } []
  | jpegStartFailed {done rest : List HalBuffer} {b : HalBuffer} {needJpeg : Bool} :
      c.readout.pc = .startJpeg done b rest needJpeg → res ≠ .ok → ReadoutMove c res
      { c with readout := { c.readout with
        pc := .buffers (done ++ [finished b .error]) rest needJpeg } }
      (c.jpeg.mBuffers.map Event.delete).toList
  | wentIdle {done : List HalBuffer} {needJpeg : Bool} :
      c.readout.pc = .buffers done [] needJpeg → c.readout.mInFlightQueue = [] → ReadoutMove c res
      { c with readout := { c.readout with
        pc := .signalIdle done needJpeg, mThreadActive := false } } []
  | moreQueued {done : List HalBuffer} {needJpeg : Bool} :
      c.readout.pc = .buffers done [] needJpeg → c.readout.mInFlightQueue ≠ [] →
      ReadoutMove c res { c with readout := { c.readout with pc := .send done needJpeg } } []
  | idleSignalled {done : List HalBuffer} {needJpeg : Bool} :
      c.readout.pc = .signalIdle done needJpeg → c.caller.holdsLock = false → ReadoutMove c res
      { c with
        readout := { c.readout with pc := .send done needJpeg }
        mStatus := signalReadoutIdle c } []
  | sent {done : List HalBuffer} {needJpeg : Bool} {r : Request} :
      c.readout.pc = .send done needJpeg → c.readout.mCurrentRequest = some r → ReadoutMove c res
      { c with readout := { c.readout with
        pc := .top
        mCurrentRequest := none
        sensorBuffers := if needJpeg = true then c.readout.sensorBuffers else none } }
      ([.captureResult r.prepared.frameNumber done, .delete r.buffers] ++
        if needJpeg = true then [] else (c.readout.sensorBuffers.map Event.delete).toList)

inductive JpegMove (c : Camera) : Camera → List Event → Prop where
  | compressed {success : Bool} : c.jpeg.pc = .compress → c.jpeg.mBuffers ≠ none →
      JpegMove c { c with jpeg := { c.jpeg with pc := .notify success } } []
  | notified {success : Bool} {b : HalBuffer} : c.jpeg.pc = .notify success →
      (∀ done buf rest needJpeg, c.readout.pc ≠ .startJpeg done buf rest needJpeg) →
      b = finished c.readout.mJpegHalBuffer (if success = true then .ok else .error) →
      JpegMove c
        { c with
          jpeg := { c.jpeg with pc := .cleanUp }
          readout := { c.readout with mJpegWaiting := false, mJpegHalBuffer := b } }
        [.captureResult c.readout.mJpegFrameNumber [b]]
  | cleaned : c.jpeg.pc = .cleanUp → JpegMove c
      { c with jpeg := { c.jpeg with pc := .exiting, mBuffers := none, mIsBusy := false } }
      ((c.jpeg.mBuffers.map Event.delete).toList ++ [.cleanedUp])
  | exited : c.jpeg.pc = .exiting →
      JpegMove c { c with jpeg := { c.jpeg with pc := .idle } } []

theorem enterRequest_moves {c c' : Camera} {request : Option CaptureRequest} {fake : Fake3A}
    {o : BufferOutcomes} {es : List Event} (h : enterRequest c request fake o = some (c', es)) :
    EnterMove c (.processCaptureRequest request fake o) c' es := by
  simp only [enterRequest] at h
  split at h
  · rename_i hidle
    split at h
    · rename_i status hres
      split at h
      · rename_i halloc
        cases h
        exact .lockFailed hidle rfl hres halloc
      · rename_i halloc
        cases h
        exact .rejected hidle rfl hres (by simpa using halloc)
    · rename_i p hres
      cases h
      exact .prepared hidle rfl hres rfl rfl
  · simp at h

theorem enterClose_moves {c c' : Camera} {es : List Event} (h : enterClose c = some (c', es)) :
    EnterMove c .closeCamera c' es := by
  simp only [enterClose] at h
  split at h
  · rename_i hidle
    split at h
    · rename_i hclosed
      cases h
      exact .alreadyClosed hidle hclosed
    · rename_i hopen
      cases h
      exact .closing hidle hopen
  · simp at h

theorem callerStep_moves {c c' : Camera} {res : WaitResult} {es : List Event}
    (h : callerStep c res = some (c', es)) : CallerMove c res c' es := by
  unfold callerStep at h
  split at h
  case h_1 => simp at h
  case h_2 r waiting hpc =>
    split at h
    · rename_i hfail
      obtain ⟨rfl, hres⟩ := hfail
      cases h
      exact .failed (.done hpc hres)
    · split at h
      · cases h
        exact .waits rfl (by rw [hpc]; rfl) (by rw [hpc]; rfl) (by rw [hpc]; rfl)
      · split at h
        · cases h
          exact .waits rfl (by rw [hpc]; rfl) (by rw [hpc]; rfl) (by rw [hpc]; rfl)
        · simp at h
  case h_3 r hpc =>
    split at h
    · rename_i hbusy
      cases h
      exact .failed (.reserve hpc hbusy)
    · rename_i hbusy
      cases h
      exact .reserved hpc (by simpa using hbusy)
  case h_4 r hpc =>
    split at h <;> cases h <;>
      exact .waits rfl (by rw [hpc]; rfl) (by rw [hpc]; rfl) (by rw [hpc]; rfl)
  case h_5 r n hpc =>
    split at h
    · rename_i hfail
      cases h
      exact .failed (.readout hpc hfail)
    · split at h <;> cases h <;>
        exact .waits rfl (by rw [hpc]; rfl) (by rw [hpc]; rfl) (by rw [hpc]; rfl)
  case h_6 r n hpc =>
    cases h
    exact .syncStarted hpc
  case h_7 r n hpc =>
    split at h
    · rename_i hgot
      cases h
      exact .synced hpc hgot.2
    · rename_i hgot
      split at h
      · simp at h
      · split at h
        · rename_i hfail
          cases h
          exact .failed (.vsync hpc hgot hfail)
        · cases h
          exact .waits rfl (by rw [hpc]; rfl) (by rw [hpc]; rfl) (by rw [hpc]; rfl)
  case h_8 r hpc =>
    cases h
    exact .exposureSet hpc
  case h_9 r hpc =>
    cases h
    exact .durationSet hpc
  case h_10 r hpc =>
    cases h
    exact .sensitivitySet hpc
  case h_11 r hpc =>
    cases h
    exact .buffersSet hpc
  case h_12 r hpc =>
    cases h
    exact .frameNumberSet hpc
  case h_13 r hpc =>
    cases h
    exact .queued hpc
  case h_14 r hpc =>
    cases h
    exact .cached hpc
  case h_15 hpc =>
    split at h
    · rename_i hres
      cases h
      exact .shutDownFailed hpc hres
    · split at h
      · rename_i hexited
        cases h
        exact .shutDownDone hpc hexited
      · simp at h
  case h_16 hpc =>
    cases h
    exact .sensorCleared hpc
  case h_17 hpc =>
    cases h
    exact .exitRequested hpc
  case h_18 hpc =>
    split at h
    · rename_i hexited
      cases h
      exact .joined hpc hexited
    · simp at h
  case h_19 hpc =>
    cases h
    exact .released hpc

theorem sensorStep_moves {c c' : Camera} {es : List Event} (h : sensorStep c = some (c', es)) :
    SensorMove c c' es := by
  unfold sensorStep at h
  split at h
  case h_1 hpc =>
    split at h
    · rename_i hexit
      cases h
      exact .exit hpc hexit
    · rename_i hexit
      cases h
      exact .snapshot hpc (by simpa using hexit)
  case h_2 shot hpc =>
    split at h
    · rename_i hnext
      cases h
      exact .nothingCaptured hpc hnext
    · rename_i b hnext
      split at h
      · rename_i hfree
        cases h
        exact .published hpc hnext hfree
      · rename_i hfull
        cases h
        exact .blocked hpc hnext hfull
  case h_3 => simp at h
  case h_4 shot b hpc =>
    cases h
    exact .completed hpc
  case h_5 shot hpc =>
    cases hb : shot.buffers with
    | none =>
      simp only [hb] at h
      cases h
      exact .idleFrame hpc hb
    | some b =>
      simp only [hb] at h
      cases h
      exact .captured hpc hb
  case h_6 => simp at h

theorem takeRequest_moves {c c' : Camera} {res : WaitResult} {es : List Event}
    (hpc : c.readout.pc = .top ∧ c.readout.exitPending = false ∧
      c.readout.mCurrentRequest = none ∨ c.readout.pc = .wokenRequest)
    (h : takeRequest c = some (c', es)) : ReadoutMove c res c' es := by
  unfold takeRequest at h
  split at h
  · simp at h
  · rename_i r rest hqueue
    cases h
    exact .takes hpc hqueue

theorem readoutStep_moves {c c' : Camera} {res : WaitResult} {es : List Event}
    (h : readoutStep c res = some (c', es)) : ReadoutMove c res c' es := by
  unfold readoutStep at h
  split at h
  case h_1 hpc =>
    split at h
    · rename_i hexit
      cases h
      exact .exit hpc hexit
    · rename_i hexit
      have hexit : c.readout.exitPending = false := by simpa using hexit
      split at h
      · rename_i r hcur
        cases h
        exact .resume hpc hexit hcur
      · rename_i hcur
        split at h
        · rename_i hqueue
          cases h
          exact .waits hpc hexit hcur hqueue
        · exact takeRequest_moves (.inl ⟨hpc, hexit, hcur⟩) h
  case h_2 hpc =>
    split at h
    · simp at h
    · cases h
      exact .waitTimedOut hpc
    · cases h
      exact .waitFailed hpc rfl
  case h_3 hpc => exact takeRequest_moves (.inr hpc) h
  case h_4 hpc =>
    split at h
    · rename_i hsensor
      split at h
      · rename_i b hframe
        cases h
        exact .frame (.inl ⟨hpc, hsensor, rfl⟩) hframe
      · rename_i hframe
        cases h
        exact .noFrame hpc hsensor hframe
    · rename_i hsensor
      cases h
      exact .sensorMissing hpc (by simpa using hsensor)
  case h_5 hpc =>
    split at h
    · rename_i b hframe
      have hmove : ReadoutMove c .ok _ ([] ++ (takeFrame c b).2) :=
        .frame (.inr ⟨hpc, rfl⟩) hframe
      cases h
      exact hmove
    · cases h
      exact .frameTimedOut hpc
  case h_6 done b rest needJpeg hpc =>
    split at h
    · rename_i hjpeg
      split at h
      · rename_i hrefused
        cases h
        exact .jpegRefused hpc hjpeg hrefused
      · rename_i hoffered
        rw [not_or] at hoffered
        cases h
        exact .jpegOffered hpc hjpeg (by simpa using hoffered.1) (by simpa using hoffered.2)
    · rename_i hjpeg
      cases h
      exact .bufferDone hpc (by simpa using hjpeg)
  case h_7 done b rest needJpeg hpc =>
    split at h
    · rename_i hres
      split at h
      · rename_i hidle
        cases h
        exact .jpegStarted hpc hres hidle
      · simp at h
    · rename_i hres
      cases h
      exact .jpegStartFailed hpc hres
  case h_8 done needJpeg hpc =>
    split at h
    · rename_i hqueue
      cases h
      exact .wentIdle hpc hqueue
    · rename_i hqueue
      cases h
      exact .moreQueued hpc hqueue
  case h_9 done needJpeg hpc =>
    split at h
    · simp at h
    · rename_i hlock
      cases h
      exact .idleSignalled hpc (by simpa using hlock)
  case h_10 done needJpeg hpc =>
    split at h
    · simp at h
    · rename_i r hcur
      cases h
      exact .sent hpc hcur
  case h_11 => simp at h
  case h_12 => simp at h

theorem jpegStep_moves {c c' : Camera} {success : Bool} {es : List Event}
    (h : jpegStep c success = some (c', es)) : JpegMove c c' es := by
  unfold jpegStep at h
  split at h
  case h_1 => simp at h
  case h_2 hpc =>
    split at h
    · simp at h
    · rename_i hbuffers
      cases h
      exact .compressed hpc hbuffers
  case h_3 ok hpc =>
    split at h
    · simp at h
    · rename_i hreadout
      cases h
      exact .notified hpc (fun done buf rest needJpeg => hreadout done buf rest needJpeg) rfl
  case h_4 hpc =>
    cases h
    exact .cleaned hpc
  case h_5 hpc =>
    cases h
    exact .exited hpc

theorem cameraStep_moves {c c' : Camera} {action : Action} {es : List Event}
    (h : cameraStep c action = some (c', es)) :
    EnterMove c action c' es ∨ (∃ res, action = .caller res ∧ CallerMove c res c' es) ∨
      action = .sensor ∧ SensorMove c c' es ∨
      (∃ res, action = .readout res ∧ ReadoutMove c res c' es) ∨ JpegMove c c' es := by
  cases action with
  | processCaptureRequest request fake o => exact .inl (enterRequest_moves h)
  | closeCamera => exact .inl (enterClose_moves h)
  | caller res => exact .inr (.inl ⟨res, rfl, callerStep_moves h⟩)
  | sensor => exact .inr (.inr (.inl ⟨rfl, sensorStep_moves h⟩))
  | readout res => exact .inr (.inr (.inr (.inl ⟨res, rfl, readoutStep_moves h⟩)))
  | jpeg success => exact .inr (.inr (.inr (.inr (jpegStep_moves h))))

structure Readout.Holds (readout : Readout) : Prop where
  unheld : readout.pc = .waitRequest ∨ readout.pc = .wokenRequest → readout.mCurrentRequest = none
  holding : readout.pc = .waitForNewFrame ∨ readout.pc = .waitFrame →
    readout.mCurrentRequest ≠ none

theorem Readout.Holds.atRest {c : Camera} (h : AtRest c) : c.readout.Holds := by
  constructor
  · simp [h.readout]
  · simp [h.readout]

section Holds
variable {c c' : Camera} {es : List Event}

theorem Readout.Holds.callerMove (holds : c.readout.Holds) {res : WaitResult}
    (h : CallerMove c res c' es) : c'.readout.Holds := by
  cases h with
  | queued hpc =>
    exact ⟨fun h => holds.unheld ((ReadoutPc.woken_places rfl).1 h),
      fun h => holds.holding ((ReadoutPc.woken_places rfl).2 h)⟩
  | _ => exact { holds with }

theorem Readout.Holds.readoutMove (holds : c.readout.Holds) {res : WaitResult}
    (h : ReadoutMove c res c' es) : c'.readout.Holds := by
  cases h with
  | resume hpc hexit hcur => exact ⟨by simp, by simp [hcur]⟩
  | waits hpc hexit hcur hqueue => exact ⟨by simp [hcur], by simp⟩
  | noFrame hpc hsensor hframe => exact ⟨by simp, fun _ => holds.holding (.inl hpc)⟩
  | frame hplace hframe => exact ⟨by simp [takeFrame], by simp [takeFrame]⟩
  | _ => exact ⟨by simp, by simp⟩

theorem Readout.Holds.jpegMove (holds : c.readout.Holds) (h : JpegMove c c' es) :
    c'.readout.Holds := by
  cases h <;> exact { holds with }

end Holds
end Rpi3Device.Camera3
