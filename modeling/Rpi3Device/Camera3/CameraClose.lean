import Mathlib.Tactic
import Rpi3Device.Camera3.PipelineSteps

/-!
# Closing the camera

Every output buffer of an accepted request is on its way back to the framework: in
the queue, with the readout thread or with the compressor. `closeCamera` stops the
sensor, clears the pointer to it, and only then asks the readout thread to exit.
What is still waiting for its frame at that moment is not returned, and a readout
thread that has a request goes through the cleared pointer. The compressor is not
waited for at all.
-/

namespace Rpi3Device.Camera3
open TransitionSystem

abbrev BufferId := UInt32 × Nat × Option Nat

def bufferId (frameNumber : UInt32) (b : HalBuffer) : BufferId := (frameNumber, b.stream, b.buffer)

@[simp] theorem bufferId_finished (frameNumber : UInt32) (b : HalBuffer) (status : BufferStatus) :
    bufferId frameNumber (finished b status) = bufferId frameNumber b := rfl

def Request.bufferIds (r : Request) : List BufferId :=
  r.prepared.buffers.map (bufferId r.prepared.frameNumber)

def acceptedBuffers (tr : List Event) : Multiset BufferId :=
  tr.flatMap fun
    | .accepted r => r.bufferIds
    | _ => []

def returnedBuffers (tr : List Event) : Multiset BufferId :=
  tr.flatMap fun
    | .captureResult frameNumber buffers => buffers.map (bufferId frameNumber)
    | _ => []

@[simp] theorem acceptedBuffers_append (tr es : List Event) :
    acceptedBuffers (tr ++ es) = acceptedBuffers tr + acceptedBuffers es := by
  simp [acceptedBuffers]

@[simp] theorem returnedBuffers_append (tr es : List Event) :
    returnedBuffers (tr ++ es) = returnedBuffers tr + returnedBuffers es := by
  simp [returnedBuffers]

def Readout.frameNumber (readout : Readout) : UInt32 :=
  (readout.mCurrentRequest.map (·.prepared.frameNumber)).getD 0

def Readout.toReturn (readout : Readout) : List BufferId :=
  match readout.pc with
  | .buffers done rest _ => (done ++ rest).map (bufferId readout.frameNumber)
  | .startJpeg done b rest _ => (done ++ b :: rest).map (bufferId readout.frameNumber)
  | .signalIdle done _ => done.map (bufferId readout.frameNumber)
  | .send done _ => done.map (bufferId readout.frameNumber)
  | _ => readout.awaited.flatMap Request.bufferIds

def Readout.jpegToReturn (readout : Readout) : List BufferId :=
  if readout.mJpegWaiting = true then [bufferId readout.mJpegFrameNumber readout.mJpegHalBuffer]
  else []

def outstanding (readout : Readout) : Multiset BufferId :=
  (readout.mInFlightQueue.flatMap Request.bufferIds : List BufferId) + readout.toReturn +
    readout.jpegToReturn

structure ReportInv (c : Camera) : Prop where
  holds : c.readout.Holds
  waiting : c.readout.mJpegWaiting = c.jpeg.pc.reporting
  starting : c.readout.pc.starting = true → c.readout.mJpegWaiting = false

def Returns (c c' : Camera) (es : List Event) : Prop :=
  returnedBuffers es + outstanding c'.readout = outstanding c.readout + acceptedBuffers es

section Moves
variable {c c' : Camera} {es : List Event}

theorem Returns.returned {ids : Multiset BufferId} (hret : returnedBuffers es = ids)
    (hacc : acceptedBuffers es = 0)
    (hout : ids + outstanding c'.readout = outstanding c.readout) : Returns c c' es := by
  rw [Returns, hret, hacc, hout, add_zero]

theorem Returns.quiet (hout : outstanding c'.readout = outstanding c.readout)
    (hret : returnedBuffers es = 0) (hacc : acceptedBuffers es = 0) : Returns c c' es :=
  .returned hret hacc (by rw [hout, zero_add])

theorem EnterMove.returns {action : Action} (h : EnterMove c action c' es) : Returns c c' es := by
  cases h <;> exact .quiet rfl rfl rfl

theorem SensorMove.returns (h : SensorMove c c' es) : Returns c c' es := by
  cases h <;> exact .quiet rfl rfl rfl

theorem outstanding_congr {readout readout' : Readout}
    (hqueue : readout'.mInFlightQueue = readout.mInFlightQueue)
    (hto : readout'.toReturn = readout.toReturn)
    (hjpeg : readout'.jpegToReturn = readout.jpegToReturn) :
    outstanding readout' = outstanding readout := by
  rw [outstanding, outstanding, hqueue, hto, hjpeg]

theorem outstanding_queued {readout readout' : Readout} {r : Request}
    (hqueue : readout'.mInFlightQueue = readout.mInFlightQueue ++ [r])
    (hpc : readout'.pc = if readout.pc = .waitRequest then .wokenRequest else readout.pc)
    (hcur : readout'.mCurrentRequest = readout.mCurrentRequest)
    (hjpeg : readout'.jpegToReturn = readout.jpegToReturn) :
    outstanding readout' = outstanding readout + r.bufferIds := by
  have hto : readout'.toReturn = readout.toReturn := by
    by_cases hw : readout.pc = .waitRequest
    · simp [Readout.toReturn, Readout.awaited, hpc, hcur, hw]
    · simp [Readout.toReturn, Readout.awaited, Readout.frameNumber, hpc, hcur, hw]
  simp only [outstanding, hqueue, hto, hjpeg, List.flatMap_append, List.flatMap_singleton,
    ← Multiset.coe_add]
  abel

theorem Returns.queued {r : Request}
    (hout : outstanding c'.readout = outstanding c.readout + r.bufferIds) :
    Returns c c' [.accepted r] := by
  rw [Returns, hout]
  simp [acceptedBuffers, returnedBuffers]

theorem CallerMove.returns {res : WaitResult}
    (hdrained : c.caller = .release → c.readout.mInFlightQueue = [])
    (h : CallerMove c res c' es) : Returns c c' es := by
  cases h with
  | queued hpc => exact .queued (outstanding_queued rfl rfl rfl rfl)
  | released hpc =>
    have hempty := hdrained hpc
    refine .quiet (outstanding_congr hempty.symm rfl rfl) ?_ ?_
    · simp [hempty, returnedBuffers]
    · simp [hempty, acceptedBuffers]
  | _ => exact .quiet rfl rfl rfl

theorem Readout.toReturn_of_gaveBuffers_none {readout : Readout}
    (h : readout.pc.gaveBuffers = none) :
    readout.toReturn = readout.mCurrentRequest.toList.flatMap Request.bufferIds := by
  rw [← Readout.awaited_of_gaveBuffers_none h]
  cases hpc : readout.pc <;> simp [hpc, ReadoutPc.gaveBuffers] at h <;>
    simp [Readout.toReturn, hpc]

theorem outstanding_setPlace {readout : Readout} {pc : ReadoutPc}
    (h : readout.pc.gaveBuffers = none) (h' : pc.gaveBuffers = none) :
    outstanding { readout with pc := pc } = outstanding readout := by
  refine outstanding_congr rfl ?_ rfl
  rw [Readout.toReturn_of_gaveBuffers_none h, Readout.toReturn_of_gaveBuffers_none h']

theorem outstanding_takes {readout readout' : Readout} {r : Request} {rest : List Request}
    (hpc : readout.pc.gaveBuffers = none) (hcur : readout.mCurrentRequest = none)
    (hqueue : readout.mInFlightQueue = r :: rest) (hpc' : readout'.pc.gaveBuffers = none)
    (hcur' : readout'.mCurrentRequest = some r) (hqueue' : readout'.mInFlightQueue = rest)
    (hjpeg : readout'.jpegToReturn = readout.jpegToReturn) :
    outstanding readout' = outstanding readout := by
  rw [outstanding, outstanding, Readout.toReturn_of_gaveBuffers_none hpc,
    Readout.toReturn_of_gaveBuffers_none hpc', hcur, hcur', hqueue, hqueue', hjpeg]
  simp only [Option.toList_some, Option.toList_none, List.flatMap_cons, List.flatMap_nil,
    List.append_nil, ← Multiset.coe_add, Multiset.coe_nil]
  abel

theorem outstanding_jpegStarted {readout readout' : Readout} {done rest : List HalBuffer}
    {b : HalBuffer} {needJpeg needJpeg' : Bool}
    (hpc : readout.pc = .startJpeg done b rest needJpeg)
    (hpc' : readout'.pc = .buffers done rest needJpeg')
    (hcur : readout'.mCurrentRequest = readout.mCurrentRequest)
    (hqueue : readout'.mInFlightQueue = readout.mInFlightQueue)
    (hwaiting : readout.mJpegWaiting = false) (hwaiting' : readout'.mJpegWaiting = true)
    (hbuffer : readout'.mJpegHalBuffer = b)
    (hnumber : readout'.mJpegFrameNumber = readout.frameNumber) :
    outstanding readout' = outstanding readout := by
  have hframe : readout'.frameNumber = readout.frameNumber := by
    rw [Readout.frameNumber, hcur, Readout.frameNumber]
  simp only [outstanding, Readout.toReturn, Readout.jpegToReturn, hpc, hpc', hqueue, hframe,
    hwaiting, hwaiting', hbuffer, hnumber, ↓reduceIte, Bool.false_eq_true, List.map_append,
    List.map_cons, ← Multiset.coe_add, ← Multiset.cons_coe, Multiset.coe_nil,
    Multiset.cons_zero]
  rw [← Multiset.singleton_add]
  abel

theorem outstanding_takeFrame (inv : ReportInv c) {b : Nat}
    (hpc : c.readout.pc = .waitForNewFrame ∨ c.readout.pc = .waitFrame) :
    outstanding (takeFrame c b).1.readout = outstanding c.readout := by
  obtain ⟨r, hcur⟩ := Option.ne_none_iff_exists'.mp (inv.holds.holding hpc)
  have hgave : c.readout.pc.gaveBuffers = none := by rcases hpc with hpc | hpc <;> rw [hpc] <;> rfl
  refine outstanding_congr rfl ?_ rfl
  rw [Readout.toReturn_of_gaveBuffers_none hgave, hcur]
  simp [takeFrame, Readout.toReturn, Readout.frameNumber, hcur, Request.bufferIds]

theorem outstanding_sent {readout readout' : Readout} {done : List HalBuffer} {needJpeg : Bool}
    {r : Request} (hpc : readout.pc = .send done needJpeg)
    (hcur : readout.mCurrentRequest = some r) (hpc' : readout'.pc = .top)
    (hcur' : readout'.mCurrentRequest = none)
    (hqueue : readout'.mInFlightQueue = readout.mInFlightQueue)
    (hjpeg : readout'.jpegToReturn = readout.jpegToReturn) :
    (done.map (bufferId r.prepared.frameNumber) : List BufferId) + outstanding readout' =
      outstanding readout := by
  have hempty : readout'.toReturn = [] := by
    simp [Readout.toReturn, Readout.awaited, hpc', hcur']
  have hdone : readout.toReturn = done.map (bufferId r.prepared.frameNumber) := by
    simp [Readout.toReturn, Readout.frameNumber, hpc, hcur]
  rw [outstanding, outstanding, hempty, hdone, hqueue, hjpeg, Multiset.coe_nil]
  abel

theorem ReadoutMove.returns (inv : ReportInv c) {res : WaitResult}
    (h : ReadoutMove c res c' es) : Returns c c' es := by
  cases h with
  | exit hpc hexit => exact .quiet (outstanding_setPlace (by rw [hpc]; rfl) rfl) rfl rfl
  | resume hpc hexit hcur => exact .quiet (outstanding_setPlace (by rw [hpc]; rfl) rfl) rfl rfl
  | waits hpc hexit hcur hqueue =>
    exact .quiet (outstanding_setPlace (by rw [hpc]; rfl) rfl) rfl rfl
  | takes hplace hqueue =>
    have hnone : c.readout.pc.gaveBuffers = none ∧ c.readout.mCurrentRequest = none := by
      rcases hplace with ⟨hpc, -, hcur⟩ | hpc
      · exact ⟨by rw [hpc]; rfl, hcur⟩
      · exact ⟨by rw [hpc]; rfl, inv.holds.unheld (.inr hpc)⟩
    exact .quiet (outstanding_takes hnone.1 hnone.2 hqueue rfl rfl rfl rfl) rfl rfl
  | waitTimedOut hpc => exact .quiet (outstanding_setPlace (by rw [hpc]; rfl) rfl) rfl rfl
  | waitFailed hpc hres => exact .quiet (outstanding_setPlace (by rw [hpc]; rfl) rfl) rfl rfl
  | sensorMissing hpc hsensor =>
    exact .quiet (outstanding_setPlace (by rw [hpc]; rfl) rfl) rfl rfl
  | noFrame hpc hsensor hframe =>
    exact .quiet (outstanding_setPlace (by rw [hpc]; rfl) rfl) rfl rfl
  | frame hplace hframe =>
    refine .quiet (outstanding_takeFrame inv (hplace.imp And.left And.left)) ?_ ?_
    · rcases hplace with ⟨-, -, rfl⟩ | ⟨-, rfl⟩ <;> rfl
    · rcases hplace with ⟨-, -, rfl⟩ | ⟨-, rfl⟩ <;> rfl
  | frameTimedOut hpc => exact .quiet (outstanding_setPlace (by rw [hpc]; rfl) rfl) rfl rfl
  | jpegRefused hpc hjpeg hrefused =>
    exact .quiet (outstanding_congr rfl (by simp [Readout.toReturn, Readout.frameNumber, hpc]) rfl)
      rfl rfl
  | jpegOffered hpc hjpeg hwaiting hbusy =>
    exact .quiet (outstanding_congr rfl (by simp [Readout.toReturn, Readout.frameNumber, hpc]) rfl)
      rfl rfl
  | bufferDone hpc hjpeg =>
    exact .quiet (outstanding_congr rfl (by simp [Readout.toReturn, Readout.frameNumber, hpc]) rfl)
      rfl rfl
  | jpegStarted hpc hres hidle =>
    have hwaiting := inv.starting (by rw [hpc]; rfl)
    exact .quiet (outstanding_jpegStarted hpc rfl rfl rfl hwaiting rfl rfl rfl) rfl rfl
  | jpegStartFailed hpc hres =>
    refine .quiet
      (outstanding_congr rfl (by simp [Readout.toReturn, Readout.frameNumber, hpc]) rfl) ?_ ?_
    · cases c.jpeg.mBuffers <;> rfl
    · cases c.jpeg.mBuffers <;> rfl
  | wentIdle hpc hqueue =>
    exact .quiet (outstanding_congr rfl (by simp [Readout.toReturn, Readout.frameNumber, hpc]) rfl)
      rfl rfl
  | moreQueued hpc hqueue =>
    exact .quiet (outstanding_congr rfl (by simp [Readout.toReturn, Readout.frameNumber, hpc]) rfl)
      rfl rfl
  | idleSignalled hpc hlock =>
    exact .quiet (outstanding_congr rfl (by simp [Readout.toReturn, Readout.frameNumber, hpc]) rfl)
      rfl rfl
  | sent hpc hcur =>
    refine .returned ?_ ?_ (outstanding_sent hpc hcur rfl rfl rfl rfl)
    · split
      · simp [returnedBuffers]
      · cases c.readout.sensorBuffers <;> simp [returnedBuffers]
    · split
      · rfl
      · cases c.readout.sensorBuffers <;> rfl

theorem JpegMove.returns (inv : ReportInv c) (h : JpegMove c c' es) : Returns c c' es := by
  cases h with
  | compressed hpc hbuffers => exact .quiet rfl rfl rfl
  | @notified success b hpc hreadout hb =>
    have hwaiting : c.readout.mJpegWaiting = true := by rw [inv.waiting, hpc]; rfl
    have hids : returnedBuffers [.captureResult c.readout.mJpegFrameNumber [b]] =
        (c.readout.jpegToReturn : Multiset BufferId) := by
      simp [returnedBuffers, Readout.jpegToReturn, hwaiting, hb]
    refine .returned hids rfl ?_
    rw [outstanding, outstanding, add_comm]
    congr 1
    exact add_zero _
  | cleaned hpc =>
    refine .quiet rfl ?_ ?_
    · cases c.jpeg.mBuffers <;> rfl
    · cases c.jpeg.mBuffers <;> rfl
  | exited hpc => exact .quiet rfl rfl rfl

theorem ReportInv.enterMove (inv : ReportInv c) {action : Action}
    (h : EnterMove c action c' es) : ReportInv c' := by
  cases h <;> exact { inv with }

theorem ReportInv.callerMove (inv : ReportInv c) {res : WaitResult}
    (h : CallerMove c res c' es) : ReportInv c' := by
  have hholds := inv.holds.callerMove h
  cases h with
  | queued hpc =>
    refine { inv with holds := hholds, starting := ?_ }
    by_cases hw : c.readout.pc = .waitRequest
    · simp [hw, ReadoutPc.starting]
    · simpa [hw] using inv.starting
  | _ => exact { inv with holds := hholds }

theorem ReportInv.sensorMove (inv : ReportInv c) (h : SensorMove c c' es) : ReportInv c' := by
  cases h <;> exact { inv with }

theorem ReportInv.readoutMove (inv : ReportInv c) {res : WaitResult}
    (h : ReadoutMove c res c' es) : ReportInv c' := by
  have hholds := inv.holds.readoutMove h
  cases h with
  | jpegOffered hpc hjpeg hwaiting hbusy =>
    exact { inv with holds := hholds, starting := fun _ => hwaiting }
  | jpegStarted hpc hres hidle =>
    exact { holds := hholds, waiting := rfl, starting := by simp [ReadoutPc.starting] }
  | frame hplace hframe =>
    exact { inv with holds := hholds, starting := by simp [takeFrame, ReadoutPc.starting] }
  | _ => exact { inv with holds := hholds, starting := by simp [ReadoutPc.starting] }

theorem ReportInv.jpegMove (inv : ReportInv c) (h : JpegMove c c' es) : ReportInv c' := by
  have hholds := inv.holds.jpegMove h
  have hwaiting := inv.waiting
  cases h with
  | notified hpc hreadout hb => exact { holds := hholds, waiting := rfl, starting := fun _ => rfl }
  | compressed hpc hbuffers => exact { inv with waiting := by rw [hwaiting, hpc]; rfl }
  | cleaned hpc => exact { inv with waiting := by rw [hwaiting, hpc]; rfl }
  | exited hpc => exact { inv with waiting := by rw [hwaiting, hpc]; rfl }

end Moves

def CallerPc.cleared : CallerPc → Bool
  | .requestExit => true
  | .join => true
  | .release => true
  | _ => false

def Readout.Drained (readout : Readout) : Prop :=
  readout.mInFlightQueue = [] ∧ readout.awaited = []

structure ShutInv (c : Camera) : Prop where
  exits : c.readout.exitPending = true → c.mSensor = false
  drained : c.mSensor = false → c.readout.Drained
  shut : c.mSensor = false → c.caller.cleared = true ∨ c.caller = .idle ∧ c.mStatus = .closed
  cleared : c.caller.cleared = true → c.mSensor = false
  joined : c.caller = .release → c.readout.pc = .exited
  closed : c.mStatus = .closed → c.caller = .idle

theorem shutInv_atRest {c : Camera} (h : AtRest c) : ShutInv c := by
  constructor
  · simp [h.readoutExit]
  · simp [h.mSensor]
  · simp [h.mSensor]
  · simp [h.caller, CallerPc.cleared]
  · simp [h.caller]
  · simp [h.caller]

/-- `closeCamera` stops the sensor thread, finds the readout thread drained when it clears
`mSensor`, and no compression to be reported when it returns. -/
def ClosesDrained (c : Camera) : Action → Prop
  | .caller res =>
    (c.caller = .shutDown → res ≠ .failed) ∧ (c.caller = .clearSensor → c.readout.Drained) ∧
      (c.caller = .release → c.readout.mJpegWaiting = false)
  | _ => True

instance (readout : Readout) : Decidable readout.Drained := inferInstanceAs (Decidable (_ ∧ _))

instance (c : Camera) (action : Action) : Decidable (ClosesDrained c action) :=
  match action with
  | .processCaptureRequest _ _ _ => .isTrue trivial
  | .closeCamera => .isTrue trivial
  | .caller _ => inferInstanceAs (Decidable (_ ∧ _ ∧ _))
  | .sensor => .isTrue trivial
  | .readout _ => .isTrue trivial
  | .jpeg _ => .isTrue trivial

theorem startRequest_active (t : StreamTable) (r : CaptureRequest) (fake : Fake3A)
    (o : BufferOutcomes) : (startRequest t r fake o).mStatus = .active := by
  simp only [startRequest]
  split
  · split <;> rfl
  · rfl

theorem beginRequest_closed (t : StreamTable) (mStatus : CameraStatus)
    (request : Option CaptureRequest) (fake : Fake3A) (o : BufferOutcomes) :
    ((beginRequest t mStatus request fake o).mStatus = .closed ↔ mStatus = .closed) ∧
      (mStatus = .closed → (beginRequest t mStatus request fake o).allocated = false ∧
        ∀ p, (beginRequest t mStatus request fake o).result ≠ .ok p) := by
  cases request with
  | none => simp [beginRequest]
  | some r =>
    by_cases hvalid : validateRequest t mStatus (some r) = .ok
    · have hopen : mStatus ≠ .closed := by
        intro heq
        obtain rfl := heq
        simp [validateRequest, CameraStatus.takesRequests] at hvalid
      simp [beginRequest, hvalid, startRequest_active, hopen]
    · simp [beginRequest, hvalid]

section Shut
variable {c c' : Camera} {es : List Event}

theorem ShutInv.sensor_on (inv : ShutInv c) (hstatus : c.mStatus ≠ .closed)
    (hcleared : c.caller.cleared = false) :
    c.mSensor = true ∧ c.readout.exitPending = false := by
  have hsensor : c.mSensor = true := by
    by_contra hoff
    rcases inv.shut (by simpa using hoff) with h | h
    · simp [hcleared] at h
    · exact hstatus h.2
  refine ⟨hsensor, ?_⟩
  by_contra hexit
  have hoff := inv.exits (by simpa using hexit)
  simp [hsensor] at hoff

theorem shutInv_of_open (hsensor : c.mSensor = true) (hstatus : c.mStatus ≠ .closed)
    (hexit : c.readout.exitPending = false) (hcleared : c.caller.cleared = false) : ShutInv c := by
  constructor
  · simp [hexit]
  · simp [hsensor]
  · simp [hsensor]
  · simp [hcleared]
  · intro hpc
    simp [hpc, CallerPc.cleared] at hcleared
  · exact fun h => absurd h hstatus

theorem ShutInv.enterMove (inv : ShutInv c) {action : Action} (h : EnterMove c action c' es) :
    ShutInv c' := by
  cases h with
  | @rejected request fake o b status hidle hb hres halloc =>
    have hclosed := (beginRequest_closed c.table c.mStatus request fake o).1
    rw [← hb] at hclosed
    exact { inv with
      shut := fun hoff => (inv.shut hoff).imp_right fun h => ⟨h.1, hclosed.mpr h.2⟩
      closed := fun h => inv.closed (hclosed.mp h) }
  | @lockFailed request fake o b status hidle hb hres halloc =>
    obtain ⟨hclosed, hnone⟩ := beginRequest_closed c.table c.mStatus request fake o
    rw [← hb] at hclosed hnone
    have hstatus : c.mStatus ≠ .closed := fun h => by simp [(hnone h).1] at halloc
    have hpc : c.caller.cleared = false := by rw [hidle]; rfl
    obtain ⟨hsensor, hexit⟩ := inv.sensor_on hstatus hpc
    exact shutInv_of_open hsensor (fun h => hstatus (hclosed.mp h)) hexit hpc
  | @prepared request fake o b p r pc hidle hb hres hr hpc =>
    obtain ⟨hclosed, hnone⟩ := beginRequest_closed c.table c.mStatus request fake o
    rw [← hb] at hclosed hnone
    have hstatus : c.mStatus ≠ .closed := fun h => (hnone h).2 p hres
    obtain ⟨hsensor, hexit⟩ := inv.sensor_on hstatus (by rw [hidle]; rfl)
    refine shutInv_of_open hsensor (fun h => hstatus (hclosed.mp h)) hexit ?_
    rw [hpc]
    split <;> rfl
  | alreadyClosed hidle hclosed => exact inv
  | closing hidle hclosed =>
    obtain ⟨hsensor, hexit⟩ := inv.sensor_on hclosed (by rw [hidle]; rfl)
    exact shutInv_of_open hsensor hclosed hexit rfl

theorem ShutInv.setCaller (inv : ShutInv c) {pc : CallerPc} {sensor : Sensor}
    {readout : Readout} {jpeg : Jpeg} {t : StreamTable} (hidle : c.caller ≠ .idle)
    (hfrom : c.caller.cleared = false) (hto : pc.cleared = false)
    (hexit : readout.exitPending = c.readout.exitPending) :
    ShutInv { c with
      caller := pc, sensor := sensor, readout := readout, jpeg := jpeg, table := t } := by
  have hstatus : c.mStatus ≠ .closed := fun h => hidle (inv.closed h)
  obtain ⟨hsensor, hrunning⟩ := inv.sensor_on hstatus hfrom
  exact shutInv_of_open hsensor hstatus (hexit.trans hrunning) hto

theorem CallerPc.not_cleared_of_request {pc : CallerPc} (h : pc.request ≠ none) :
    pc ≠ .idle ∧ pc.cleared = false := by
  cases pc <;> simp [CallerPc.request] at h <;> simp [CallerPc.cleared]

theorem CallerPc.request_of_beforeSync {pc : CallerPc} (h : pc.beforeSync = true) :
    pc.request ≠ none := by
  cases pc <;> simp [CallerPc.beforeSync] at h <;> simp [CallerPc.request]

theorem ShutInv.released (inv : ShutInv c) (hpc : c.caller = .release)
    (hwaiting : c.readout.mJpegWaiting = false) : outstanding c.readout = 0 := by
  obtain ⟨hqueue, hawaited⟩ := inv.drained (inv.cleared (by rw [hpc]; rfl))
  have hexited := inv.joined hpc
  simp [outstanding, hqueue, Readout.toReturn, hexited, hawaited, Readout.jpegToReturn, hwaiting]

theorem ShutInv.callerMove (inv : ShutInv c) {res : WaitResult}
    (hdrains : c.caller = .clearSensor → c.readout.Drained) (h : CallerMove c res c' es) :
    ShutInv c' := by
  have hopen : ∀ {pc : CallerPc}, c.caller = pc → pc ≠ .idle → pc.cleared = false →
      c.caller ≠ .idle ∧ c.caller.cleared = false := by
    intro _ heq hidle hcleared
    obtain rfl := heq
    exact ⟨hidle, hcleared⟩
  cases h with
  | failed hfail =>
    have hsome : c.caller.request ≠ none := by simp [hfail.places.1]
    obtain ⟨hidle, hcleared⟩ := CallerPc.not_cleared_of_request hsome
    exact inv.setCaller hidle hcleared rfl rfl
  | waits hbefore hreq hreserve hdelivered =>
    have hsome := CallerPc.request_of_beforeSync hbefore
    obtain ⟨hidle, hcleared⟩ := CallerPc.not_cleared_of_request (hreq ▸ hsome)
    exact inv.setCaller hidle hcleared (CallerPc.not_cleared_of_request hsome).2 rfl
  | sensorCleared hpc =>
    have hdrained := hdrains hpc
    have hstatus : c.mStatus ≠ .closed := fun h => absurd (inv.closed h) (by simp [hpc])
    exact {
      exits := fun _ => rfl
      drained := fun _ => hdrained
      shut := fun _ => .inl rfl
      cleared := fun _ => rfl
      joined := by simp
      closed := fun h => absurd h hstatus }
  | exitRequested hpc =>
    have hoff := inv.cleared (by rw [hpc]; rfl)
    have hstatus : c.mStatus ≠ .closed := fun h => absurd (inv.closed h) (by simp [hpc])
    exact {
      exits := fun _ => hoff
      drained := fun _ => inv.drained hoff
      shut := fun _ => .inl rfl
      cleared := fun _ => hoff
      joined := by simp
      closed := fun h => absurd h hstatus }
  | joined hpc hexited =>
    have hoff := inv.cleared (by rw [hpc]; rfl)
    have hstatus : c.mStatus ≠ .closed := fun h => absurd (inv.closed h) (by simp [hpc])
    exact { inv with
      shut := fun _ => .inl rfl
      cleared := fun _ => hoff
      joined := fun _ => hexited
      closed := fun h => absurd h hstatus }
  | released hpc =>
    have hoff := inv.cleared (by rw [hpc]; rfl)
    exact {
      exits := fun _ => hoff
      drained := fun _ => ⟨rfl, (inv.drained hoff).2⟩
      shut := fun _ => .inr ⟨rfl, rfl⟩
      cleared := by simp [CallerPc.cleared]
      joined := by simp
      closed := fun _ => rfl }
  | _ =>
    obtain ⟨hidle, hcleared⟩ := hopen (by assumption) (by simp) rfl
    exact inv.setCaller hidle hcleared rfl rfl

theorem ShutInv.sensorMove (inv : ShutInv c) (h : SensorMove c c' es) : ShutInv c' := by
  cases h <;> exact { inv with }

theorem Readout.Drained.readoutMove (holds : c.readout.Holds) {res : WaitResult}
    (h : ReadoutMove c res c' es) (hdrained : c.readout.Drained) : c'.readout.Drained := by
  obtain ⟨hqueue, hawaited⟩ := hdrained
  have hframe : c.readout.pc = .waitForNewFrame ∨ c.readout.pc = .waitFrame → False := by
    intro hpc
    have hcur := holds.holding hpc
    rcases hpc with hpc | hpc <;> simp [Readout.awaited, hpc] at hawaited <;> exact hcur hawaited
  cases h with
  | exit hpc hexit => exact ⟨hqueue, by simpa [Readout.awaited, hpc] using hawaited⟩
  | resume hpc hexit hcur => simp [Readout.awaited, hpc, hcur] at hawaited
  | waits hpc hexit hcur _ => exact ⟨hqueue, by simp [Readout.awaited, hcur]⟩
  | takes hplace hcons => simp [hqueue] at hcons
  | waitTimedOut hpc => exact ⟨hqueue, by simpa [Readout.awaited, hpc] using hawaited⟩
  | waitFailed hpc hres => exact ⟨hqueue, by simpa [Readout.awaited, hpc] using hawaited⟩
  | sensorMissing hpc hsensor => exact (hframe (.inl hpc)).elim
  | noFrame hpc hsensor _ => exact (hframe (.inl hpc)).elim
  | frame hplace _ => exact (hframe (hplace.imp And.left And.left)).elim
  | frameTimedOut hpc => exact (hframe (.inr hpc)).elim
  | _ => exact ⟨hqueue, rfl⟩

theorem CallerMove.acceptedBuffers_of_release {res : WaitResult} (h : CallerMove c res c' es)
    (hpc : c.caller = .release) (hqueue : c.readout.mInFlightQueue = []) :
    Camera3.acceptedBuffers es = 0 := by
  cases h with
  | queued hpc' => simp [hpc] at hpc'
  | released _ => simp [hqueue, Camera3.acceptedBuffers]
  | _ => rfl

theorem ReadoutMove.acceptedBuffers {res : WaitResult} (h : ReadoutMove c res c' es) :
    acceptedBuffers es = 0 := by
  cases h with
  | frame hplace hframe => rcases hplace with ⟨-, -, rfl⟩ | ⟨-, rfl⟩ <;> rfl
  | jpegStartFailed hpc hres => cases c.jpeg.mBuffers <;> rfl
  | sent hpc hcur =>
    split
    · rfl
    · cases c.readout.sensorBuffers <;> rfl
  | _ => rfl

theorem signalReadoutIdle_closed (c : Camera) :
    signalReadoutIdle c = .closed ↔ c.mStatus = .closed := by
  unfold signalReadoutIdle
  split
  · rename_i h
    simp [h.1]
  · exact Iff.rfl

theorem EnterMove.closed {action : Action} (h : EnterMove c action c' es) :
    (c'.mStatus = .closed ↔ c.mStatus = .closed) ∧ c'.readout = c.readout := by
  cases h with
  | rejected hidle hb hres halloc =>
    subst hb
    exact ⟨(beginRequest_closed _ _ _ _ _).1, rfl⟩
  | lockFailed hidle hb hres halloc =>
    subst hb
    exact ⟨(beginRequest_closed _ _ _ _ _).1, rfl⟩
  | prepared hidle hb hres hr hpc =>
    subst hb
    exact ⟨(beginRequest_closed _ _ _ _ _).1, rfl⟩
  | alreadyClosed hidle hclosed => exact ⟨Iff.rfl, rfl⟩
  | closing hidle hclosed => exact ⟨Iff.rfl, rfl⟩

theorem ShutInv.release_of_closed (inv : ShutInv c) {res : WaitResult}
    (h : CallerMove c res c' es) (hclosed : c'.mStatus = .closed) : c.caller = .release := by
  have hidle : c.mStatus = .closed → c.caller = .idle := inv.closed
  cases h with
  | failed hfail =>
    have hreq := hfail.places.1
    simp [hidle hclosed, CallerPc.request] at hreq
  | waits hbefore hreq hreserve hdelivered =>
    have hsome := CallerPc.request_of_beforeSync hbefore
    rw [hreq, hidle hclosed] at hsome
    exact absurd rfl hsome
  | released hpc => exact hpc
  | _ => simp_all

theorem ReadoutMove.closed {res : WaitResult} (h : ReadoutMove c res c' es) :
    c'.caller = c.caller ∧ c'.mSensor = c.mSensor ∧
      c'.readout.exitPending = c.readout.exitPending ∧ c.readout.pc ≠ .exited ∧
      (c'.mStatus = .closed ↔ c.mStatus = .closed) := by
  cases h with
  | takes hplace hcons =>
    refine ⟨rfl, rfl, rfl, ?_, Iff.rfl⟩
    rcases hplace with ⟨hpc, -, -⟩ | hpc <;> simp [hpc]
  | frame hplace hframe =>
    refine ⟨rfl, rfl, rfl, ?_, Iff.rfl⟩
    rcases hplace with ⟨hpc, -, -⟩ | ⟨hpc, -⟩ <;> simp [hpc]
  | idleSignalled hpc hlock =>
    exact ⟨rfl, rfl, rfl, by simp [hpc], signalReadoutIdle_closed c⟩
  | _ => exact ⟨rfl, rfl, rfl, by simp [*], Iff.rfl⟩

theorem JpegMove.closed (h : JpegMove c c' es) :
    c'.mStatus = c.mStatus ∧ Camera3.acceptedBuffers es = 0 := by
  cases h with
  | cleaned hpc => cases c.jpeg.mBuffers <;> exact ⟨rfl, rfl⟩
  | _ => exact ⟨rfl, rfl⟩

theorem Returns.outstanding_zero (h : Returns c c' es) (hacc : acceptedBuffers es = 0)
    (hzero : outstanding c.readout = 0) : outstanding c'.readout = 0 := by
  rw [Returns, hacc, hzero, add_zero] at h
  exact (add_eq_zero.mp h).2

theorem ShutInv.readoutMove (inv : ShutInv c) (holds : c.readout.Holds) {res : WaitResult}
    (h : ReadoutMove c res c' es) : ShutInv c' := by
  obtain ⟨hcaller, hsensor, hexit, hpc, hclosed⟩ := h.closed
  constructor
  · rw [hsensor, hexit]
    exact inv.exits
  · rw [hsensor]
    exact fun hoff => Readout.Drained.readoutMove holds h (inv.drained hoff)
  · rw [hsensor, hcaller]
    exact fun hoff => (inv.shut hoff).imp_right fun hshut => ⟨hshut.1, hclosed.mpr hshut.2⟩
  · rw [hsensor, hcaller]
    exact inv.cleared
  · rw [hcaller]
    exact fun hrelease => absurd (inv.joined hrelease) hpc
  · rw [hcaller]
    exact fun hstatus => inv.closed (hclosed.mp hstatus)

theorem ShutInv.jpegMove (inv : ShutInv c) (h : JpegMove c c' es) : ShutInv c' := by
  cases h <;> exact { inv with }

end Shut
def Event.plain : Event → Bool
  | .closed _ => false
  | .sensorCall present => present
  | _ => true

/-- What `closeCamera` owes the framework: no call goes through the cleared `mSensor`, and when it
returns, exactly the buffers accepted so far have been returned. -/
structure CloseClean (tr : List Event) : Prop where
  sensor : .sensorCall false ∉ tr
  returned : Justified (fun earlier e => ∀ status, e = .closed status →
    returnedBuffers earlier = acceptedBuffers earlier) tr

theorem closeClean_nil : CloseClean [] := ⟨by simp, justified_nil _⟩

theorem CloseClean.append_plain {tr es : List Event} (h : CloseClean tr)
    (hes : ∀ e ∈ es, e.plain = true) : CloseClean (tr ++ es) := by
  refine ⟨?_, h.returned.append ?_⟩
  · rw [List.mem_append]
    intro hcases
    rcases hcases with hmem | hmem
    · exact h.sensor hmem
    · simpa [Event.plain] using hes _ hmem
  · intro e he pre status heq
    obtain rfl := heq
    simpa [Event.plain] using hes _ he

theorem CloseClean.append_closed {tr : List Event} (h : CloseClean tr) {status : StatusT}
    (hall : returnedBuffers tr = acceptedBuffers tr) : CloseClean (tr ++ [.closed status]) := by
  refine ⟨?_, justified_snoc.mpr ⟨h.returned, fun _ _ => hall⟩⟩
  simpa using h.sensor

section Events
variable {c c' : Camera} {es : List Event}

theorem EnterMove.plain_or_closed {action : Action} (h : EnterMove c action c' es) :
    (∀ e ∈ es, e.plain = true) ∨ c.mStatus = .closed ∧ es = [.closed .ok] := by
  cases h with
  | alreadyClosed hidle hclosed => exact .inr ⟨hclosed, rfl⟩
  | _ => left; simp [Event.plain]

theorem CallerMove.plain_or_closed {res : WaitResult} (hok : ClosesDrained c (.caller res))
    (hdrained : c.caller = .release → c.readout.mInFlightQueue = [])
    (h : CallerMove c res c' es) :
    (∀ e ∈ es, e.plain = true) ∨ c.caller = .release ∧ es = [.closed .ok] := by
  cases h with
  | shutDownFailed hpc hres => exact absurd hres (hok.1 hpc)
  | released hpc => exact .inr ⟨hpc, by simp [hdrained hpc]⟩
  | _ => left; simp [Event.plain]

theorem SensorMove.plain (h : SensorMove c c' es) : ∀ e ∈ es, e.plain = true := by
  cases h <;> simp [Event.plain]

theorem ReadoutMove.plain (holds : c.readout.Holds)
    (hdrained : c.mSensor = false → c.readout.Drained) {res : WaitResult}
    (h : ReadoutMove c res c' es) : ∀ e ∈ es, e.plain = true := by
  cases h with
  | sensorMissing hpc hsensor =>
    have hcur := holds.holding (.inl hpc)
    have hawaited := (hdrained hsensor).2
    simp [Readout.awaited, hpc] at hawaited
    exact absurd hawaited hcur
  | frame hplace hframe =>
    rcases hplace with ⟨-, -, rfl⟩ | ⟨-, rfl⟩ <;> simp [takeFrame, Event.plain]
  | jpegStartFailed hpc hres => cases c.jpeg.mBuffers <;> simp [Event.plain]
  | sent hpc hcur =>
    split
    · simp [Event.plain]
    · cases c.readout.sensorBuffers <;> simp [Event.plain]
  | _ => simp [Event.plain]

theorem JpegMove.plain (h : JpegMove c c' es) : ∀ e ∈ es, e.plain = true := by
  cases h with
  | cleaned hpc => cases c.jpeg.mBuffers <;> simp [Event.plain]
  | _ => simp [Event.plain]

end Events

structure CloseInv (tr : List Event) (c : Camera) : Prop where
  report : ReportInv c
  shut : ShutInv c
  closed : c.mStatus = .closed → outstanding c.readout = 0
  accounted : returnedBuffers tr + outstanding c.readout = acceptedBuffers tr
  clean : CloseClean tr

theorem Returns.accounted {tr es : List Event} {c c' : Camera} (h : Returns c c' es)
    (htr : returnedBuffers tr + outstanding c.readout = acceptedBuffers tr) :
    returnedBuffers (tr ++ es) + outstanding c'.readout = acceptedBuffers (tr ++ es) := by
  rw [returnedBuffers_append, acceptedBuffers_append, add_assoc, h, ← add_assoc, htr]

theorem CloseInv.returned_of_zero {tr : List Event} {c : Camera} (inv : CloseInv tr c)
    (hzero : outstanding c.readout = 0) : returnedBuffers tr = acceptedBuffers tr := by
  rw [← inv.accounted, hzero, add_zero]

theorem CloseInv.step {tr es : List Event} {c c' : Camera} {action : Action}
    (inv : CloseInv tr c) (hok : ClosesDrained c action)
    (h : cameraStep c action = some (c', es)) : CloseInv (tr ++ es) c' := by
  have hrelease : c.caller = .release → c.readout.mInFlightQueue = [] := fun hpc =>
    (inv.shut.drained (inv.shut.cleared (by rw [hpc]; rfl))).1
  rcases cameraStep_moves h with hm | ⟨res, rfl, hm⟩ | ⟨-, hm⟩ | ⟨res, rfl, hm⟩ | hm
  · obtain ⟨hclosed, hreadout⟩ := hm.closed
    refine ⟨inv.report.enterMove hm, inv.shut.enterMove hm, ?_,
      hm.returns.accounted inv.accounted, ?_⟩
    · rw [hreadout]
      exact fun h => inv.closed (hclosed.mp h)
    rcases hm.plain_or_closed with hplain | ⟨hclosed, rfl⟩
    · exact inv.clean.append_plain hplain
    · exact inv.clean.append_closed (inv.returned_of_zero (inv.closed hclosed))
  · refine ⟨inv.report.callerMove hm, inv.shut.callerMove hok.2.1 hm, fun h => ?_,
      (hm.returns hrelease).accounted inv.accounted, ?_⟩
    · have hpc := inv.shut.release_of_closed hm h
      exact (hm.returns hrelease).outstanding_zero
        (hm.acceptedBuffers_of_release hpc (hrelease hpc))
        (inv.shut.released hpc (hok.2.2 hpc))
    rcases hm.plain_or_closed hok hrelease with hplain | ⟨hpc, rfl⟩
    · exact inv.clean.append_plain hplain
    · exact inv.clean.append_closed
        (inv.returned_of_zero (inv.shut.released hpc (hok.2.2 hpc)))
  · refine ⟨inv.report.sensorMove hm, inv.shut.sensorMove hm, ?_,
      hm.returns.accounted inv.accounted, inv.clean.append_plain hm.plain⟩
    cases hm <;> exact inv.closed
  · refine ⟨inv.report.readoutMove hm, inv.shut.readoutMove inv.report.holds hm, fun h => ?_,
      (hm.returns inv.report).accounted inv.accounted,
      inv.clean.append_plain (hm.plain inv.report.holds inv.shut.drained)⟩
    have hzero := inv.closed (hm.closed.2.2.2.2.mp h)
    exact (hm.returns inv.report).outstanding_zero hm.acceptedBuffers hzero
  · refine ⟨inv.report.jpegMove hm, inv.shut.jpegMove hm, fun h => ?_,
      (hm.returns inv.report).accounted inv.accounted, inv.clean.append_plain hm.plain⟩
    obtain ⟨hstatus, hacc⟩ := hm.closed
    exact (hm.returns inv.report).outstanding_zero hacc (inv.closed (hstatus ▸ h))

theorem closeInv_atRest {c : Camera} (h : AtRest c) : CloseInv [] c := by
  have hzero : outstanding c.readout = 0 := by
    simp [outstanding, h.mInFlightQueue, Readout.toReturn, h.readout, Readout.awaited,
      h.mCurrentRequest, Readout.jpegToReturn, h.mJpegWaiting]
  refine ⟨⟨.atRest h, ?_, ?_⟩, shutInv_atRest h, fun _ => hzero, ?_, closeClean_nil⟩
  · simp [h.mJpegWaiting, h.jpeg, JpegPc.reporting]
  · simp [h.mJpegWaiting]
  · rw [hzero]
    rfl

/-- In every run whose closes find the camera drained, no call goes through a cleared `mSensor`
and a close returns when all buffers have been returned. -/
theorem close_clean {c₀ c : Camera} {tr : List Event} (h₀ : AtRest c₀)
    (run : camera.Run ClosesDrained c₀ tr c) : CloseClean tr := by
  have hinv := run.invariant (P := CloseInv) (closeInv_atRest h₀) fun inv hok h => inv.step hok h
  exact hinv.clean

theorem close_clean_afterResult : ∃ tr c, camera.Run ClosesDrained previewCamera tr c ∧
    (.closed .ok ∈ tr ∧ (returnedBuffers tr).card = 2) ∧ CloseClean tr := by
  obtain ⟨tr, c, run, hclosed⟩ := camera.run_of_exec ClosesDrained previewCamera
    (previewRun ++ List.replicate 5 (Action.readout .ok) ++ [Action.closeCamera] ++
      List.replicate 2 Action.sensor ++ List.replicate 3 (Action.caller .ok) ++
      [Action.readout .ok] ++ List.replicate 2 (Action.caller .ok))
    (fun _ tr => .closed .ok ∈ tr ∧ (returnedBuffers tr).card = 2) (by decide +kernel)
  exact ⟨tr, c, run, hclosed, close_clean previewCamera_atRest run⟩

/-- The camera is closed while a request waits in the queue: the readout thread takes the request
and goes through the cleared `mSensor`. -/
theorem close_leaves_readout_without_sensor :
    ¬ ∀ {c₀ c : Camera} {tr : List Event}, AtRest c₀ → camera.Run (fun _ _ => True) c₀ tr c →
      CloseClean tr := by
  intro h
  obtain ⟨tr, c, run, hcall⟩ := camera.run_of_exec (fun _ _ => True) previewCamera
    ([Action.processCaptureRequest (some twoBufferRequest) {} {}] ++
      List.replicate 2 (Action.caller .ok) ++ [Action.sensor] ++
      List.replicate 8 (Action.caller .ok) ++ [Action.closeCamera] ++
      List.replicate 3 Action.sensor ++
      List.replicate 2 (Action.caller .ok) ++ List.replicate 2 (Action.readout .ok))
    (fun _ tr => .sensorCall false ∈ tr) (by decide +kernel)
  exact (h previewCamera_atRest run).sensor hcall

end Rpi3Device.Camera3
