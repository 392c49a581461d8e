import Mathlib.Tactic
import Rpi3Device.Camera3.LockWait

/-!
# The reservation of the JPEG compressor

A call reserves the compressor before it queues a request with a BLOB buffer, the
readout thread starts it for the first JPEG buffer of the request, and the
compressor gives the reservation back in `cleanUp`. There is never more than one
owner of a reservation, as long as the compressor is not started for a list of
buffers it already has. There may be none: a request for a depth cloud reserves a
compressor that nobody starts, the error exits after `reserve` keep the reservation,
and so does a compressor thread that cannot be started.
-/

namespace Rpi3Device.Camera3
open TransitionSystem

def Readout.jpegsToStart (streams : Nat → Stream) (readout : Readout) : Nat :=
  match readout.pc with
  | .buffers _ rest false => if rest.any (isJpeg streams) = true then 1 else 0
  | .startJpeg _ _ _ _ => 1
  | _ => readout.awaited.countP (Request.hasJpeg streams)

def Jpeg.busy (jpeg : Jpeg) : Nat := if jpeg.mIsBusy = true then 1 else 0

def Jpeg.compressions (jpeg : Jpeg) : Nat := if jpeg.pc.running = true then 1 else 0

def owners (c : Camera) : Nat :=
  c.caller.pastReserve.toList.countP (Request.hasJpeg c.table.streams) +
    c.readout.mInFlightQueue.countP (Request.hasJpeg c.table.streams) +
    c.readout.jpegsToStart c.table.streams + c.jpeg.compressions

def Camera.errorExit (c : Camera) (res : WaitResult) : Option Request :=
  match c.caller with
  | .waitForDone r waiting => if waiting = true ∧ res ≠ .ok then some r else none
  | .reserve r => if c.jpeg.mIsBusy = true then some r else none
  | .queueFull r loopCount =>
    if res = .failed ∨ loopCount = kMaxWaitLoops then some r else none
  | .vsyncWait r syncTimeoutCount =>
    if ¬ (res ≠ .failed ∧ c.sensor.mGotVSync = true) ∧
      (c.mStatus = .error ∨ syncTimeoutCount = kMaxSyncTimeoutCount) then some r else none
  | _ => none

theorem WaitFails.errorExit {c : Camera} {res : WaitResult} {r : Request}
    (h : WaitFails c res r) : c.errorExit res = some r := by
  cases h with
  | done hpc hres => simp [Camera.errorExit, hpc, hres]
  | reserve hpc hbusy => simp [Camera.errorExit, hpc, hbusy]
  | readout hpc hfail => simp [Camera.errorExit, hpc, hfail]
  | vsync hpc hnot hfail => simp only [Camera.errorExit, hpc, hnot, hfail]; rfl

def Camera.startsNull (c : Camera) : Bool :=
  match c.readout.pc with
  | .buffers _ (b :: _) _ => isJpeg c.table.streams b && !c.readout.mJpegWaiting &&
      c.jpeg.mIsBusy && c.readout.sensorBuffers.isNone
  | _ => false

structure ReadoutPlace (readout : Readout) : Prop extends readout.Holds where
  loaded : readout.awaited ≠ [] → readout.sensorBuffers ≠ none
  gave : ∀ needJpeg, readout.pc.gaveBuffers = some needJpeg →
    (needJpeg = true ↔ readout.sensorBuffers = none)

structure JpegInv (c : Camera) : Prop where
  place : ReadoutPlace c.readout
  starting : c.readout.pc.starting = true →
    c.readout.sensorBuffers ≠ none ∧ c.jpeg.mBuffers = c.readout.sensorBuffers
  waiting : c.readout.mJpegWaiting = c.jpeg.pc.reporting
  compressing : c.jpeg.pc.running = true → c.jpeg.mBuffers ≠ none
  bound : owners c ≤ c.jpeg.busy

theorem jpegInv_atRest {c : Camera} (h : AtRest c) : JpegInv c := by
  constructor
  · refine ⟨.atRest h, ?_, ?_⟩
    · simp [Readout.awaited, h.readout, h.mCurrentRequest]
    · simp [h.readout, ReadoutPc.gaveBuffers]
  · simp [h.readout, ReadoutPc.starting]
  · simp [h.mJpegWaiting, h.jpeg, JpegPc.reporting]
  · simp [h.jpeg, JpegPc.running]
  · simp [owners, h.caller, CallerPc.pastReserve, h.mInFlightQueue, Readout.jpegsToStart,
      h.readout, Readout.awaited, h.mCurrentRequest, Jpeg.compressions, h.jpeg, JpegPc.running]

def Settled (c c' : Camera) : Prop := owners c' + c.jpeg.busy = owners c + c'.jpeg.busy

theorem isJpeg_dropInfo (t : StreamTable) (p : Nat) :
    isJpeg (dropInfo t p).streams = isJpeg t.streams := by
  funext b
  simp only [isJpeg, dropInfo]
  by_cases h : b.stream = p
  · subst h
    simp
  · simp [Function.update_of_ne h]

theorem isJpeg_clearStreams (t : StreamTable) :
    isJpeg (clearStreams t).streams = isJpeg t.streams := by
  have hfold : ∀ (ps : List Nat) (t : StreamTable),
      isJpeg (ps.foldl dropInfo t).streams = isJpeg t.streams := by
    intro ps
    induction ps with
    | nil => exact fun _ => rfl
    | cons p ps ih => exact fun t => (ih (dropInfo t p)).trans (isJpeg_dropInfo t p)
  exact hfold t.mStreams t

theorem prepared_needJpeg_iff {t : StreamTable} {mStatus : CameraStatus}
    {request : Option CaptureRequest} {fake : Fake3A} {o : BufferOutcomes} {p : PreparedRequest}
    (h : (beginRequest t mStatus request fake o).result = .ok p) :
    p.needJpeg = true ↔ ∃ b ∈ p.buffers, (t.streams b.stream).format = .blob := by
  cases request with
  | none => simp [beginRequest] at h
  | some r =>
    simp only [beginRequest] at h
    split at h
    · simp only [startRequest, takeSettings_streams] at h
      split at h
      · split at h
        · rename_i ops sensorBuffers hlocked
          cases h
          rcases lockOutputBuffers_cases t.streams o 0 r.outputs with
            ⟨-, hall⟩ | ⟨pre, b, post, -, -, -, hfail⟩
          · rw [hall] at hlocked
            cases hlocked
            exact prepared_needJpeg t.streams r.outputs
          · rw [hfail] at hlocked
            cases hlocked
        · cases h
      · cases h
    · cases h

theorem hasJpeg_needJpeg {t : StreamTable} {mStatus : CameraStatus}
    {request : Option CaptureRequest} {fake : Fake3A} {o : BufferOutcomes} {p : PreparedRequest}
    (h : (beginRequest t mStatus request fake o).result = .ok p)
    (hjpeg : p.buffers.any (isJpeg t.streams) = true) : p.needJpeg = true := by
  obtain ⟨b, hb, hblob⟩ := List.any_eq_true.mp hjpeg
  simp only [isJpeg, decide_eq_true_eq] at hblob
  exact (prepared_needJpeg_iff h).mpr ⟨b, hb, hblob.1⟩

section Moves
variable {c c' : Camera} {es : List Event}

theorem JpegInv.settled (inv : JpegInv c) (h : Settled c c')
    (hrest : owners c' ≤ c'.jpeg.busy → JpegInv c') : JpegInv c' ∧ Settled c c' := by
  refine ⟨hrest ?_, h⟩
  have hbound := inv.bound
  unfold Settled at h
  omega

theorem JpegInv.setCaller (inv : JpegInv c) (pc : CallerPc) {t : StreamTable}
    (ht : isJpeg t.streams = isJpeg c.table.streams)
    (hpast : pc.pastReserve.toList.countP (Request.hasJpeg c.table.streams) =
      c.caller.pastReserve.toList.countP (Request.hasJpeg c.table.streams)) :
    JpegInv { c with caller := pc, table := t } ∧
      Settled c { c with caller := pc, table := t } := by
  have howners : owners { c with caller := pc, table := t } = owners c := by
    have hhas : Request.hasJpeg t.streams = Request.hasJpeg c.table.streams := by
      funext r
      simp only [Request.hasJpeg, ht]
    simp only [owners, Readout.jpegsToStart, hhas, ht, hpast]
  exact inv.settled (by rw [Settled, howners]) fun hbound => { inv with bound := hbound }

theorem JpegInv.enterMove (inv : JpegInv c) {action : Action} (h : EnterMove c action c' es) :
    JpegInv c' ∧ Settled c c' := by
  cases h with
  | @rejected _ _ _ b status hidle hb hres halloc =>
    have ht : isJpeg b.table.streams = isJpeg c.table.streams := by rw [hb, beginRequest_streams]
    obtain ⟨hnext, hsettled⟩ := inv.setCaller c.caller ht rfl
    exact ⟨{ hnext with }, hsettled⟩
  | @lockFailed _ _ _ b status hidle hb hres halloc =>
    have ht : isJpeg b.table.streams = isJpeg c.table.streams := by rw [hb, beginRequest_streams]
    obtain ⟨hnext, hsettled⟩ := inv.setCaller c.caller ht rfl
    exact ⟨{ hnext with }, hsettled⟩
  | @prepared _ _ _ b p r pc hidle hb hres hr hpc =>
    have ht : isJpeg b.table.streams = isJpeg c.table.streams := by rw [hb, beginRequest_streams]
    have hpast : pc.pastReserve.toList.countP (Request.hasJpeg c.table.streams) =
        c.caller.pastReserve.toList.countP (Request.hasJpeg c.table.streams) := by
      rw [hpc, hidle]
      split
      · rfl
      · rename_i hneed
        have hno : p.buffers.any (isJpeg c.table.streams) = false := by
          by_contra hjpeg
          exact hneed (hasJpeg_needJpeg (hb ▸ hres) (by simpa using hjpeg))
        simpa [CallerPc.pastReserve, Request.hasJpeg, hr] using hno
    obtain ⟨hnext, hsettled⟩ := inv.setCaller pc ht hpast
    exact ⟨{ hnext with }, hsettled⟩
  | alreadyClosed hidle hclosed => exact ⟨inv, rfl⟩
  | closing hidle hclosed =>
    obtain ⟨hnext, hsettled⟩ := inv.setCaller .shutDown rfl (by rw [hidle]; rfl)
    exact ⟨{ hnext with }, hsettled⟩

structure CallKeeps (c : Camera) (res : WaitResult) : Prop where
  exit : ∀ r ∈ c.errorExit res, c.caller.pastReserve = none ∨ r.hasJpeg c.table.streams = false
  reserving : ∀ r, c.caller = .reserve r → r.hasJpeg c.table.streams = true
  serving : c.caller.closes = false

theorem CallerPc.pastReserve_sublist (pc : CallerPc) :
    pc.pastReserve.toList.Sublist pc.request.toList := by
  cases pc <;> simp [CallerPc.pastReserve, CallerPc.request]

theorem JpegInv.failed (inv : JpegInv c) {res : WaitResult} {r : Request}
    (h : WaitFails c res r) : JpegInv { c with caller := .idle } ∧
      (CallKeeps c res → Settled c { c with caller := .idle }) := by
  refine ⟨{ inv with bound := ?_ }, fun hkeeps => ?_⟩
  · have hbound := inv.bound
    simp only [owners, CallerPc.pastReserve, Option.toList_none, List.countP_nil] at hbound ⊢
    exact Nat.le_trans (by omega) hbound
  · have hnone : c.caller.pastReserve.toList.countP (Request.hasJpeg c.table.streams) = 0 := by
      rcases hkeeps.exit r h.errorExit with hpast | hjpeg
      · rw [hpast]
        rfl
      · have hsub := c.caller.pastReserve_sublist.countP_le (p := Request.hasJpeg c.table.streams)
        rw [h.places.1, Option.toList_some, List.countP_singleton, hjpeg] at hsub
        exact Nat.le_zero.mp hsub
    rw [Settled, owners, owners, hnone]
    rfl

theorem JpegInv.reserved (inv : JpegInv c) {r : Request} (hpc : c.caller = .reserve r)
    (hbusy : c.jpeg.mIsBusy = false) :
    JpegInv { c with caller := .waitForReadout r, jpeg := { c.jpeg with mIsBusy := true } } ∧
      (r.hasJpeg c.table.streams = true → Settled c
        { c with caller := .waitForReadout r, jpeg := { c.jpeg with mIsBusy := true } }) := by
  have hbound := inv.bound
  have howners : owners
      { c with caller := .waitForReadout r, jpeg := { c.jpeg with mIsBusy := true } } =
      owners c + if r.hasJpeg c.table.streams = true then 1 else 0 := by
    simp only [owners, hpc, CallerPc.pastReserve, Option.toList_some, Option.toList_none,
      List.countP_singleton, List.countP_nil, Jpeg.compressions]
    omega
  have hzero : owners c = 0 := by simpa [Jpeg.busy, hbusy] using hbound
  refine ⟨{ inv with bound := ?_ }, fun hjpeg => ?_⟩
  · rw [howners, hzero]
    split <;> simp [Jpeg.busy]
  · rw [Settled, howners, if_pos hjpeg]
    simp [Jpeg.busy, hbusy]

theorem JpegInv.queued (inv : JpegInv c) {r : Request} {readout : Readout}
    (hpc : c.caller = .queueCaptureRequest r)
    (hreadout : readout = { c.readout with
      mInFlightQueue := c.readout.mInFlightQueue ++ [r]
      pc := if c.readout.pc = .waitRequest then .wokenRequest else c.readout.pc }) :
    JpegInv { c with caller := .cacheSettings r, readout := readout } ∧
      Settled c { c with caller := .cacheSettings r, readout := readout } := by
  have hplace : readout.awaited = c.readout.awaited ∧
      readout.jpegsToStart c.table.streams = c.readout.jpegsToStart c.table.streams ∧
      readout.pc.gaveBuffers = c.readout.pc.gaveBuffers ∧
      readout.pc.starting = c.readout.pc.starting := by
    by_cases hw : c.readout.pc = .waitRequest <;>
      simp [hreadout, hw, Readout.awaited, Readout.jpegsToStart, ReadoutPc.gaveBuffers,
        ReadoutPc.starting]
  obtain ⟨hawaited, hstart, hgave, hstarting⟩ := hplace
  have hcur : readout.mCurrentRequest = c.readout.mCurrentRequest := by rw [hreadout]
  have hqueue : readout.mInFlightQueue = c.readout.mInFlightQueue ++ [r] := by rw [hreadout]
  have hto : readout.pc =
      if c.readout.pc = .waitRequest then .wokenRequest else c.readout.pc := by rw [hreadout]
  have hbuffers : readout.sensorBuffers = c.readout.sensorBuffers := by rw [hreadout]
  refine inv.settled ?_ fun hbound => ?_
  · simp only [Settled, owners, hpc, hstart, CallerPc.pastReserve, Option.toList_some,
      Option.toList_none, List.countP_nil, hqueue, List.countP_append]
    omega
  · exact {
      place :=
        { unheld := fun h => hcur.trans (inv.place.unheld ((ReadoutPc.woken_places hto).1 h))
          holding := by
            rw [hcur]
            exact fun h => inv.place.holding ((ReadoutPc.woken_places hto).2 h)
          loaded := by rw [hawaited, hbuffers]; exact inv.place.loaded
          gave := by rw [hgave, hbuffers]; exact inv.place.gave }
      starting := by rw [hstarting, hbuffers]; exact inv.starting
      waiting := by rw [hreadout]; exact inv.waiting
      compressing := inv.compressing
      bound := hbound }

theorem JpegInv.released (inv : JpegInv c) : JpegInv { c with
    caller := .idle
    table := clearStreams c.table
    readout := { c.readout with mInFlightQueue := [] }
    mStatus := .closed } := by
  refine { inv with place := { inv.place with }, bound := ?_ }
  have hbound := inv.bound
  have hhas : Request.hasJpeg (clearStreams c.table).streams =
      Request.hasJpeg c.table.streams := by
    funext r
    simp only [Request.hasJpeg, isJpeg_clearStreams]
  have hstart : Readout.jpegsToStart (clearStreams c.table).streams
      { c.readout with mInFlightQueue := [] } = c.readout.jpegsToStart c.table.streams := by
    simp only [Readout.jpegsToStart, Readout.awaited, hhas, isJpeg_clearStreams]
  simp only [owners, CallerPc.pastReserve, Option.toList_none, List.countP_nil, hstart]
    at hbound ⊢
  exact Nat.le_trans (by omega) hbound

theorem JpegInv.moved (inv : JpegInv c) {pc : CallerPc} {sensor : Sensor} {mSensor : Bool}
    {t : StreamTable} (hpast : pc.pastReserve = c.caller.pastReserve)
    (ht : isJpeg t.streams = isJpeg c.table.streams) :
    JpegInv { c with caller := pc, sensor := sensor, mSensor := mSensor, table := t } ∧
      Settled c { c with caller := pc, sensor := sensor, mSensor := mSensor, table := t } := by
  obtain ⟨hnext, hsettled⟩ := inv.setCaller pc ht (by rw [hpast])
  exact ⟨{ hnext with }, hsettled⟩

theorem JpegInv.callerMove (inv : JpegInv c) {res : WaitResult} (h : CallerMove c res c' es) :
    JpegInv c' ∧ (CallKeeps c res → Settled c c') := by
  cases h with
  | failed hfail => exact inv.failed hfail
  | @waits pc hbefore hreq hreserve hdelivered =>
    obtain ⟨hnext, hsettled⟩ := inv.setCaller pc rfl (by rw [hreserve])
    exact ⟨hnext, fun _ => hsettled⟩
  | @reserved r hpc hbusy =>
    obtain ⟨hnext, hsettled⟩ := inv.reserved hpc hbusy
    exact ⟨hnext, fun hkeeps => hsettled (hkeeps.reserving r hpc)⟩
  | queued hpc =>
    obtain ⟨hnext, hsettled⟩ := inv.queued hpc rfl
    exact ⟨hnext, fun _ => hsettled⟩
  | exitRequested hpc =>
    obtain ⟨hnext, hsettled⟩ := inv.setCaller .join rfl (by rw [hpc]; rfl)
    exact ⟨{ hnext with place := { hnext.place with } }, fun _ => hsettled⟩
  | released hpc =>
    refine ⟨inv.released, fun hkeeps => ?_⟩
    have hserving := hkeeps.serving
    simp [hpc, CallerPc.closes] at hserving
  | _ =>
    refine And.imp_right (fun hsettled _ => hsettled) (inv.moved ?_ ?_)
    · simp only [*]
      rfl
    · rfl

theorem JpegInv.sensorMove (inv : JpegInv c) (h : SensorMove c c' es) :
    JpegInv c' ∧ Settled c c' := by
  cases h <;> exact ⟨{ inv with }, rfl⟩

theorem JpegInv.setReadout (inv : JpegInv c) {readout : Readout} {sensor : Sensor}
    {status : CameraStatus} (hplace : ReadoutPlace readout)
    (hstarting : readout.pc.starting = false)
    (hwaiting : readout.mJpegWaiting = c.readout.mJpegWaiting)
    (hcount : readout.mInFlightQueue.countP (Request.hasJpeg c.table.streams) +
        readout.jpegsToStart c.table.streams =
      c.readout.mInFlightQueue.countP (Request.hasJpeg c.table.streams) +
        c.readout.jpegsToStart c.table.streams) :
    JpegInv { c with readout := readout, sensor := sensor, mStatus := status } ∧
      Settled c { c with readout := readout, sensor := sensor, mStatus := status } := by
  refine inv.settled ?_ fun hbound => ?_
  · simp only [Settled, owners]
    omega
  · exact {
      place := hplace
      starting := by simp [hstarting]
      waiting := hwaiting.trans inv.waiting
      compressing := inv.compressing
      bound := hbound }

theorem JpegInv.frameTaken (inv : JpegInv c) {b : Nat}
    (hpc : c.readout.pc = .waitForNewFrame ∨ c.readout.pc = .waitFrame) :
    JpegInv (takeFrame c b).1 ∧ Settled c (takeFrame c b).1 := by
  obtain ⟨r, hcur⟩ := Option.ne_none_iff_exists'.mp (inv.place.holding hpc)
  have hawaited : c.readout.awaited = [r] := by
    rcases hpc with hpc | hpc <;> simp [Readout.awaited, hpc, hcur]
  have hloaded := inv.place.loaded (by simp [hawaited])
  refine inv.setReadout ⟨⟨by simp, by simp⟩, by simp [Readout.awaited], ?_⟩ rfl rfl ?_
  · simp [ReadoutPc.gaveBuffers, hloaded]
  · have hstart : c.readout.jpegsToStart c.table.streams =
        [r].countP (Request.hasJpeg c.table.streams) := by
      rcases hpc with hpc | hpc <;> simp [Readout.jpegsToStart, hpc, hawaited]
    rw [hstart]
    simp [Readout.jpegsToStart, hcur, List.countP_singleton, Request.hasJpeg]

theorem JpegInv.not_running (inv : JpegInv c) (h : 0 < c.readout.jpegsToStart c.table.streams) :
    c.jpeg.pc.running = false ∧ c.jpeg.mIsBusy = true := by
  have hbound := inv.bound
  simp only [owners, Jpeg.compressions, Jpeg.busy] at hbound
  split at hbound <;> split at hbound
  · omega
  · omega
  · rename_i hrun hbusy
    exact ⟨by simpa using hrun, hbusy⟩
  · omega

theorem JpegInv.jpegOffered (inv : JpegInv c) (hstart : c.startsNull = false)
    {done rest : List HalBuffer} {b : HalBuffer} {needJpeg : Bool}
    (hpc : c.readout.pc = .buffers done (b :: rest) needJpeg)
    (hjpeg : isJpeg c.table.streams b = true) (hwaiting : c.readout.mJpegWaiting = false)
    (hbusy : c.jpeg.mIsBusy = true) :
    JpegInv { c with
        readout := { c.readout with pc := .startJpeg done b rest needJpeg }
        jpeg := { c.jpeg with mBuffers := c.readout.sensorBuffers } } ∧
      Settled c { c with
        readout := { c.readout with pc := .startJpeg done b rest needJpeg }
        jpeg := { c.jpeg with mBuffers := c.readout.sensorBuffers } } := by
  have hsome : c.readout.sensorBuffers ≠ none := by
    intro hnone
    simp [Camera.startsNull, hpc, hjpeg, hwaiting, hbusy, hnone] at hstart
  have hgave := inv.place.gave needJpeg (by rw [hpc]; rfl)
  have hfalse : needJpeg = false := by simpa [hsome] using hgave
  subst hfalse
  refine inv.settled ?_ fun hbound => ?_
  · simp [Settled, owners, Readout.jpegsToStart, hpc, hjpeg, Jpeg.compressions, Jpeg.busy]
  · exact {
      place := ⟨⟨by simp, by simp⟩, by simp [Readout.awaited],
        by simp [ReadoutPc.gaveBuffers, hsome]⟩
      starting := fun _ => ⟨hsome, rfl⟩
      waiting := inv.waiting
      compressing := fun _ => hsome
      bound := hbound }

theorem JpegInv.jpegStarted (inv : JpegInv c) {done rest : List HalBuffer} {b : HalBuffer}
    {needJpeg : Bool} {frameNumber : UInt32}
    (hpc : c.readout.pc = .startJpeg done b rest needJpeg) (hidle : c.jpeg.pc = .idle) :
    JpegInv { c with
        readout := { c.readout with
          pc := .buffers done rest true
          mJpegHalBuffer := b
          mJpegFrameNumber := frameNumber
          mJpegWaiting := true
          sensorBuffers := none }
        jpeg := { c.jpeg with pc := .compress } } ∧
      Settled c { c with
        readout := { c.readout with
          pc := .buffers done rest true
          mJpegHalBuffer := b
          mJpegFrameNumber := frameNumber
          mJpegWaiting := true
          sensorBuffers := none }
        jpeg := { c.jpeg with pc := .compress } } := by
  obtain ⟨hsome, hmine⟩ := inv.starting (by rw [hpc]; rfl)
  refine inv.settled ?_ fun hbound => ?_
  · simp [Settled, owners, Readout.jpegsToStart, hpc, Readout.awaited, Jpeg.compressions,
      JpegPc.running, hidle, Jpeg.busy]
  · exact {
      place := ⟨⟨by simp, by simp⟩, by simp [Readout.awaited], by simp [ReadoutPc.gaveBuffers]⟩
      starting := by simp [ReadoutPc.starting]
      waiting := rfl
      compressing := by
        rw [hmine]
        exact fun _ => hsome
      bound := hbound }

theorem JpegInv.jpegStartFailed (inv : JpegInv c) {done rest : List HalBuffer} {b : HalBuffer}
    {needJpeg : Bool} (hpc : c.readout.pc = .startJpeg done b rest needJpeg) :
    JpegInv { c with readout := { c.readout with
      pc := .buffers (done ++ [finished b .error]) rest needJpeg } } := by
  have hgave := inv.place.gave needJpeg (by rw [hpc]; rfl)
  have hbound := inv.bound
  refine { inv with
    place := ⟨⟨by simp, by simp⟩, by simp [Readout.awaited], ?_⟩
    starting := by simp [ReadoutPc.starting]
    bound := ?_ }
  · simpa [ReadoutPc.gaveBuffers] using hgave
  · have hone : c.readout.jpegsToStart c.table.streams = 1 := by
      simp [Readout.jpegsToStart, hpc]
    have hle : ({ c.readout with pc := .buffers (done ++ [finished b .error]) rest needJpeg } :
        Readout).jpegsToStart c.table.streams ≤ 1 := by
      cases needJpeg
      · simp only [Readout.jpegsToStart]
        split <;> simp
      · simp [Readout.jpegsToStart, Readout.awaited]
    dsimp only at hle
    simp only [owners] at hbound ⊢
    exact Nat.le_trans (by omega) hbound

theorem JpegInv.jpegRefused (inv : JpegInv c) {done rest : List HalBuffer} {b : HalBuffer}
    {needJpeg : Bool} (hpc : c.readout.pc = .buffers done (b :: rest) needJpeg)
    (hjpeg : isJpeg c.table.streams b = true)
    (hrefused : c.readout.mJpegWaiting = true ∨ c.jpeg.mIsBusy = false) : needJpeg = true := by
  by_contra hfalse
  rw [Bool.not_eq_true] at hfalse
  subst hfalse
  have hone : c.readout.jpegsToStart c.table.streams = 1 := by
    simp [Readout.jpegsToStart, hpc, hjpeg]
  obtain ⟨hrunning, hbusy⟩ := inv.not_running (by omega)
  rcases hrefused with hwaiting | hfree
  · rw [inv.waiting] at hwaiting
    cases hj : c.jpeg.pc <;> simp [hj, JpegPc.reporting, JpegPc.running] at hwaiting hrunning
  · simp [hbusy] at hfree

theorem Readout.places_of_gaveBuffers_none (readout : Readout) (streams : Nat → Stream)
    (h : readout.pc.gaveBuffers = none) : readout.awaited = readout.mCurrentRequest.toList ∧
      readout.jpegsToStart streams = readout.mCurrentRequest.toList.countP
        (Request.hasJpeg streams) ∧ readout.pc.starting = false := by
  cases hpc : readout.pc <;> simp [hpc, ReadoutPc.gaveBuffers] at h <;>
    simp [Readout.awaited, Readout.jpegsToStart, ReadoutPc.starting, hpc]

theorem JpegInv.setPlace (inv : JpegInv c) {pc : ReadoutPc}
    (hfrom : c.readout.pc.gaveBuffers = none) (hto : pc.gaveBuffers = none)
    (hunheld : pc = .waitRequest ∨ pc = .wokenRequest → c.readout.mCurrentRequest = none)
    (hholding : pc = .waitForNewFrame ∨ pc = .waitFrame → c.readout.mCurrentRequest ≠ none) :
    JpegInv { c with readout := { c.readout with pc := pc } } ∧
      Settled c { c with readout := { c.readout with pc := pc } } := by
  obtain ⟨hawaited, hjpegs, -⟩ := c.readout.places_of_gaveBuffers_none c.table.streams hfrom
  obtain ⟨hawaited', hjpegs', hstarting⟩ :=
    Readout.places_of_gaveBuffers_none { c.readout with pc := pc } c.table.streams hto
  refine inv.setReadout ⟨⟨hunheld, hholding⟩, ?_, by simp [hto]⟩ hstarting rfl ?_
  · rw [hawaited', ← hawaited]
    exact inv.place.loaded
  · rw [hjpegs', hjpegs]

theorem JpegInv.setLoop (inv : JpegInv c) {pc : ReadoutPc} {active : Bool}
    {status : CameraStatus} (hgave : pc.gaveBuffers = c.readout.pc.gaveBuffers)
    (hloop : pc.gaveBuffers ≠ none) (hstarting : pc.starting = false)
    (hcount : ({ c.readout with pc := pc, mThreadActive := active } :
      Readout).jpegsToStart c.table.streams = c.readout.jpegsToStart c.table.streams) :
    JpegInv { c with
        readout := { c.readout with pc := pc, mThreadActive := active }, mStatus := status } ∧
      Settled c { c with
        readout := { c.readout with pc := pc, mThreadActive := active }, mStatus := status } := by
  have hplace : ∀ pc' : ReadoutPc, pc' = .waitRequest ∨ pc' = .wokenRequest ∨
      pc' = .waitForNewFrame ∨ pc' = .waitFrame → pc'.gaveBuffers = none := by
    rintro pc' (rfl | rfl | rfl | rfl) <;> rfl
  have hawaited :
      ({ c.readout with pc := pc, mThreadActive := active } : Readout).awaited = [] := by
    cases pc <;> simp [ReadoutPc.gaveBuffers] at hloop <;> rfl
  refine inv.setReadout ⟨⟨?_, ?_⟩, fun h => absurd hawaited h, ?_⟩ hstarting rfl (by rw [hcount])
  · exact fun h => absurd (hplace pc (by tauto)) hloop
  · exact fun h => absurd (hplace pc (by tauto)) hloop
  · rw [hgave]
    exact inv.place.gave

theorem JpegInv.readoutMove (inv : JpegInv c) (hstart : c.startsNull = false)
    {res : WaitResult} (h : ReadoutMove c res c' es) :
    JpegInv c' ∧ ((c.readout.pc.starting = true → res = .ok) → Settled c c') := by
  have hkeeps : JpegInv c' ∧ Settled c c' →
      JpegInv c' ∧ ((c.readout.pc.starting = true → res = .ok) → Settled c c') :=
    fun h => ⟨h.1, fun _ => h.2⟩
  cases h with
  | exit hpc hexit =>
    exact hkeeps (inv.setPlace (by rw [hpc]; rfl) rfl (by simp) (by simp))
  | resume hpc hexit hcur =>
    exact hkeeps (inv.setPlace (by rw [hpc]; rfl) rfl (by simp) (by simp [hcur]))
  | waits hpc hexit hcur hqueue =>
    exact hkeeps (inv.setPlace (by rw [hpc]; rfl) rfl (by simp [hcur]) (by simp))
  | @takes r rest hplace hqueue =>
    have hnone : c.readout.jpegsToStart c.table.streams = 0 := by
      rcases hplace with ⟨hpc, -, hcur⟩ | hpc
      · simp [Readout.jpegsToStart, Readout.awaited, hpc, hcur]
      · simp [Readout.jpegsToStart, Readout.awaited, hpc, inv.place.unheld (.inr hpc)]
    refine hkeeps (inv.setReadout ⟨⟨by simp, by simp⟩, by simp, by simp [ReadoutPc.gaveBuffers]⟩
      rfl rfl ?_)
    rw [hnone, hqueue, List.countP_cons]
    simp [Readout.jpegsToStart, Readout.awaited, List.countP_singleton]
  | waitTimedOut hpc =>
    exact hkeeps (inv.setPlace (by rw [hpc]; rfl) rfl (by simp) (by simp))
  | waitFailed hpc hres =>
    exact hkeeps (inv.setPlace (by rw [hpc]; rfl) rfl (by simp) (by simp))
  | sensorMissing hpc hsensor =>
    exact hkeeps (inv.setPlace (by rw [hpc]; rfl) rfl (by simp) (by simp))
  | noFrame hpc hsensor hframe =>
    have hcur := inv.place.holding (.inl hpc)
    exact hkeeps (inv.setPlace (by rw [hpc]; rfl) rfl (by simp) (fun _ => hcur))
  | frame hplace hframe => exact hkeeps (inv.frameTaken (hplace.imp And.left And.left))
  | frameTimedOut hpc =>
    exact hkeeps (inv.setPlace (by rw [hpc]; rfl) rfl (by simp) (by simp))
  | jpegRefused hpc hjpeg hrefused =>
    obtain rfl := inv.jpegRefused hpc hjpeg hrefused
    exact hkeeps (inv.setLoop (by rw [hpc]; rfl) (by simp [ReadoutPc.gaveBuffers]) rfl
      (by simp [Readout.jpegsToStart, Readout.awaited, hpc]))
  | jpegOffered hpc hjpeg hwaiting hbusy =>
    exact hkeeps (inv.jpegOffered hstart hpc hjpeg hwaiting hbusy)
  | @bufferDone done rest b needJpeg hpc hjpeg =>
    exact hkeeps (inv.setLoop (by rw [hpc]; rfl) (by simp [ReadoutPc.gaveBuffers]) rfl
      (by cases needJpeg <;> simp [Readout.jpegsToStart, Readout.awaited, hpc, hjpeg]))
  | jpegStarted hpc hres hidle => exact hkeeps (inv.jpegStarted hpc hidle)
  | jpegStartFailed hpc hres =>
    exact ⟨inv.jpegStartFailed hpc, fun hrun => absurd (hrun (by rw [hpc]; rfl)) hres⟩
  | @wentIdle done needJpeg hpc hqueue =>
    exact hkeeps (inv.setLoop (by rw [hpc]; rfl) (by simp [ReadoutPc.gaveBuffers]) rfl
      (by cases needJpeg <;> simp [Readout.jpegsToStart, Readout.awaited, hpc]))
  | @moreQueued done needJpeg hpc hqueue =>
    exact hkeeps (inv.setLoop (by rw [hpc]; rfl) (by simp [ReadoutPc.gaveBuffers]) rfl
      (by cases needJpeg <;> simp [Readout.jpegsToStart, Readout.awaited, hpc]))
  | idleSignalled hpc hlock =>
    exact hkeeps (inv.setLoop (by rw [hpc]; rfl) (by simp [ReadoutPc.gaveBuffers]) rfl
      (by simp [Readout.jpegsToStart, Readout.awaited, hpc]))
  | sent hpc hcur =>
    exact hkeeps (inv.setReadout ⟨⟨by simp, by simp⟩, by simp [Readout.awaited],
      by simp [ReadoutPc.gaveBuffers]⟩ rfl rfl
      (by simp [Readout.jpegsToStart, Readout.awaited, hpc]))

theorem JpegInv.cleaned (inv : JpegInv c) (hpc : c.jpeg.pc = .cleanUp) :
    JpegInv { c with
        jpeg := { c.jpeg with pc := .exiting, mBuffers := none, mIsBusy := false } } ∧
      Settled c { c with
        jpeg := { c.jpeg with pc := .exiting, mBuffers := none, mIsBusy := false } } := by
  have hrunning : c.jpeg.pc.running = true := by rw [hpc]; rfl
  have hbound := inv.bound
  have hbusy : c.jpeg.busy ≤ 1 := by
    unfold Jpeg.busy
    split <;> simp
  have hnot : c.readout.pc.starting = false := by
    by_contra hstarting
    have hone : 0 < c.readout.jpegsToStart c.table.streams := by
      cases hr : c.readout.pc <;> simp [hr, ReadoutPc.starting] at hstarting
      simp [Readout.jpegsToStart, hr]
    simp [(inv.not_running hone).1] at hrunning
  have hlost : owners { c with
      jpeg := { c.jpeg with pc := .exiting, mBuffers := none, mIsBusy := false } } + 1 =
      owners c := by
    simp [owners, Jpeg.compressions, JpegPc.running, hpc]
  refine inv.settled ?_ fun hbound' => ?_
  · have hzero : ({ c.jpeg with pc := .exiting, mBuffers := none, mIsBusy := false } :
        Jpeg).busy = 0 := rfl
    rw [Settled, hzero]
    omega
  · exact { inv with
      starting := by simp [hnot]
      waiting := by rw [inv.waiting, hpc]; rfl
      compressing := by simp [JpegPc.running]
      bound := hbound' }

theorem JpegInv.setJpeg (inv : JpegInv c) {pc : JpegPc} {waiting : Bool} {b : HalBuffer}
    (hrunning : pc.running = c.jpeg.pc.running) (hwaiting : waiting = pc.reporting) :
    JpegInv { c with
        jpeg := { c.jpeg with pc := pc }
        readout := { c.readout with mJpegWaiting := waiting, mJpegHalBuffer := b } } ∧
      Settled c { c with
        jpeg := { c.jpeg with pc := pc }
        readout := { c.readout with mJpegWaiting := waiting, mJpegHalBuffer := b } } := by
  refine inv.settled ?_ fun hbound => ?_
  · simp only [Settled, owners, Jpeg.compressions, hrunning, Readout.jpegsToStart,
      Readout.awaited, Jpeg.busy]
  · exact { inv with
      place := { inv.place with }
      waiting := hwaiting
      compressing := fun h => inv.compressing (hrunning ▸ h)
      bound := hbound }

theorem JpegInv.jpegMove (inv : JpegInv c) (h : JpegMove c c' es) :
    JpegInv c' ∧ Settled c c' := by
  cases h with
  | compressed hpc hbuffers =>
    exact inv.setJpeg (by rw [hpc]; rfl) (by rw [inv.waiting, hpc]; rfl)
  | notified hpc hreadout hb => exact inv.setJpeg (by rw [hpc]; rfl) rfl
  | cleaned hpc => exact inv.cleaned hpc
  | exited hpc => exact inv.setJpeg (by rw [hpc]; rfl) (by rw [inv.waiting, hpc]; rfl)

end Moves

def Balanced (c c' : Camera) (es : List Event) : Prop :=
  es.count .reserved + c.jpeg.busy = es.count .cleanedUp + c'.jpeg.busy

theorem EnterMove.balanced {c c' : Camera} {action : Action} {es : List Event}
    (h : EnterMove c action c' es) : Balanced c c' es := by
  cases h <;> simp [Balanced]

theorem CallerMove.balanced {c c' : Camera} {res : WaitResult} {es : List Event}
    (h : CallerMove c res c' es) : Balanced c c' es := by
  cases h with
  | reserved hpc hbusy => simp [Balanced, Jpeg.busy, hbusy]
  | released hpc =>
    have hnot : ∀ e : Event, (∀ b, e ≠ .delete b) → (c.readout.mInFlightQueue.flatMap
        (fun r => [Event.delete r.buffers, .delete r.sensorBuffers])).count e = 0 := by
      intro e he
      rw [List.count_eq_zero, List.mem_flatMap]
      intro hparts
      obtain ⟨r, -, hr⟩ := hparts
      simp [he] at hr
    simp [Balanced, List.count_append, hnot]
  | _ => simp [Balanced]

theorem ReadoutMove.balanced {c c' : Camera} {res : WaitResult} {es : List Event}
    (h : ReadoutMove c res c' es) : Balanced c c' es := by
  cases h with
  | frame hplace hframe =>
    rcases hplace with ⟨-, -, rfl⟩ | ⟨-, rfl⟩ <;> simp [Balanced, takeFrame]
  | jpegStartFailed hpc hres => cases c.jpeg.mBuffers <;> simp [Balanced]
  | sent hpc hcur =>
    split
    · simp [Balanced]
    · cases c.readout.sensorBuffers <;> simp [Balanced]
  | _ => simp [Balanced, Jpeg.busy]

theorem JpegMove.balanced {c c' : Camera} {es : List Event} (inv : JpegInv c)
    (h : JpegMove c c' es) : Balanced c c' es := by
  cases h with
  | cleaned hpc =>
    have hbound := inv.bound
    have hbusy : c.jpeg.busy = 1 := by
      have hone : c.jpeg.compressions = 1 := by simp [Jpeg.compressions, hpc, JpegPc.running]
      have hle : c.jpeg.busy ≤ 1 := by
        unfold Jpeg.busy
        split <;> simp
      simp only [owners] at hbound
      omega
    rw [Balanced, hbusy]
    cases c.jpeg.mBuffers <;> simp [Jpeg.busy]
  | _ => simp [Balanced, Jpeg.busy]

theorem SensorMove.balanced {c c' : Camera} {es : List Event} (h : SensorMove c c' es) :
    Balanced c c' es := by
  cases h <;> simp [Balanced]

theorem Balanced.append {tr es : List Event} {c c' : Camera}
    (hes : Balanced c c' es) (htr : tr.count .reserved = tr.count .cleanedUp + c.jpeg.busy) :
    (tr ++ es).count .reserved = (tr ++ es).count .cleanedUp + c'.jpeg.busy := by
  unfold Balanced at hes
  simp only [List.count_append]
  omega

def ReadoutPc.fails (pc : ReadoutPc) (res : WaitResult) : Bool :=
  match pc with
  | .waitRequest => decide (res = .failed)
  | .startJpeg _ _ _ _ => decide (res ≠ .ok)
  | _ => false

/-- The steps that leave no reservation behind: a request with a BLOB buffer has one that is not a
depth cloud, a call that has reserved the compressor is not abandoned, and the readout thread gets
through to a compressor thread that starts. -/
def ReservationKept (c : Camera) : Action → Prop
  | .processCaptureRequest request fake o =>
    ∀ p ∈ (beginRequest c.table c.mStatus request fake o).result.toOption,
      p.needJpeg = true → p.buffers.any (isJpeg c.table.streams) = true
  | .closeCamera => False
  | .caller res => ∀ r ∈ c.errorExit res,
      c.caller.pastReserve = none ∨ r.hasJpeg c.table.streams = false
  | .sensor => True
  | .readout res => c.startsNull = false ∧ c.readout.pc.fails res = false
  | .jpeg _ => True

instance (c : Camera) (action : Action) : Decidable (ReservationKept c action) :=
  match action with
  | .processCaptureRequest request fake o => inferInstanceAs (Decidable (∀ p ∈
      (beginRequest c.table c.mStatus request fake o).result.toOption, _ → _))
  | .closeCamera => .isFalse id
  | .caller res => inferInstanceAs (Decidable (∀ r ∈ c.errorExit res, _ ∨ _))
  | .sensor => .isTrue trivial
  | .readout _ => inferInstanceAs (Decidable (_ ∧ _))
  | .jpeg _ => .isTrue trivial

def Camera.readoutRuns (c : Camera) : Prop :=
  c.readout.pc ≠ .exited ∧ c.readout.pc ≠ .crashed

structure ReservationOwned (tr : List Event) (c : Camera) : Prop where
  owned : owners c = c.jpeg.busy
  balanced : tr.count .reserved = tr.count .cleanedUp + c.jpeg.busy
  readout : c.readoutRuns
  compressing : c.jpeg.pc.running = true → c.jpeg.mBuffers ≠ none

structure Serving (c : Camera) : Prop where
  call : c.caller.closes = false
  reserving : ∀ r, c.caller.request = some r → c.caller.pastReserve = none →
    r.hasJpeg c.table.streams = true
  sensor : c.mSensor = true
  exit : c.readout.exitPending = false
  readout : c.readoutRuns

theorem serving_atRest {c : Camera} (h : AtRest c) : Serving c := by
  constructor
  · rw [h.caller]; rfl
  · simp [h.caller, CallerPc.request]
  · exact h.mSensor
  · exact h.readoutExit
  · simp [Camera.readoutRuns, h.readout]

section Serving
variable {c c' : Camera} {es : List Event}

theorem Serving.enterMove (serving : Serving c) {action : Action}
    (hok : ReservationKept c action) (h : EnterMove c action c' es) : Serving c' := by
  cases h with
  | rejected hidle hb hres halloc =>
    exact { serving with reserving := by simp [hidle, CallerPc.request] }
  | lockFailed hidle hb hres halloc =>
    exact { serving with reserving := by simp [hidle, CallerPc.request] }
  | @prepared request fake o b p r pc hidle hb hres hr hpc =>
    subst hb
    have hjpeg := hok p (by rw [hres]; rfl)
    have hcall : pc.closes = false ∧ ∀ q, pc.request = some q → pc.pastReserve = none →
        q.hasJpeg c.table.streams = true := by
      rw [hpc]
      split
      · rename_i hneed
        simpa [CallerPc.closes, CallerPc.request, CallerPc.pastReserve, hr, Request.hasJpeg]
          using hjpeg hneed
      · simp [CallerPc.closes, CallerPc.pastReserve]
    exact { serving with
      call := hcall.1
      reserving := by rw [beginRequest_streams]; exact hcall.2 }
  | alreadyClosed hidle hclosed => exact hok.elim
  | closing hidle hclosed => exact hok.elim

theorem Serving.callerMove (serving : Serving c) {res : WaitResult}
    (h : CallerMove c res c' es) : Serving c' := by
  cases h with
  | failed hfail => exact { serving with call := rfl, reserving := by simp [CallerPc.request] }
  | @waits pc hbefore hreq hreserve hdelivered =>
    exact { serving with
      call := by cases pc <;> simp_all [CallerPc.beforeSync, CallerPc.closes]
      reserving := by rw [hreq, hreserve]; exact serving.reserving }
  | queued hpc =>
    refine { serving with
      call := rfl, reserving := by simp [CallerPc.request], readout := ?_ }
    by_cases hw : c.readout.pc = .waitRequest
    · simp [Camera.readoutRuns, hw]
    · simpa [Camera.readoutRuns, hw] using serving.readout
  | cached hpc => exact { serving with call := rfl, reserving := by simp [CallerPc.request] }
  | shutDownFailed hpc _ => exact (CallerPc.not_closes serving.call hpc rfl).elim
  | shutDownDone hpc _ => exact (CallerPc.not_closes serving.call hpc rfl).elim
  | sensorCleared hpc => exact (CallerPc.not_closes serving.call hpc rfl).elim
  | exitRequested hpc => exact (CallerPc.not_closes serving.call hpc rfl).elim
  | joined hpc _ => exact (CallerPc.not_closes serving.call hpc rfl).elim
  | released hpc => exact (CallerPc.not_closes serving.call hpc rfl).elim
  | _ => exact { serving with call := rfl, reserving := by simp [CallerPc.pastReserve] }

theorem Serving.sensorMove (serving : Serving c) (h : SensorMove c c' es) : Serving c' := by
  cases h <;> exact { serving with }

theorem Serving.readoutMove (serving : Serving c) {res : WaitResult}
    (hok : c.readout.pc.fails res = false) (h : ReadoutMove c res c' es) : Serving c' := by
  cases h with
  | exit hpc hexit => simp [serving.exit] at hexit
  | waitFailed hpc hres => simp [hpc, ReadoutPc.fails, hres] at hok
  | sensorMissing hpc hsensor => simp [serving.sensor] at hsensor
  | frame hplace hframe => exact { serving with readout := by simp [Camera.readoutRuns, takeFrame] }
  | _ => exact { serving with readout := by simp [Camera.readoutRuns] }

theorem Serving.jpegMove (serving : Serving c) (h : JpegMove c c' es) : Serving c' := by
  cases h <;> exact { serving with }

end Serving

theorem reservation_step {tr es : List Event} {c c' : Camera} {action : Action}
    (inv : JpegInv c) (serving : Serving c) (owned : ReservationOwned tr c)
    (hok : ReservationKept c action) (h : cameraStep c action = some (c', es)) :
    JpegInv c' ∧ Serving c' ∧ ReservationOwned (tr ++ es) c' := by
  have hassemble : JpegInv c' → Settled c c' → Balanced c c' es → Serving c' →
      JpegInv c' ∧ Serving c' ∧ ReservationOwned (tr ++ es) c' := by
    intro hinv hsettled hbalanced hserving
    have howned := owned.owned
    refine ⟨hinv, hserving, ?_, hbalanced.append owned.balanced, hserving.readout,
      hinv.compressing⟩
    unfold Settled at hsettled
    omega
  rcases cameraStep_moves h with hm | ⟨res, rfl, hm⟩ | ⟨-, hm⟩ | ⟨res, rfl, hm⟩ | hm
  · obtain ⟨hinv, hsettled⟩ := inv.enterMove hm
    exact hassemble hinv hsettled hm.balanced (serving.enterMove hok hm)
  · obtain ⟨hinv, hsettled⟩ := inv.callerMove hm
    have hkeeps : CallKeeps c res := ⟨hok, fun r hr =>
      serving.reserving r (by rw [hr]; rfl) (by rw [hr]; rfl), serving.call⟩
    exact hassemble hinv (hsettled hkeeps) hm.balanced (serving.callerMove hm)
  · obtain ⟨hinv, hsettled⟩ := inv.sensorMove hm
    exact hassemble hinv hsettled hm.balanced (serving.sensorMove hm)
  · obtain ⟨hinv, hsettled⟩ := inv.readoutMove hok.1 hm
    have hrun : c.readout.pc.starting = true → res = .ok := by
      intro hstarting
      have hfails := hok.2
      cases hpc : c.readout.pc <;> simp [hpc, ReadoutPc.starting] at hstarting
      simpa [hpc, ReadoutPc.fails] using hfails
    exact hassemble hinv (hsettled hrun) hm.balanced (serving.readoutMove hok.2 hm)
  · obtain ⟨hinv, hsettled⟩ := inv.jpegMove hm
    exact hassemble hinv hsettled (hm.balanced inv) (serving.jpegMove hm)

/-- In every run of such steps the compressor is busy exactly while one owner has it reserved, and
every reservation ends with one `cleanUp`. -/
theorem reservation_owned {c₀ c : Camera} {tr : List Event} (h₀ : AtRest c₀)
    (run : camera.Run ReservationKept c₀ tr c) : ReservationOwned tr c := by
  have hinit : ReservationOwned [] c₀ := by
    refine ⟨?_, by simp [h₀.jpeg, Jpeg.busy], (serving_atRest h₀).readout,
      (jpegInv_atRest h₀).compressing⟩
    have hbound := (jpegInv_atRest h₀).bound
    have hfree : c₀.jpeg.busy = 0 := by rw [h₀.jpeg]; rfl
    omega
  have hall := run.invariant
    (P := fun tr c => JpegInv c ∧ Serving c ∧ ReservationOwned tr c)
    ⟨jpegInv_atRest h₀, serving_atRest h₀, hinit⟩
    fun inv hok h => reservation_step inv.1 inv.2.1 inv.2.2 hok h
  exact hall.2.2

def blobCamera (dataSpace : DataSpace) : Camera :=
  { previewCamera with
    table := (configureStreams { connectedTable with
      streams := fun p => if p = 2 then
          { plainStream .output .blob with dataSpace := dataSpace }
        else connectedTable.streams p } .ready (some ⟨some [some 0, some 2]⟩)).1 }

theorem blobCamera_atRest (dataSpace : DataSpace) : AtRest (blobCamera dataSpace) := by
  constructor <;> rfl

def blobRequest : CaptureRequest where
  frameNumber := 1
  settings := some [(.controlMode, 1)]
  inputBuffer := none
  outputBuffers := some [previewBuffer 10, ⟨2, some 11, .ok, -1, -1⟩]

def blobRun : List Action :=
  [Action.processCaptureRequest (some blobRequest) {} {}] ++ List.replicate 4 (Action.caller .ok) ++
    [Action.sensor] ++ List.replicate 8 (Action.caller .ok) ++ List.replicate 7 Action.sensor ++
    List.replicate 2 (Action.readout .ok)

theorem reservation_owned_jpeg :
    ∃ tr c, camera.Run ReservationKept (blobCamera (.other 0)) tr c ∧
      tr.count .cleanedUp = 1 ∧ ReservationOwned tr c := by
  obtain ⟨tr, c, run, hcleaned⟩ := camera.run_of_exec ReservationKept (blobCamera (.other 0))
    (blobRun ++ List.replicate 6 (Action.readout .ok) ++ List.replicate 3 (Action.jpeg true))
    (fun _ tr => tr.count .cleanedUp = 1) (by decide +kernel)
  exact ⟨tr, c, run, hcleaned, reservation_owned (blobCamera_atRest _) run⟩

/-- A request for a depth cloud reserves the compressor; once its result is sent, nobody is left
to give the reservation back. -/
theorem depth_request_keeps_reservation :
    ¬ ∀ {c₀ c : Camera} {tr : List Event}, AtRest c₀ → camera.Run StaysOpen c₀ tr c →
      c.jpeg.mIsBusy = true → 0 < owners c := by
  intro h
  obtain ⟨tr, c, run, hbusy, hnone⟩ := camera.run_of_exec StaysOpen (blobCamera .depth)
    (blobRun ++ List.replicate 5 (Action.readout .ok))
    (fun c tr => c.jpeg.mIsBusy = true ∧ owners c = 0 ∧ .captureResult 1
      [finished (previewBuffer 10) .ok, finished ⟨2, some 11, .ok, -1, -1⟩ .ok] ∈ tr)
    (by decide +kernel)
  exact absurd (h (blobCamera_atRest _) run hbusy) (by simp [hnone.1])

end Rpi3Device.Camera3
