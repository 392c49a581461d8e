import Mathlib.Tactic
import Rpi3Device.Camera3.PipelineSteps

/-!
# The order of frames

The sensor passes the buffers of a request through two mailboxes and its own
registers, the readout thread takes the requests from a list. Both sides hold the
same requests in the same order: the buffers inside the sensor, oldest first, are
the ones of the requests whose frame the readout thread still waits for, followed
by those of the request that is being queued.
-/

namespace Rpi3Device.Camera3
open TransitionSystem

def acceptedRequests (tr : List Event) : List Request :=
  tr.filterMap fun
    | .accepted r => some r
    | _ => none

def capturedBuffers (tr : List Event) : List Nat :=
  tr.filterMap fun
    | .capture buffers _ _ _ => some buffers
    | _ => none

/-- The frames that `waitForNewFrame` returned, each with the request held at that moment. -/
def returnedFrames (tr : List Event) : List (Nat × Option Request) :=
  tr.filterMap fun
    | .frame buffers held => some (buffers, held)
    | _ => none

@[simp] theorem acceptedRequests_append (tr es : List Event) :
    acceptedRequests (tr ++ es) = acceptedRequests tr ++ acceptedRequests es :=
  List.filterMap_append

@[simp] theorem capturedBuffers_append (tr es : List Event) :
    capturedBuffers (tr ++ es) = capturedBuffers tr ++ capturedBuffers es :=
  List.filterMap_append

@[simp] theorem returnedFrames_append (tr es : List Event) :
    returnedFrames (tr ++ es) = returnedFrames tr ++ returnedFrames es :=
  List.filterMap_append

def SensorPc.shotBuffers : SensorPc → List Nat
  | .readout shot => shot.buffers.toList
  | .waitComplete shot _ => shot.buffers.toList
  | .complete shot _ => shot.buffers.toList
  | .capture shot => shot.buffers.toList
  | _ => []

def Sensor.unpublished (sensor : Sensor) : List Nat :=
  match sensor.pc with
  | .top => sensor.mNextCapturedBuffers.toList
  | .readout _ => sensor.mNextCapturedBuffers.toList
  | .waitComplete _ b => [b]
  | .complete _ b => [b]
  | .capture _ => []
  | .exited => sensor.mNextCapturedBuffers.toList

def Sensor.uncaptured (sensor : Sensor) : List Nat :=
  sensor.pc.shotBuffers ++ sensor.mNextBuffers.toList

def Sensor.frames (sensor : Sensor) : List Nat :=
  sensor.mCapturedBuffers.toList ++ sensor.unpublished ++ sensor.uncaptured

def CallerPc.configures : CallerPc → Bool
  | .setExposureTime _ => true
  | .setFrameDuration _ => true
  | .setSensitivity _ => true
  | .setDestinationBuffers _ => true
  | _ => false

structure FrameInv (accepted : List Request) (captures : List Nat)
    (returned : List (Nat × Option Request)) (c : Camera) : Prop where
  serving : c.caller.closes = false
  running : c.sensor.exitPending = false ∧ c.sensor.pc ≠ .exited
  mailbox : c.caller.configures = true → c.sensor.mNextBuffers = none
  synced : ∀ r n, c.caller = .vsyncWait r n → c.sensor.mGotVSync = true →
    c.sensor.mNextBuffers = none
  blocked : ∀ shot b, c.sensor.pc = .waitComplete shot b → c.sensor.mCapturedBuffers ≠ none
  free : ∀ shot b, c.sensor.pc = .complete shot b → c.sensor.mCapturedBuffers = none
  holds : c.readout.Holds
  paired : ∀ b held, (b, held) ∈ returned → ∃ r, held = some r ∧ r.sensorBuffers = b
  requests : returned.filterMap Prod.snd ++ c.readout.awaited ++ c.readout.mInFlightQueue =
    accepted
  line : c.sensor.frames = (c.readout.awaited ++ c.readout.mInFlightQueue ++
    c.caller.delivered.toList).map Request.sensorBuffers
  captured : captures ++ c.sensor.uncaptured =
    (accepted ++ c.caller.delivered.toList).map Request.sensorBuffers
  fresh : ((accepted ++ c.caller.request.toList).map Request.sensorBuffers).Pairwise (· < ·)
  bounded : ∀ r ∈ accepted ++ c.caller.request.toList, r.sensorBuffers < c.nextBlock

theorem frameInv_atRest {c : Camera} (h : AtRest c) : FrameInv [] [] [] c := by
  constructor
  · rw [h.caller]; rfl
  · rw [h.sensor]; exact ⟨h.sensorExit, by simp⟩
  · rw [h.caller]; simp [CallerPc.configures]
  · rw [h.caller]; simp
  · rw [h.sensor]; simp
  · rw [h.sensor]; simp
  · exact .atRest h
  · simp
  · simp [Readout.awaited, h.readout, h.mCurrentRequest, h.mInFlightQueue]
  · simp [Sensor.frames, Sensor.unpublished, Sensor.uncaptured, SensorPc.shotBuffers, h.sensor,
      h.mCapturedBuffers, h.mNextCapturedBuffers, h.mNextBuffers, Readout.awaited, h.readout,
      h.mCurrentRequest, h.mInFlightQueue, h.caller, CallerPc.delivered]
  · simp [Sensor.uncaptured, SensorPc.shotBuffers, h.sensor, h.mNextBuffers, h.caller,
      CallerPc.delivered]
  · simp [h.caller, CallerPc.request]
  · simp [h.caller, CallerPc.request]

section Moves
variable {accepted : List Request} {captures : List Nat}
  {returned : List (Nat × Option Request)} {c c' : Camera} {es : List Event}

theorem FrameInv.setCaller (inv : FrameInv accepted captures returned c) (pc : CallerPc)
    (hserving : pc.closes = false) (hdelivered : pc.delivered = c.caller.delivered)
    (hrequest : pc.request = c.caller.request ∨ pc.request = none)
    (hmailbox : pc.configures = true → c.sensor.mNextBuffers = none)
    (hsynced : ∀ r n, pc = .vsyncWait r n → c.sensor.mGotVSync = true →
      c.sensor.mNextBuffers = none) :
    FrameInv accepted captures returned { c with caller := pc } := by
  have hsub : (accepted ++ pc.request.toList).Sublist
      (accepted ++ c.caller.request.toList) := by
    refine List.Sublist.append_left ?_ _
    rcases hrequest with h | h
    · rw [h]
    · simp [h]
  exact { inv with
    serving := hserving
    mailbox := hmailbox
    synced := hsynced
    line := by
      rw [hdelivered]
      exact inv.line
    captured := by
      rw [hdelivered]
      exact inv.captured
    fresh := inv.fresh.sublist (hsub.map _)
    bounded := fun r hr => inv.bounded r (hsub.subset hr) }

theorem FrameInv.jpegMove (inv : FrameInv accepted captures returned c)
    (h : JpegMove c c' es) : FrameInv accepted captures returned c' := by
  cases h with
  | compressed hpc hbuffers => exact { inv with }
  | notified hpc hreadout hb => exact { inv with holds := { inv.holds with } }
  | cleaned hpc => exact { inv with }
  | exited hpc => exact { inv with }

theorem CallerPc.beforeSync_places {pc : CallerPc} (h : pc.beforeSync = true) :
    pc.closes = false ∧ pc.delivered = none ∧ pc.configures = false ∧
      ∀ r n, pc ≠ .vsyncWait r n := by
  cases pc <;> simp_all [CallerPc.beforeSync, CallerPc.closes, CallerPc.delivered,
    CallerPc.configures]

theorem FrameInv.enterMove (inv : FrameInv accepted captures returned c) {action : Action}
    (hopen : action.isClose = false) (h : EnterMove c action c' es) :
    FrameInv accepted captures returned c' := by
  cases h with
  | rejected hidle hb hres halloc => exact { inv with }
  | lockFailed hidle hb hres halloc =>
    exact { inv with bounded := fun r hr => Nat.lt_add_right 2 (inv.bounded r hr) }
  | @prepared _ _ _ b p r pc hidle hb hres hr hpc =>
    have hplaces : pc.closes = false ∧ pc.delivered = none ∧ pc.configures = false ∧
        pc.request = some r ∧ ∀ r n, pc ≠ .vsyncWait r n := by
      rw [hpc]
      split <;> simp [CallerPc.closes, CallerPc.delivered, CallerPc.configures, CallerPc.request]
    obtain ⟨hcloses, hdelivered, hconf, hreq, hvsync⟩ := hplaces
    have hnone : c.caller.delivered = none := by rw [hidle]; rfl
    have hnew : r.sensorBuffers = c.nextBlock := by rw [hr]
    have hold : ∀ r ∈ accepted, r.sensorBuffers < c.nextBlock := fun r hr =>
      inv.bounded r (List.mem_append_left _ hr)
    exact { inv with
      serving := hcloses
      mailbox := fun h => absurd h (by simp [hconf])
      synced := fun r n h => absurd h (hvsync r n)
      line := by
        rw [hdelivered, ← hnone]
        exact inv.line
      captured := by
        rw [hdelivered, ← hnone]
        exact inv.captured
      fresh := by
        have hfresh := inv.fresh.sublist ((List.sublist_append_left _ _).map _)
        simp only [hreq, Option.toList_some, List.map_append, List.map_cons, List.map_nil]
        refine List.pairwise_append.mpr ⟨hfresh, List.pairwise_singleton _ _, ?_⟩
        intro a ha b hb
        obtain ⟨q, hq, rfl⟩ := List.mem_map.mp ha
        rw [List.mem_singleton.mp hb, hnew]
        exact hold q hq
      bounded := by
        intro q hq
        simp only [hreq, Option.toList_some, List.mem_append, List.mem_singleton] at hq
        rcases hq with hq | rfl
        · exact Nat.lt_add_right 2 (hold q hq)
        · rw [hnew]
          exact Nat.lt_add_of_pos_right (by decide) }
  | alreadyClosed hidle hclosed => simp [Action.isClose] at hopen
  | closing hidle hclosed => simp [Action.isClose] at hopen

theorem FrameInv.quiet (inv : FrameInv accepted captures returned c)
    (hes : acceptedRequests es = []) :
    FrameInv (accepted ++ acceptedRequests es) captures returned c := by
  rw [hes, List.append_nil]
  exact inv

theorem FrameInv.buffersSet (inv : FrameInv accepted captures returned c) {r : Request}
    (hpc : c.caller = .setDestinationBuffers r) :
    FrameInv accepted captures returned
      { c with
        caller := .setFrameNumber r
        sensor := { c.sensor with mNextBuffers := some r.sensorBuffers } } := by
  have hempty : c.sensor.mNextBuffers = none := inv.mailbox (by rw [hpc]; rfl)
  have hline := inv.line
  have hcaptured := inv.captured
  have hfresh := inv.fresh
  have hbounded := inv.bounded
  simp only [Sensor.frames, Sensor.uncaptured, hempty, hpc, CallerPc.delivered,
    Option.toList_none, List.append_nil] at hline hcaptured
  simp only [hpc, CallerPc.request] at hfresh hbounded
  exact { inv with
    serving := rfl
    mailbox := by simp [CallerPc.configures]
    synced := by simp
    line := by
      simp only [CallerPc.delivered, Option.toList_some, List.map_append, List.map_cons,
        List.map_nil, ← hline, Sensor.frames, Sensor.uncaptured, ← List.append_assoc]
      rfl
    captured := by
      simp only [CallerPc.delivered, Option.toList_some, List.map_append, List.map_cons,
        List.map_nil, ← hcaptured, Sensor.uncaptured, ← List.append_assoc]
    fresh := hfresh
    bounded := hbounded }

theorem FrameInv.queued (inv : FrameInv accepted captures returned c) {r : Request}
    {readout : Readout} (hpc : c.caller = .queueCaptureRequest r)
    (hqueue : readout.mInFlightQueue = c.readout.mInFlightQueue ++ [r])
    (hcur : readout.mCurrentRequest = c.readout.mCurrentRequest)
    (hto : readout.pc =
      if c.readout.pc = .waitRequest then .wokenRequest else c.readout.pc)
    (hholds : readout.Holds) :
    FrameInv (accepted ++ [r]) captures returned
      { c with caller := .cacheSettings r, readout := readout } := by
  have hawaited : readout.awaited = c.readout.awaited := by
    simp only [Readout.awaited, hcur, hto]
    split_ifs with h <;> simp [h]
  have hline := inv.line
  have hcaptured := inv.captured
  have hfresh := inv.fresh
  have hbounded := inv.bounded
  simp only [hpc, CallerPc.delivered, Option.toList_some] at hline hcaptured
  simp only [hpc, CallerPc.request, Option.toList_some] at hfresh hbounded
  exact { inv with
    serving := rfl
    mailbox := by simp [CallerPc.configures]
    synced := by simp
    holds := hholds
    requests := by simp only [hawaited, hqueue, ← inv.requests, List.append_assoc]
    line := by
      simpa only [hawaited, hqueue, CallerPc.delivered, Option.toList_none, List.append_nil,
        List.append_assoc] using hline
    captured := by
      simpa only [CallerPc.delivered, Option.toList_none, List.append_nil] using hcaptured
    fresh := by simpa only [CallerPc.request, Option.toList_none, List.append_nil] using hfresh
    bounded := by
      simpa only [CallerPc.request, Option.toList_none, List.append_nil] using hbounded }

theorem FrameInv.callerMove (inv : FrameInv accepted captures returned c) {res : WaitResult}
    (h : CallerMove c res c' es) :
    FrameInv (accepted ++ acceptedRequests es) captures returned c' := by
  have hholds := inv.holds.callerMove h
  cases h with
  | failed hfail =>
    obtain ⟨hreq, hdelivered, -⟩ := hfail.places
    exact (inv.setCaller .idle rfl hdelivered.symm (.inr rfl) (by simp [CallerPc.configures])
      (by simp)).quiet rfl
  | @waits pc hbefore hreq hreserve hdelivered =>
    obtain ⟨hcloses, hnone, hconf, hvsync⟩ := CallerPc.beforeSync_places hbefore
    exact (inv.setCaller pc hcloses (hnone.trans hdelivered.symm) (.inl hreq) (by simp [hconf])
      (fun r n h => absurd h (hvsync r n))).quiet rfl
  | @reserved r hpc hbusy =>
    have hnext := inv.setCaller (.waitForReadout r) rfl (by rw [hpc]; rfl)
      (.inl (by rw [hpc]; rfl)) (by simp [CallerPc.configures]) (by simp)
    exact FrameInv.quiet { hnext with } rfl
  | @syncStarted r n hpc =>
    have hcleared : FrameInv accepted captures returned
        { c with sensor := { c.sensor with mGotVSync := false } } :=
      { inv with synced := fun _ _ _ h => absurd h Bool.false_ne_true }
    exact (hcleared.setCaller (.vsyncWait r n) rfl (by rw [hpc]; rfl) (.inl (by rw [hpc]; rfl))
      (by simp [CallerPc.configures]) (fun _ _ _ h => absurd h Bool.false_ne_true)).quiet rfl
  | @synced r n hpc hgot =>
    have hempty := inv.synced r n hpc hgot
    exact (inv.setCaller (.setExposureTime r) rfl (by rw [hpc]; rfl) (.inl (by rw [hpc]; rfl))
      (fun _ => hempty) (by simp)).quiet rfl
  | @exposureSet r hpc =>
    have hempty := inv.mailbox (by rw [hpc]; rfl)
    have hnext := inv.setCaller (.setFrameDuration r) rfl (by rw [hpc]; rfl)
      (.inl (by rw [hpc]; rfl)) (fun _ => hempty) (by simp)
    exact FrameInv.quiet { hnext with } rfl
  | @durationSet r hpc =>
    have hempty := inv.mailbox (by rw [hpc]; rfl)
    have hnext := inv.setCaller (.setSensitivity r) rfl (by rw [hpc]; rfl)
      (.inl (by rw [hpc]; rfl)) (fun _ => hempty) (by simp)
    exact FrameInv.quiet { hnext with } rfl
  | @sensitivitySet r hpc =>
    have hempty := inv.mailbox (by rw [hpc]; rfl)
    have hnext := inv.setCaller (.setDestinationBuffers r) rfl (by rw [hpc]; rfl)
      (.inl (by rw [hpc]; rfl)) (fun _ => hempty) (by simp)
    exact FrameInv.quiet { hnext with } rfl
  | @buffersSet r hpc => exact (inv.buffersSet hpc).quiet rfl
  | @frameNumberSet r hpc =>
    have hnext := inv.setCaller (.queueCaptureRequest r) rfl (by rw [hpc]; rfl)
      (.inl (by rw [hpc]; rfl)) (by simp [CallerPc.configures]) (by simp)
    exact FrameInv.quiet { hnext with } rfl
  | @queued r hpc => exact inv.queued hpc rfl rfl rfl hholds
  | @cached r hpc =>
    have hnext := inv.setCaller .idle rfl (by rw [hpc]; rfl) (.inr rfl)
      (by simp [CallerPc.configures]) (by simp)
    exact FrameInv.quiet { hnext with } rfl
  | shutDownFailed hpc _ => exact (CallerPc.not_closes inv.serving hpc rfl).elim
  | shutDownDone hpc _ => exact (CallerPc.not_closes inv.serving hpc rfl).elim
  | sensorCleared hpc => exact (CallerPc.not_closes inv.serving hpc rfl).elim
  | exitRequested hpc => exact (CallerPc.not_closes inv.serving hpc rfl).elim
  | joined hpc _ => exact (CallerPc.not_closes inv.serving hpc rfl).elim
  | released hpc => exact (CallerPc.not_closes inv.serving hpc rfl).elim

theorem FrameInv.setSensor (inv : FrameInv accepted captures returned c) {sensor : Sensor}
    {captures' : List Nat} (hframes : sensor.frames = c.sensor.frames)
    (hcaptured : captures' ++ sensor.uncaptured = captures ++ c.sensor.uncaptured)
    (hmailbox : sensor.mNextBuffers = none ∨
      sensor.mNextBuffers = c.sensor.mNextBuffers ∧ sensor.mGotVSync = c.sensor.mGotVSync)
    (hblocked : ∀ shot b, sensor.pc = .waitComplete shot b → sensor.mCapturedBuffers ≠ none)
    (hfree : ∀ shot b, sensor.pc ≠ .complete shot b)
    (hrunning : sensor.exitPending = c.sensor.exitPending ∧ sensor.pc ≠ .exited) :
    FrameInv accepted captures' returned { c with sensor := sensor } :=
  { inv with
    running := ⟨hrunning.1.trans inv.running.1, hrunning.2⟩
    mailbox := by
      intro h
      rcases hmailbox with hnone | ⟨hsame, -⟩
      · exact hnone
      · exact hsame.trans (inv.mailbox h)
    synced := by
      intro r n hpc hgot
      rcases hmailbox with hnone | ⟨hsame, hvsync⟩
      · exact hnone
      · exact hsame.trans (inv.synced r n hpc (hvsync ▸ hgot))
    blocked := hblocked
    free := fun shot b h => absurd h (hfree shot b)
    line := hframes.trans inv.line
    captured := hcaptured.trans inv.captured }

theorem FrameInv.sensorMove (inv : FrameInv accepted captures returned c)
    (h : SensorMove c c' es) :
    FrameInv accepted (captures ++ capturedBuffers es) returned c' := by
  cases h with
  | exit hpc hexit => simp [inv.running.1] at hexit
  | snapshot hpc hexit =>
    refine inv.setSensor ?_ ?_ (.inl rfl) (by simp) (by simp) ⟨rfl, by simp⟩
    · simp [Sensor.frames, Sensor.unpublished, Sensor.uncaptured, SensorPc.shotBuffers,
        Sensor.shot, hpc]
    · simp [capturedBuffers, Sensor.uncaptured, SensorPc.shotBuffers, Sensor.shot, hpc]
  | nothingCaptured hpc hnone =>
    refine inv.setSensor ?_ ?_ (.inr ⟨rfl, rfl⟩) (by simp) (by simp) ⟨rfl, by simp⟩
    · simp [Sensor.frames, Sensor.unpublished, Sensor.uncaptured, SensorPc.shotBuffers, hpc, hnone]
    · simp [capturedBuffers, Sensor.uncaptured, SensorPc.shotBuffers, hpc]
  | published hpc hnext hfree =>
    refine inv.setSensor ?_ ?_ (.inr ⟨rfl, rfl⟩) (by simp) (by simp) ⟨rfl, by simp⟩
    · simp [Sensor.frames, Sensor.unpublished, Sensor.uncaptured, SensorPc.shotBuffers, hpc, hnext,
        hfree]
    · simp [capturedBuffers, Sensor.uncaptured, SensorPc.shotBuffers, hpc]
  | blocked hpc hnext hfull =>
    refine inv.setSensor ?_ ?_ (.inr ⟨rfl, rfl⟩) (fun _ _ _ => hfull) (by simp) ⟨rfl, by simp⟩
    · simp [Sensor.frames, Sensor.unpublished, Sensor.uncaptured, SensorPc.shotBuffers, hpc, hnext]
    · simp [capturedBuffers, Sensor.uncaptured, SensorPc.shotBuffers, hpc]
  | @completed shot b hpc =>
    have hfree := inv.free shot b hpc
    refine inv.setSensor ?_ ?_ (.inr ⟨rfl, rfl⟩) (by simp) (by simp) ⟨rfl, by simp⟩
    · simp [Sensor.frames, Sensor.unpublished, Sensor.uncaptured, SensorPc.shotBuffers, hpc, hfree]
    · simp [capturedBuffers, Sensor.uncaptured, SensorPc.shotBuffers, hpc]
  | idleFrame hpc hnone =>
    refine inv.setSensor ?_ ?_ (.inr ⟨rfl, rfl⟩) (by simp) (by simp) ⟨rfl, by simp⟩
    · simp [Sensor.frames, Sensor.unpublished, Sensor.uncaptured, SensorPc.shotBuffers, hpc, hnone]
    · simp [capturedBuffers, Sensor.uncaptured, SensorPc.shotBuffers, hpc, hnone]
  | captured hpc hsome =>
    refine inv.setSensor ?_ ?_ (.inr ⟨rfl, rfl⟩) (by simp) (by simp) ⟨rfl, by simp⟩
    · simp [Sensor.frames, Sensor.unpublished, Sensor.uncaptured, SensorPc.shotBuffers, hpc, hsome]
    · simp [capturedBuffers, Sensor.uncaptured, SensorPc.shotBuffers, hpc, hsome]

theorem FrameInv.setReadout (inv : FrameInv accepted captures returned c) {readout : Readout}
    {jpeg : Jpeg} {status : CameraStatus}
    (hrequests : readout.awaited ++ readout.mInFlightQueue =
      c.readout.awaited ++ c.readout.mInFlightQueue)
    (hholds : readout.Holds) :
    FrameInv accepted captures returned
      { c with readout := readout, jpeg := jpeg, mStatus := status } :=
  { inv with
    holds := hholds
    requests := by
      rw [List.append_assoc, hrequests, ← List.append_assoc]
      exact inv.requests
    line := by
      rw [hrequests]
      exact inv.line }

theorem FrameInv.frameTaken (inv : FrameInv accepted captures returned c) {b : Nat}
    (hpc : c.readout.pc = .waitForNewFrame ∨ c.readout.pc = .waitFrame)
    (hframe : c.sensor.mCapturedBuffers = some b) :
    FrameInv accepted captures (returned ++ [(b, c.readout.mCurrentRequest)])
      (takeFrame c b).1 := by
  obtain ⟨r, hcur⟩ := Option.ne_none_iff_exists'.mp (inv.holds.holding hpc)
  have hawaited : c.readout.awaited = [r] := by
    rcases hpc with hpc | hpc <;> simp [Readout.awaited, hpc, hcur]
  have hline := inv.line
  rw [Sensor.frames, hframe, hawaited] at hline
  simp only [Option.toList_some, List.cons_append, List.nil_append, List.map_cons,
    List.cons.injEq] at hline
  obtain ⟨hb, hrest⟩ := hline
  have hplace : (takeFrame c b).1.sensor.unpublished = c.sensor.unpublished ∧
      (takeFrame c b).1.sensor.uncaptured = c.sensor.uncaptured := by
    cases hs : c.sensor.pc <;>
      simp [takeFrame, Sensor.unpublished, Sensor.uncaptured, SensorPc.shotBuffers, hs]
  have hnone : (takeFrame c b).1.readout.awaited = [] := rfl
  constructor
  · exact inv.serving
  · refine ⟨inv.running.1, ?_⟩
    cases hs : c.sensor.pc <;> simp [takeFrame, hs]
    exact absurd hs inv.running.2
  · exact inv.mailbox
  · exact inv.synced
  · intro shot b' h
    cases hs : c.sensor.pc <;> simp [takeFrame, hs] at h
  · intro shot b' h
    rfl
  · exact ⟨by simp [takeFrame], by simp [takeFrame]⟩
  · intro b' held h
    rcases List.mem_append.mp h with h | h
    · exact inv.paired b' held h
    · obtain ⟨rfl, rfl⟩ := Prod.mk.inj (List.mem_singleton.mp h)
      exact ⟨r, hcur, hb.symm⟩
  · rw [hnone, ← inv.requests, hawaited, hcur]
    simp [takeFrame]
  · rw [Sensor.frames, hplace.1, hplace.2, hnone]
    exact hrest
  · rw [hplace.2]
    exact inv.captured
  · exact inv.fresh
  · exact inv.bounded

theorem FrameInv.readoutMove (inv : FrameInv accepted captures returned c) {res : WaitResult}
    (h : ReadoutMove c res c' es) :
    FrameInv accepted captures (returned ++ returnedFrames es) c' := by
  have hholds := inv.holds.readoutMove h
  have hquiet : returnedFrames es = [] → FrameInv accepted captures returned c' →
      FrameInv accepted captures (returned ++ returnedFrames es) c' := by
    intro hes hinv
    rw [hes, List.append_nil]
    exact hinv
  cases h with
  | exit hpc hexit =>
    exact hquiet rfl (inv.setReadout (by simp [Readout.awaited, hpc]) hholds)
  | resume hpc hexit hcur =>
    exact hquiet rfl (inv.setReadout (by simp [Readout.awaited, hpc]) hholds)
  | waits hpc hexit hcur hqueue =>
    exact hquiet rfl (inv.setReadout (by simp [Readout.awaited, hpc]) hholds)
  | takes hplace hqueue =>
    have hawaited : c.readout.awaited = [] := by
      rcases hplace with ⟨hpc, -, hcur⟩ | hpc
      · simp [Readout.awaited, hpc, hcur]
      · simp [Readout.awaited, hpc, inv.holds.unheld (.inr hpc)]
    exact hquiet rfl (inv.setReadout (by rw [hawaited, hqueue]; rfl) hholds)
  | waitTimedOut hpc =>
    exact hquiet rfl (inv.setReadout (by simp [Readout.awaited, hpc]) hholds)
  | waitFailed hpc hfail =>
    exact hquiet rfl (inv.setReadout (by simp [Readout.awaited, hpc]) hholds)
  | sensorMissing hpc hsensor =>
    exact hquiet rfl (inv.setReadout (by simp [Readout.awaited, hpc]) hholds)
  | noFrame hpc hsensor hframe =>
    exact hquiet rfl (inv.setReadout (by simp [Readout.awaited, hpc]) hholds)
  | @frame b es' hplace hframe =>
    have hpc : c.readout.pc = .waitForNewFrame ∨ c.readout.pc = .waitFrame :=
      hplace.imp And.left And.left
    have hes : returnedFrames (es' ++ (takeFrame c b).2) = [(b, c.readout.mCurrentRequest)] := by
      rcases hplace with ⟨-, -, rfl⟩ | ⟨-, rfl⟩ <;> rfl
    rw [hes]
    exact inv.frameTaken hpc hframe
  | frameTimedOut hpc =>
    exact hquiet rfl (inv.setReadout (by simp [Readout.awaited, hpc]) hholds)
  | jpegRefused hpc hjpeg hrefused =>
    exact hquiet rfl (inv.setReadout (by simp [Readout.awaited, hpc]) hholds)
  | jpegOffered hpc hjpeg hwaiting hbusy =>
    exact hquiet rfl (inv.setReadout (by simp [Readout.awaited, hpc]) hholds)
  | bufferDone hpc hjpeg =>
    exact hquiet rfl (inv.setReadout (by simp [Readout.awaited, hpc]) hholds)
  | jpegStarted hpc hres hidle =>
    exact hquiet rfl (inv.setReadout (by simp [Readout.awaited, hpc]) hholds)
  | jpegStartFailed hpc hres =>
    refine hquiet ?_ (inv.setReadout (by simp [Readout.awaited, hpc]) hholds)
    cases c.jpeg.mBuffers <;> rfl
  | wentIdle hpc hqueue =>
    exact hquiet rfl (inv.setReadout (by simp [Readout.awaited, hpc]) hholds)
  | moreQueued hpc hqueue =>
    exact hquiet rfl (inv.setReadout (by simp [Readout.awaited, hpc]) hholds)
  | idleSignalled hpc hlock =>
    exact hquiet rfl (inv.setReadout (by simp [Readout.awaited, hpc]) hholds)
  | sent hpc hcur =>
    refine hquiet ?_ (inv.setReadout (by simp [Readout.awaited, hpc]) hholds)
    split
    · rfl
    · cases c.readout.sensorBuffers <;> rfl

end Moves

theorem EnterMove.views {c c' : Camera} {action : Action} {es : List Event}
    (h : EnterMove c action c' es) :
    acceptedRequests es = [] ∧ capturedBuffers es = [] ∧ returnedFrames es = [] := by
  cases h <;> exact ⟨rfl, rfl, rfl⟩

theorem views_deletes (blocks : List Nat) :
    acceptedRequests (blocks.map .delete) = [] ∧ capturedBuffers (blocks.map .delete) = [] ∧
      returnedFrames (blocks.map .delete) = [] := by
  induction blocks with
  | nil => exact ⟨rfl, rfl, rfl⟩
  | cons b blocks ih => exact ih

theorem CallerMove.views {c c' : Camera} {res : WaitResult} {es : List Event}
    (h : CallerMove c res c' es) : capturedBuffers es = [] ∧ returnedFrames es = [] := by
  cases h with
  | released hpc =>
    have hdel : c.readout.mInFlightQueue.flatMap
        (fun r => [Event.delete r.buffers, .delete r.sensorBuffers]) =
        (c.readout.mInFlightQueue.flatMap fun r => [r.buffers, r.sensorBuffers]).map .delete := by
      simp [List.map_flatMap]
    obtain ⟨-, hcap, hret⟩ := views_deletes
      (c.readout.mInFlightQueue.flatMap fun r => [r.buffers, r.sensorBuffers])
    rw [hdel, capturedBuffers_append, returnedFrames_append, hcap, hret]
    exact ⟨rfl, rfl⟩
  | _ => exact ⟨rfl, rfl⟩

theorem SensorMove.views {c c' : Camera} {es : List Event} (h : SensorMove c c' es) :
    acceptedRequests es = [] ∧ returnedFrames es = [] := by
  cases h <;> exact ⟨rfl, rfl⟩

theorem ReadoutMove.views {c c' : Camera} {res : WaitResult} {es : List Event}
    (h : ReadoutMove c res c' es) : acceptedRequests es = [] ∧ capturedBuffers es = [] := by
  cases h with
  | frame hplace hframe => rcases hplace with ⟨-, -, rfl⟩ | ⟨-, rfl⟩ <;> exact ⟨rfl, rfl⟩
  | jpegStartFailed hpc hres => cases c.jpeg.mBuffers <;> exact ⟨rfl, rfl⟩
  | sent hpc hcur =>
    split
    · exact ⟨rfl, rfl⟩
    · cases c.readout.sensorBuffers <;> exact ⟨rfl, rfl⟩
  | _ => exact ⟨rfl, rfl⟩

theorem JpegMove.views {c c' : Camera} {es : List Event} (h : JpegMove c c' es) :
    acceptedRequests es = [] ∧ capturedBuffers es = [] ∧ returnedFrames es = [] := by
  cases h with
  | cleaned hpc => cases c.jpeg.mBuffers <;> exact ⟨rfl, rfl, rfl⟩
  | _ => exact ⟨rfl, rfl, rfl⟩

theorem FrameInv.step {tr es : List Event} {c c' : Camera} {action : Action}
    (inv : FrameInv (acceptedRequests tr) (capturedBuffers tr) (returnedFrames tr) c)
    (hopen : StaysOpen c action) (h : cameraStep c action = some (c', es)) :
    FrameInv (acceptedRequests (tr ++ es)) (capturedBuffers (tr ++ es))
      (returnedFrames (tr ++ es)) c' := by
  rw [acceptedRequests_append, capturedBuffers_append, returnedFrames_append]
  rcases cameraStep_moves h with hm | ⟨res, -, hm⟩ | ⟨-, hm⟩ | ⟨res, -, hm⟩ | hm
  · obtain ⟨hacc, hcap, hret⟩ := hm.views
    simpa only [hacc, hcap, hret, List.append_nil] using inv.enterMove hopen hm
  · obtain ⟨hcap, hret⟩ := hm.views
    simpa only [hcap, hret, List.append_nil] using inv.callerMove hm
  · obtain ⟨hacc, hret⟩ := hm.views
    simpa only [hacc, hret, List.append_nil] using inv.sensorMove hm
  · obtain ⟨hacc, hcap⟩ := hm.views
    simpa only [hacc, hcap, List.append_nil] using inv.readoutMove hm
  · obtain ⟨hacc, hcap, hret⟩ := hm.views
    simpa only [hacc, hcap, hret, List.append_nil] using inv.jpegMove hm

theorem frameInv_of_run {c₀ c : Camera} {tr : List Event} (h₀ : AtRest c₀)
    (run : camera.Run StaysOpen c₀ tr c) :
    FrameInv (acceptedRequests tr) (capturedBuffers tr) (returnedFrames tr) c :=
  run.invariant
    (P := fun tr c =>
      FrameInv (acceptedRequests tr) (capturedBuffers tr) (returnedFrames tr) c)
    (frameInv_atRest h₀) fun inv hopen h => inv.step hopen h

theorem FrameInv.sensorStep_or_behind {accepted : List Request} {captures : List Nat}
    {returned : List (Nat × Option Request)} {c : Camera}
    (inv : FrameInv accepted captures returned c) :
    (sensorStep c).isSome = true ∨ ∃ r ∈ c.readout.awaited ++ c.readout.mInFlightQueue ++
      c.caller.delivered.toList, c.sensor.mCapturedBuffers = some r.sensorBuffers := by
  cases hpc : c.sensor.pc with
  | waitComplete shot b =>
    obtain ⟨b', hb'⟩ := Option.ne_none_iff_exists'.mp (inv.blocked shot b hpc)
    have hmem : b' ∈ (c.readout.awaited ++ c.readout.mInFlightQueue ++
        c.caller.delivered.toList).map Request.sensorBuffers := by
      rw [← inv.line, Sensor.frames, hb']
      simp
    obtain ⟨r, hr, rfl⟩ := List.mem_map.mp hmem
    exact .inr ⟨r, hr, hb'⟩
  | exited => exact absurd hpc inv.running.2
  | readout shot =>
    left
    simp only [sensorStep, hpc]
    cases c.sensor.mNextCapturedBuffers with
    | none => rfl
    | some b => by_cases h : c.sensor.mCapturedBuffers = none <;> simp [h]
  | top =>
    left
    simp [sensorStep, hpc, inv.running.1]
  | complete shot b =>
    left
    simp [sensorStep, hpc]
  | capture shot =>
    left
    simp [sensorStep, hpc]

theorem filterMap_snd_getElem? {l : List (Nat × Option Request)}
    (h : ∀ b held, (b, held) ∈ l → ∃ r, held = some r ∧ r.sensorBuffers = b) (k : Nat) :
    (l.filterMap Prod.snd)[k]? = l[k]?.bind Prod.snd := by
  induction l generalizing k with
  | nil => simp
  | cons p l ih =>
    obtain ⟨b, held⟩ := p
    obtain ⟨r, rfl, -⟩ := h b held (by simp)
    cases k with
    | zero => simp
    | succ k => simpa using ih (fun b held hmem => h b held (by simp [hmem])) k

theorem map_fst_eq {l : List (Nat × Option Request)}
    (h : ∀ b held, (b, held) ∈ l → ∃ r, held = some r ∧ r.sensorBuffers = b) :
    l.map Prod.fst = (l.filterMap Prod.snd).map Request.sensorBuffers := by
  induction l with
  | nil => rfl
  | cons p l ih =>
    obtain ⟨b, held⟩ := p
    obtain ⟨r, rfl, rfl⟩ := h b held (by simp)
    simpa using ih fun b held hmem => h b held (by simp [hmem])

/-- The frames of the requests accepted, between the framework's thread, the sensor and the
readout thread. -/
structure FramesInOrder (tr : List Event) (c : Camera) : Prop where
  not_overwritten : ∀ r, c.caller = .setDestinationBuffers r → c.sensor.mNextBuffers = none
  captured_once : capturedBuffers tr ++ c.sensor.uncaptured =
    (acceptedRequests tr ++ c.caller.delivered.toList).map Request.sensorBuffers
  nodup : ((acceptedRequests tr ++ c.caller.delivered.toList).map Request.sensorBuffers).Nodup
  not_lost : (returnedFrames tr).map Prod.fst ++ c.sensor.frames =
    (acceptedRequests tr ++ c.caller.delivered.toList).map Request.sensorBuffers
  sensor_runs : (sensorStep c).isSome = true ∨ ∃ r ∈ c.readout.awaited ++
    c.readout.mInFlightQueue ++ c.caller.delivered.toList,
      c.sensor.mCapturedBuffers = some r.sensorBuffers
  in_order : ∀ (k : Nat) b held, (returnedFrames tr)[k]? = some (b, held) →
    ∃ r : Request, (acceptedRequests tr)[k]? = some r ∧ held = some r ∧ r.sensorBuffers = b

theorem CallerPc.delivered_sublist (pc : CallerPc) :
    pc.delivered.toList.Sublist pc.request.toList := by
  cases pc <;> simp [CallerPc.delivered, CallerPc.request]

theorem FrameInv.inOrder {tr : List Event} {c : Camera}
    (inv : FrameInv (acceptedRequests tr) (capturedBuffers tr) (returnedFrames tr) c) :
    FramesInOrder tr c where
  not_overwritten := fun r hpc => inv.mailbox (by rw [hpc]; rfl)
  captured_once := inv.captured
  nodup := by
    have hsub := (c.caller.delivered_sublist.append_left (acceptedRequests tr)).map
      Request.sensorBuffers
    exact (inv.fresh.sublist hsub).imp Nat.ne_of_lt
  not_lost := by
    rw [inv.line, map_fst_eq inv.paired, ← List.map_append, ← inv.requests]
    simp only [List.append_assoc]
  sensor_runs := inv.sensorStep_or_behind
  in_order := by
    intro k b held hk
    obtain ⟨r, rfl, hb⟩ := inv.paired b held (List.mem_of_getElem? hk)
    refine ⟨r, ?_, rfl, hb⟩
    have hserved := filterMap_snd_getElem? inv.paired k
    rw [hk] at hserved
    rw [← inv.requests, List.append_assoc]
    exact (List.getElem?_append_left (List.getElem?_eq_some_iff.mp hserved).1).trans hserved

/-- Whatever the interleaving, no buffers are overwritten, captured twice or lost, and the frames
come back in the order of the requests. -/
theorem frames_in_order {c₀ c : Camera} {tr : List Event} (h₀ : AtRest c₀)
    (run : camera.Run StaysOpen c₀ tr c) : FramesInOrder tr c :=
  (frameInv_of_run h₀ run).inOrder

def secondRequest : CaptureRequest := { twoBufferRequest with frameNumber := 2 }

def twoFramesRun : List Action :=
  previewRun ++ [Action.processCaptureRequest (some secondRequest) {} {}] ++
    List.replicate 2 (Action.caller .ok) ++ List.replicate 2 Action.sensor ++
    List.replicate 8 (Action.caller .ok) ++ List.replicate 7 Action.sensor ++
    List.replicate 6 (Action.readout .ok)

theorem frames_in_order_preview : ∃ tr c, camera.Run StaysOpen previewCamera tr c ∧
    (returnedFrames tr).map Prod.fst = [0, 2] ∧ FramesInOrder tr c := by
  obtain ⟨tr, c, run, hframes⟩ := camera.run_of_exec StaysOpen previewCamera twoFramesRun
    (fun _ tr => (returnedFrames tr).map Prod.fst = [0, 2]) (by decide +kernel)
  exact ⟨tr, c, run, hframes, frames_in_order previewCamera_atRest run⟩

end Rpi3Device.Camera3
