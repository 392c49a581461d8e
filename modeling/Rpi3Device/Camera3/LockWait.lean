import Mathlib.Tactic
import Rpi3Device.Camera3.PipelineSteps

/-!
# Waiting with the camera lock held

`processCaptureRequest` waits for the compressor and for room in the queue while it
holds `mLock`. The readout thread takes the same lock in `signalReadoutIdle`, before
it sends the result it has. It goes there when the queue is empty, so the call that
is running at that moment gets through; the next ones get the lock before the readout
thread only by chance, and wait for a thread that waits for them.
-/

namespace Rpi3Device.Camera3
open TransitionSystem

def ReadoutPc.signalsIdle : ReadoutPc → Bool
  | .signalIdle _ _ => true
  | _ => false

def JpegPc.running : JpegPc → Bool
  | .compress => true
  | .notify _ => true
  | .cleanUp => true
  | _ => false

def Request.hasJpeg (streams : Nat → Stream) (r : Request) : Bool :=
  r.prepared.buffers.any (isJpeg streams)

def JpegAwaitsReadout (c : Camera) : Prop :=
  c.jpeg.mIsBusy = true ∧ c.jpeg.pc.running = false ∧
    ∃ r ∈ c.readout.mInFlightQueue, r.hasJpeg c.table.streams = true

instance (c : Camera) : Decidable (JpegAwaitsReadout c) :=
  inferInstanceAs (Decidable (_ ∧ _ ∧ _))

def CallerPc.inWaitForReadout : CallerPc → Bool
  | .queueFull _ _ => true
  | _ => false

def CallerPc.inWaitForDone : CallerPc → Bool
  | .waitForDone _ waiting => waiting
  | _ => false

/-- The readout thread waits for `mLock`, and the call that holds it waits for something only the
readout thread can bring about. -/
def CircularWait (c : Camera) : Prop :=
  c.readout.pc.signalsIdle = true ∧
    (c.caller.inWaitForReadout = true ∧ kMaxQueueSize ≤ c.readout.mInFlightQueue.length ∨
      c.caller.inWaitForDone = true ∧ JpegAwaitsReadout c)

instance (c : Camera) : Decidable (CircularWait c) :=
  inferInstanceAs (Decidable (_ ∧ (_ ∨ _)))

/-- A call that will get as far as its waits is not granted `mLock` while the readout thread waits
for the lock and the queue is full, or holds the JPEG it would have to wait for. -/
def GrantsLock (c : Camera) : Action → Prop
  | .processCaptureRequest request fake o =>
    c.readout.pc.signalsIdle = true →
      ∀ p ∈ (beginRequest c.table c.mStatus request fake o).result.toOption,
        c.readout.mInFlightQueue.length < kMaxQueueSize ∧
          (p.needJpeg = true → ¬ JpegAwaitsReadout c)
  | _ => True

instance (c : Camera) (action : Action) : Decidable (GrantsLock c action) :=
  match action with
  | .processCaptureRequest request fake o =>
    inferInstanceAs (Decidable (_ → ∀ p ∈
      (beginRequest c.table c.mStatus request fake o).result.toOption, _ ∧ _))
  | .closeCamera => .isTrue trivial
  | .caller _ => .isTrue trivial
  | .sensor => .isTrue trivial
  | .readout _ => .isTrue trivial
  | .jpeg _ => .isTrue trivial

structure LockInv (c : Camera) : Prop where
  room : c.readout.pc.signalsIdle = true → c.caller.request ≠ none →
    c.readout.mInFlightQueue.length < kMaxQueueSize
  done : c.readout.pc.signalsIdle = true → c.caller.request ≠ none →
    c.caller.pastReserve = none → ¬ JpegAwaitsReadout c

theorem lockInv_of_no_request {c : Camera} (h : c.caller.request = none) : LockInv c :=
  ⟨fun _ hr => absurd h hr, fun _ hr => absurd h hr⟩

theorem lockInv_of_not_signalling {c : Camera} (h : c.readout.pc.signalsIdle = false) :
    LockInv c :=
  ⟨fun hs => by simp [h] at hs, fun hs => by simp [h] at hs⟩

theorem LockInv.not_circularWait {c : Camera} (inv : LockInv c) : ¬ CircularWait c := by
  intro h
  obtain ⟨hsignals, ⟨hwaits, hfull⟩ | ⟨hwaits, hjpeg⟩⟩ := h
  · have hreq : c.caller.request ≠ none := by
      cases hpc : c.caller <;> simp [hpc, CallerPc.inWaitForReadout] at hwaits
      simp [CallerPc.request]
    exact absurd (inv.room hsignals hreq) (Nat.not_lt.mpr hfull)
  · have hplace : c.caller.request ≠ none ∧ c.caller.pastReserve = none := by
      cases hpc : c.caller <;> simp [hpc, CallerPc.inWaitForDone] at hwaits
      simp [CallerPc.request, CallerPc.pastReserve]
    exact inv.done hsignals hplace.1 hplace.2 hjpeg

theorem startRequest_streams (t : StreamTable) (r : CaptureRequest) (fake : Fake3A)
    (o : BufferOutcomes) : (startRequest t r fake o).table.streams = t.streams := by
  simp only [startRequest]
  split
  · split <;> exact takeSettings_streams t r
  · exact takeSettings_streams t r

theorem beginRequest_streams (t : StreamTable) (mStatus : CameraStatus)
    (request : Option CaptureRequest) (fake : Fake3A) (o : BufferOutcomes) :
    (beginRequest t mStatus request fake o).table.streams = t.streams := by
  cases request with
  | none => rfl
  | some r =>
    simp only [beginRequest]
    split
    · exact startRequest_streams t r fake o
    · rfl

section Moves
variable {c c' : Camera} {es : List Event}

theorem LockInv.enterMove {action : Action} (hok : GrantsLock c action)
    (h : EnterMove c action c' es) : LockInv c' := by
  cases h with
  | rejected hidle hb hres halloc => exact lockInv_of_no_request (by simp [hidle, CallerPc.request])
  | lockFailed hidle hb hres halloc =>
    exact lockInv_of_no_request (by simp [hidle, CallerPc.request])
  | @prepared request fake o b p r pc hidle hb hres hr hpc =>
    subst hb
    have hgrant := fun hs => hok hs p (by rw [hres]; rfl)
    refine ⟨fun hs _ => (hgrant hs).1, fun hs _ hpast => ?_⟩
    have hjpeg : p.needJpeg = true := by
      by_contra hno
      rw [hpc, if_neg hno] at hpast
      simp [CallerPc.pastReserve] at hpast
    simpa only [JpegAwaitsReadout, beginRequest_streams] using (hgrant hs).2 hjpeg
  | alreadyClosed hidle hclosed => exact lockInv_of_no_request (by simp [hidle, CallerPc.request])
  | closing hidle hclosed => exact lockInv_of_no_request rfl

theorem LockInv.callerMove (inv : LockInv c) {res : WaitResult} (h : CallerMove c res c' es) :
    LockInv c' := by
  have hpast : ∀ {pc : CallerPc} {r : Request}, c.caller = pc → pc.request = some r →
      c.readout.pc.signalsIdle = true → c.readout.mInFlightQueue.length < kMaxQueueSize :=
    fun hpc hr hs => inv.room hs (by simp [hpc, hr])
  cases h with
  | failed hfail => exact lockInv_of_no_request rfl
  | waits hbefore hreq hreserve hdelivered =>
    exact ⟨fun hs hr => inv.room hs (by rwa [← hreq]),
      fun hs hr hp => inv.done hs (by rwa [← hreq]) (by rwa [← hreserve])⟩
  | reserved hpc hbusy => exact ⟨fun hs _ => hpast hpc rfl hs, by simp [CallerPc.pastReserve]⟩
  | syncStarted hpc => exact ⟨fun hs _ => hpast hpc rfl hs, by simp [CallerPc.pastReserve]⟩
  | synced hpc hgot => exact ⟨fun hs _ => hpast hpc rfl hs, by simp [CallerPc.pastReserve]⟩
  | exposureSet hpc => exact ⟨fun hs _ => hpast hpc rfl hs, by simp [CallerPc.pastReserve]⟩
  | durationSet hpc => exact ⟨fun hs _ => hpast hpc rfl hs, by simp [CallerPc.pastReserve]⟩
  | sensitivitySet hpc => exact ⟨fun hs _ => hpast hpc rfl hs, by simp [CallerPc.pastReserve]⟩
  | buffersSet hpc => exact ⟨fun hs _ => hpast hpc rfl hs, by simp [CallerPc.pastReserve]⟩
  | frameNumberSet hpc => exact ⟨fun hs _ => hpast hpc rfl hs, by simp [CallerPc.pastReserve]⟩
  | queued hpc => exact lockInv_of_no_request rfl
  | cached hpc => exact lockInv_of_no_request rfl
  | shutDownFailed hpc _ => exact lockInv_of_no_request rfl
  | shutDownDone hpc _ => exact lockInv_of_no_request rfl
  | sensorCleared hpc => exact lockInv_of_no_request rfl
  | exitRequested hpc => exact lockInv_of_no_request rfl
  | joined hpc _ => exact lockInv_of_no_request rfl
  | released hpc => exact lockInv_of_no_request rfl

theorem LockInv.sensorMove (inv : LockInv c) (h : SensorMove c c' es) : LockInv c' := by
  cases h <;> exact ⟨inv.room, inv.done⟩

theorem LockInv.readoutMove {res : WaitResult} (h : ReadoutMove c res c' es) : LockInv c' := by
  cases h with
  | wentIdle hpc hqueue =>
    refine ⟨fun _ _ => by simp [hqueue, kMaxQueueSize], fun _ _ _ => ?_⟩
    intro hparts
    obtain ⟨-, -, r, hr, -⟩ := hparts
    simp [hqueue] at hr
  | _ => exact lockInv_of_not_signalling rfl

theorem LockInv.jpegMove (inv : LockInv c) (h : JpegMove c c' es) : LockInv c' := by
  cases h with
  | compressed hpc hbuffers =>
    exact ⟨inv.room, fun _ _ _ hw => by simp [JpegAwaitsReadout, JpegPc.running] at hw⟩
  | notified hpc hreadout hb =>
    exact ⟨inv.room, fun _ _ _ hw => by simp [JpegAwaitsReadout, JpegPc.running] at hw⟩
  | cleaned hpc => exact ⟨inv.room, fun _ _ _ hw => by simp [JpegAwaitsReadout] at hw⟩
  | exited hpc =>
    refine ⟨inv.room, fun hs hr hp hw => inv.done hs hr hp ⟨hw.1, ?_, hw.2.2⟩⟩
    rw [hpc]
    rfl

end Moves

theorem lockInv_step {c c' : Camera} {action : Action} {es : List Event} (inv : LockInv c)
    (hok : GrantsLock c action) (h : cameraStep c action = some (c', es)) : LockInv c' := by
  rcases cameraStep_moves h with hm | ⟨res, -, hm⟩ | ⟨-, hm⟩ | ⟨res, -, hm⟩ | hm
  · exact LockInv.enterMove hok hm
  · exact inv.callerMove hm
  · exact inv.sensorMove hm
  · exact LockInv.readoutMove hm
  · exact inv.jpegMove hm

/-- In every run whose calls are granted the lock that way, no state has a circular wait. -/
theorem no_circular_wait {c₀ c : Camera} {tr : List Event} (h₀ : AtRest c₀)
    (run : camera.Run GrantsLock c₀ tr c) : ¬ CircularWait c := by
  have hinit : LockInv c₀ := lockInv_of_no_request (by simp [h₀.caller, CallerPc.request])
  have hinv := run.invariant (P := fun _ c => LockInv c) hinit fun inv hok h =>
    lockInv_step inv hok h
  exact hinv.not_circularWait

theorem no_circular_wait_nextRequest : ∃ tr c, camera.Run GrantsLock previewCamera tr c ∧
    (c.readout.pc.signalsIdle = true ∧ c.caller.request.isSome = true) ∧ ¬ CircularWait c := by
  obtain ⟨tr, c, run, hplace⟩ := camera.run_of_exec GrantsLock previewCamera
    (previewRun ++ List.replicate 3 (Action.readout .ok) ++
      [Action.processCaptureRequest (some twoBufferRequest) {} {}])
    (fun c _ => c.readout.pc.signalsIdle = true ∧ c.caller.request.isSome = true)
    (by decide +kernel)
  exact ⟨tr, c, run, hplace, no_circular_wait previewCamera_atRest run⟩

/-- Three more requests are granted the lock before the readout thread, which has gone idle after
the first: the last of them waits for room in the queue. -/
theorem requests_overtake_idle_signal :
    ¬ ∀ {c₀ c : Camera} {tr : List Event}, AtRest c₀ → camera.Run StaysOpen c₀ tr c →
      ¬ CircularWait c := by
  intro h
  obtain ⟨tr, c, run, hcircular⟩ := camera.run_of_exec StaysOpen previewCamera
    (previewRun ++ List.replicate 3 (Action.readout .ok) ++
      [Action.processCaptureRequest (some twoBufferRequest) {} {}] ++
      List.replicate 2 (Action.caller .ok) ++ List.replicate 2 Action.sensor ++
      List.replicate 8 (Action.caller .ok) ++
      [Action.processCaptureRequest (some twoBufferRequest) {} {}] ++
      List.replicate 2 (Action.caller .ok) ++ List.replicate 3 Action.sensor ++
      List.replicate 8 (Action.caller .ok) ++
      [Action.processCaptureRequest (some twoBufferRequest) {} {}, .caller .ok])
    (fun c _ => CircularWait c) (by decide +kernel)
  exact h previewCamera_atRest run hcircular

end Rpi3Device.Camera3
