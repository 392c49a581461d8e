import Mathlib.Tactic
import Rpi3Device.Camera2.ControlThread

/-!
# The AE lock of the control thread

A request that unlocks AE resets `mAeState` under the lock, but an iteration that
took its snapshot before still writes LOCKED afterwards. Nothing leaves that state
while AE is unlocked. As long as LOCKED is only written while `mAeLock` is set, a
LOCKED state means a set lock.
-/

namespace Rpi3Device.Camera2
open Camera3 TransitionSystem

def ControlPlace.writesLocked : ControlPlace → Bool
  | .writeAe l => l.aeState = .locked
  | _ => false

def ControlAction.isWriteAe : ControlAction → Bool
  | .writeAe => true
  | _ => false

/-- The thread writes LOCKED only while the lock is still, or again, set. -/
def lockKept (s : ControlState) (a : ControlAction) : Prop :=
  a.isWriteAe = true → s.place.writesLocked = true → s.fields.mAeLock = true

instance (s : ControlState) (a : ControlAction) : Decidable (lockKept s a) :=
  inferInstanceAs (Decidable (_ = true → _ = true → _ = true))

structure AeLocalsFit (aeLock : Bool) (aeState : AeState) : Prop where
  used : aeState ≠ .flashRequired
  unlocked : aeLock = false → aeState ≠ .locked

section Stages
variable {aeLock : Bool} {aeState : AeState} (rand : ControlRand) (p : ScanFields)

theorem processPrecaptureTrigger_fits (aeMode : AeMode) (h : AeLocalsFit aeLock aeState) :
    AeLocalsFit aeLock (processPrecaptureTrigger rand p aeMode aeState).1 := by
  unfold processPrecaptureTrigger
  split_ifs
  · exact ⟨by simp, by simp⟩
  · exact h

theorem maybeStartAeScan_fits (aeMode : AeMode) (h : AeLocalsFit aeLock aeState) :
    AeLocalsFit aeLock (maybeStartAeScan rand p aeMode aeLock aeState).1 := by
  unfold maybeStartAeScan
  split_ifs
  · exact h
  · exact ⟨by simp, by simp⟩
  · exact h

theorem updateAeScan_fits (maxSleep exposureTime : Int) (h : AeLocalsFit aeLock aeState) :
    AeLocalsFit aeLock (updateAeScan rand p aeLock aeState maxSleep exposureTime).1 := by
  unfold updateAeScan
  split_ifs with hlocked hscanning hdone hlock
  · exact ⟨by simp, by simp [hlocked.1]⟩
  · exact ⟨by simp, by simp [hlock]⟩
  · exact ⟨by simp, by simp⟩
  · exact h
  · exact h

theorem exposeStage_fits {l : ControlLocals} (exposureTime : Int)
    (h : AeLocalsFit l.aeLock l.aeState) :
    AeLocalsFit (exposeStage rand p l exposureTime).1.aeLock
      (exposeStage rand p l exposureTime).1.aeState := by
  have hprecapture : AeLocalsFit l.aeLock (if l.precaptureTriggered = true then
      processPrecaptureTrigger rand p l.aeMode l.aeState else (l.aeState, p)).1 := by
    split_ifs
    · exact processPrecaptureTrigger_fits rand p _ h
    · exact h
  exact updateAeScan_fits rand _ _ _ (maybeStartAeScan_fits rand _ _ hprecapture)

end Stages

def AeLocals (mAeState : AeState) : ControlPlace → Prop
  | .top => True
  | .resetAf l | .focus l | .expose l | .writeAe l => AeLocalsFit l.aeLock l.aeState
  | .asleep l => l.aeLock = false → mAeState ≠ .locked

structure AeLockInv (s : ControlState) : Prop where
  used : s.fields.mAeState ≠ .flashRequired
  lock : s.fields.mAeState = .locked → s.fields.mAeLock = true
  locals : AeLocals s.fields.mAeState s.place

theorem AeLocals.noteLock {mAeState mAeState' : AeState} {place : ControlPlace} (aeLock : Bool)
    (h : AeLocals mAeState place) (hstate : mAeState' = .inactive ∨ mAeState' = mAeState) :
    AeLocals mAeState' (place.noteLock aeLock) := by
  cases place with
  | asleep l =>
    intro hunlocked
    rcases hstate with rfl | rfl
    · decide
    · exact h hunlocked
  | _ => exact h

theorem processRequest_ae (c : ControlFields) (request : CameraMetadata) (stale : UInt8) :
    (c.processRequest request stale).2.2.mAeState = .inactive ∨
      (c.processRequest request stale).2.2.mAeState = c.mAeState ∧
        (c.mAeLock = true → (c.processRequest request stale).2.2.mAeLock = true) := by
  unfold ControlFields.processRequest
  by_cases hoff : (controlModeOf request).getD .off = .off
  · rw [if_pos hoff]
    exact .inl rfl
  · rw [if_neg hoff]
    have hfields : ∀ c' : ControlFields, c'.mAeLock = c.mAeLock → c'.mAeState = c.mAeState →
        ∀ aeLock : Bool,
          (if c'.mAeLock = true ∧ aeLock = false then AeState.inactive else c'.mAeState) =
              .inactive ∨
            (if c'.mAeLock = true ∧ aeLock = false then AeState.inactive else c'.mAeState) =
              c.mAeState ∧ (c.mAeLock = true → aeLock = true) := by
      intro c' hlock hstate aeLock
      split_ifs with hunlock
      · exact .inl rfl
      · rw [hlock] at hunlock
        exact .inr ⟨hstate, fun hset => by simpa [hset] using hunlock⟩
    refine hfields _ ?_ ?_ _
    · split_ifs <;> rfl
    · split_ifs <;> rfl

theorem triggerAction_ae (c : ControlFields) (ext1 : Int32) (type : TriggerType) :
    (c.triggerAction ext1 type).2.mAeState = c.mAeState ∧
      (c.triggerAction ext1 type).2.mAeLock = c.mAeLock := by
  cases type <;> exact ⟨rfl, rfl⟩

theorem updateAfState_ae (c : ControlFields) (newState : AfState) (triggerId : Int32) :
    (c.updateAfState newState triggerId).1.mAeState = c.mAeState ∧
      (c.updateAfState newState triggerId).1.mAeLock = c.mAeLock := by
  unfold ControlFields.updateAfState
  split_ifs <;> exact ⟨rfl, rfl⟩

theorem updateAeState_ae (c : ControlFields) (newState : AeState) (triggerId : Int32) :
    (c.updateAeState newState triggerId).1.mAeState = newState ∧
      (c.updateAeState newState triggerId).1.mAeLock = c.mAeLock := by
  unfold ControlFields.updateAeState
  split_ifs with h
  · exact ⟨rfl, rfl⟩
  · exact ⟨not_not.mp h, rfl⟩

theorem AeLockInv.snapshotFits {c : ControlFields} {p : ScanFields} {place : ControlPlace}
    (inv : AeLockInv ⟨c, p, place⟩) : AeLocalsFit c.snapshot.1.aeLock c.snapshot.1.aeState := by
  refine ⟨inv.used, fun hunlocked hlocked => ?_⟩
  have hset : c.mAeLock = true := inv.lock hlocked
  have hclear : c.mAeLock = false := hunlocked
  simp [hset] at hclear

theorem aeLockInv_step {s s' : ControlState} {a : ControlAction} {es : List ControlEvent}
    (inv : AeLockInv s) (hok : lockKept s a) (h : ControlStep s a s' es) : AeLockInv s' := by
  cases h with
  | @processRequest c p place request stale =>
    rcases processRequest_ae c request stale with hstate | ⟨hstate, hlock⟩
    · refine ⟨?_, fun h => ?_, inv.locals.noteLock _ (.inl hstate)⟩
      · simp [hstate]
      · simp [hstate] at h
    · refine ⟨?_, fun h => hlock (inv.lock (hstate.symm.trans h)),
        inv.locals.noteLock _ (.inr hstate)⟩
      simpa [hstate] using inv.used
  | @triggerAction c p place type ext1 =>
    obtain ⟨hstate, hlock⟩ := triggerAction_ae c ext1 type
    exact ⟨by simpa [hstate] using inv.used, by simpa [hstate, hlock] using inv.lock,
      by simpa [hstate] using inv.locals⟩
  | snapshotReset hreset => exact ⟨inv.used, inv.lock, inv.snapshotFits⟩
  | snapshot hreset => exact ⟨inv.used, inv.lock, inv.snapshotFits⟩
  | @resetAf c p l =>
    obtain ⟨hstate, hlock⟩ := updateAfState_ae c .inactive l.afTriggerId
    exact ⟨by simpa [hstate] using inv.used, by simpa [hstate, hlock] using inv.lock, inv.locals⟩
  | @focus c p l rand =>
    obtain ⟨hstate, hlock⟩ := updateAfState_ae c (focusStage rand p l).1.afState
      (focusStage rand p l).1.afTriggerId
    exact ⟨by simpa [hstate] using inv.used, by simpa [hstate, hlock] using inv.lock, inv.locals⟩
  | @expose c p l rand =>
    exact ⟨inv.used, inv.lock, exposeStage_fits rand p c.mExposureTime inv.locals⟩
  | @writeAe c p l =>
    obtain ⟨hstate, hlock⟩ := updateAeState_ae c l.aeState l.precaptureTriggerId
    have hfits : AeLocalsFit l.aeLock l.aeState := inv.locals
    refine ⟨by simpa [hstate] using hfits.used, fun h => ?_, fun hunlocked => ?_⟩
    · rw [hlock]
      exact hok rfl (decide_eq_true (hstate.symm.trans h))
    · rw [hstate]
      exact hfits.unlocked hunlocked
  | wake l => exact ⟨inv.used, inv.lock, trivial⟩

theorem focusStage_events (rand : ControlRand) (p : ScanFields) (l : ControlLocals) :
    ∀ e ∈ (focusStage rand p l).2.2, e.isUnexpected = true := by
  have htrigger : ∀ e ∈ (processAfTrigger rand p l.afMode l.afState).2.2,
      e.isUnexpected = true := by
    unfold processAfTrigger
    split <;> (try split) <;> simp [ControlEvent.isUnexpected]
  have hscan : ∀ p afState, ∀ e ∈ (updateAfScan rand p l.afMode afState l.nextSleep).2.2.2,
      e.isUnexpected = true := by
    intro p afState
    unfold updateAfScan
    split_ifs <;> (try split) <;> simp [ControlEvent.isUnexpected]
  simp only [focusStage]
  intro e he
  rcases List.mem_append.mp he with he | he
  · split_ifs at he
    · exact htrigger e he
    · simp at he
  · exact hscan _ _ e he

theorem iteration_fits {s s' : ControlState} {a : ControlAction} {es : List ControlEvent}
    (inv : AeLockInv s) (h : ControlStep s a s' es) {aeLock relocked : Bool} {aeState : AeState}
    (hmem : ControlEvent.iteration aeLock relocked aeState ∈ es) (hunlocked : aeLock = false) :
    aeState ≠ .locked := by
  cases h with
  | @wake c p l =>
    simp only [List.mem_singleton, ControlEvent.iteration.injEq] at hmem
    obtain ⟨hlock, -, rfl⟩ := hmem
    exact inv.locals (hlock.symm.trans hunlocked)
  | @resetAf c p l =>
    unfold ControlFields.updateAfState at hmem
    split_ifs at hmem <;> simp at hmem
  | @focus c p l rand =>
    rcases List.mem_append.mp hmem with hmem | hmem
    · simpa [ControlEvent.isUnexpected] using focusStage_events rand p l _ hmem
    · unfold ControlFields.updateAfState at hmem
      split_ifs at hmem <;> simp at hmem
  | @writeAe c p l =>
    unfold ControlFields.updateAeState at hmem
    split_ifs at hmem <;> simp at hmem
  | _ => simp at hmem

theorem aeLockInv_readyToRun (aeLock : Bool) : AeLockInv (readyToRun aeLock) :=
  ⟨by simp [readyToRun], by simp [readyToRun], trivial⟩

/-- Where LOCKED is only written under a set lock, an iteration that finds AE unlocked does not end
LOCKED, an unlocked AE is never LOCKED, and its scan is under way or can start. -/
theorem control_ae_unlocked (aeLock : Bool) {tr : List ControlEvent} {s : ControlState}
    (run : controlMachine.Run lockKept (readyToRun aeLock) tr s) :
    (∀ relocked aeState, ControlEvent.iteration false relocked aeState ∈ tr →
      aeState ≠ .locked) ∧
    (s.fields.mAeLock = false → s.fields.mAeState ≠ .locked ∧
      (aeScans s.fields.mAeMode = true → ∀ rand : ControlRand, rand.aeStart = true →
        (maybeStartAeScan rand s.scan s.fields.mAeMode false s.fields.mAeState).1 ∈
          [AeState.searching, AeState.precapture])) := by
  have hinv : AeLockInv s ∧ ∀ relocked aeState,
      ControlEvent.iteration false relocked aeState ∈ tr → aeState ≠ .locked := by
    induction run with
    | nil => exact ⟨aeLockInv_readyToRun aeLock, by simp⟩
    | snoc _ hok hs ih =>
      have hstep := controlStep_of_step hs
      refine ⟨aeLockInv_step ih.1 hok hstep, fun relocked aeState hmem => ?_⟩
      rcases List.mem_append.mp hmem with hmem | hmem
      · exact ih.2 relocked aeState hmem
      · exact iteration_fits ih.1 hstep hmem rfl
  obtain ⟨inv, hiterations⟩ := hinv
  refine ⟨hiterations, fun hunlocked => ?_⟩
  have hnot : s.fields.mAeState ≠ .locked := by
    intro hlocked
    have hset := inv.lock hlocked
    simp [hunlocked] at hset
  refine ⟨hnot, fun hmode rand hstart => ?_⟩
  have hused := inv.used
  cases hstate : s.fields.mAeState with
  | locked => exact absurd hstate hnot
  | flashRequired => exact absurd hstate hused
  | _ => simp [maybeStartAeScan, hmode, hstart]

def aeRequest (aeLock : Int64) : CameraMetadata :=
  [(.controlMode, 1), (.controlAfMode, 1), (.controlAeMode, 1), (.controlAeLock, aeLock)]

def controlIteration : List ControlAction := [.snapshot, .focus {}, .expose {}, .writeAe, .wake]

theorem control_ae_unlocked_between :
    ∃ tr s, controlMachine.Run lockKept (readyToRun false) tr s ∧
      ControlEvent.iteration true false .locked ∈ tr ∧
      ControlEvent.iteration false false .inactive ∈ tr ∧
      s.fields.mAeLock = false ∧ s.fields.mAeState ≠ .locked := by
  obtain ⟨tr, s, run, hlocked, hunlocked, hlock⟩ := Machine.run_of_exec controlMachine lockKept
    (readyToRun false)
    ([ControlAction.processRequest (aeRequest 1) 0] ++ controlIteration ++
      [ControlAction.processRequest (aeRequest 0) 0] ++ controlIteration)
    (fun s tr => ControlEvent.iteration true false .locked ∈ tr ∧
      ControlEvent.iteration false false .inactive ∈ tr ∧ s.fields.mAeLock = false)
    (by decide +kernel)
  exact ⟨tr, s, run, hlocked, hunlocked, hlock, ((control_ae_unlocked false run).2 hlock).1⟩

/-- The unlocking request comes between the snapshot of an iteration and its AE write; the next
iteration reads the cleared lock and ends LOCKED. -/
theorem unlock_request_lost :
    ¬ ∀ (aeLock : Bool) (tr : List ControlEvent) (s : ControlState),
      controlMachine.Run (fun _ _ => True) (readyToRun aeLock) tr s →
        ∀ aeState, ControlEvent.iteration false false aeState ∈ tr → aeState ≠ .locked := by
  intro h
  obtain ⟨tr, s, run, hmem⟩ := Machine.run_of_exec controlMachine (fun _ _ => True)
    (readyToRun false)
    ([ControlAction.processRequest (aeRequest 1) 0, ControlAction.snapshot,
      ControlAction.processRequest (aeRequest 0) 0, ControlAction.focus {},
      ControlAction.expose {}, ControlAction.writeAe, ControlAction.wake] ++ controlIteration)
    (fun _ tr => ControlEvent.iteration false false .locked ∈ tr)
    (by decide +kernel)
  exact h false tr s run .locked hmem rfl

end Rpi3Device.Camera2
