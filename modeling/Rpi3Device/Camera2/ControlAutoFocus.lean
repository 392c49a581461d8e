import Mathlib.Tactic
import Rpi3Device.Camera2.ControlThread

/-!
# The AF states of the control thread

Between a snapshot and the AF write of its iteration a request may change the AF
mode, so the state written may belong to the old mode. `mAfModeChange` is then set
until the next snapshot, which resets AF. The work on the snapshot itself always
meets a state that its mode admits.
-/

namespace Rpi3Device.Camera2
open Camera3 TransitionSystem

structure ScanFits (p : ScanFields) (afMode : AfMode) (afState : AfState) : Prop where
  admitted : afMode.admits afState = true
  lock : p.mLockAfterPassiveScan = true → afState = .passiveScan ∧ afMode = .continuousPicture

section Stages
variable {p : ScanFields} {afMode : AfMode} {afState : AfState}

theorem ScanFits.unlocked (h : ScanFits p afMode afState)
    (hne : afState ≠ .passiveScan ∨ afMode ≠ .continuousPicture) :
    p.mLockAfterPassiveScan = false := by
  by_contra hset
  obtain ⟨hstate, hmode⟩ := h.lock (by simpa using hset)
  rcases hne with hne | hne
  · exact hne hstate
  · exact hne hmode

theorem scanFits_of_unlocked (hlock : p.mLockAfterPassiveScan = false)
    (hadmits : afMode.admits afState = true) : ScanFits p afMode afState :=
  ⟨hadmits, fun h => by simp [hlock] at h⟩

theorem processAfTrigger_fits (rand : ControlRand) (h : ScanFits p afMode afState) :
    ScanFits (processAfTrigger rand p afMode afState).2.1 afMode
        (processAfTrigger rand p afMode afState).1 ∧
      (processAfTrigger rand p afMode afState).2.2 = [] := by
  cases afMode with
  | off => exact ⟨h, rfl⟩
  | other code => exact ⟨h, rfl⟩
  | auto =>
    have hlock := h.unlocked (.inr (by decide))
    rcases (AfMode.admits_auto_iff rfl).mp h.admitted with rfl | rfl | rfl | rfl
    · exact ⟨scanFits_of_unlocked hlock rfl, rfl⟩
    · exact ⟨h, rfl⟩
    · exact ⟨scanFits_of_unlocked hlock rfl, rfl⟩
    · exact ⟨scanFits_of_unlocked hlock rfl, rfl⟩
  | macroFocus =>
    have hlock := h.unlocked (.inr (by decide))
    rcases (AfMode.admits_auto_iff rfl).mp h.admitted with rfl | rfl | rfl | rfl
    · exact ⟨scanFits_of_unlocked hlock rfl, rfl⟩
    · exact ⟨h, rfl⟩
    · exact ⟨scanFits_of_unlocked hlock rfl, rfl⟩
    · exact ⟨scanFits_of_unlocked hlock rfl, rfl⟩
  | continuousPicture =>
    rcases (AfMode.admits_continuous_iff rfl).mp h.admitted with rfl | rfl | rfl | rfl | rfl
    · exact ⟨scanFits_of_unlocked (h.unlocked (.inl (by decide))) rfl, rfl⟩
    · exact ⟨⟨rfl, fun _ => ⟨rfl, rfl⟩⟩, rfl⟩
    · exact ⟨scanFits_of_unlocked (h.unlocked (.inl (by decide))) rfl, rfl⟩
    · exact ⟨h, rfl⟩
    · exact ⟨h, rfl⟩
  | continuousVideo =>
    have hlock := h.unlocked (.inr (by decide))
    rcases (AfMode.admits_continuous_iff rfl).mp h.admitted with rfl | rfl | rfl | rfl | rfl
    · exact ⟨scanFits_of_unlocked hlock rfl, rfl⟩
    · exact ⟨scanFits_of_unlocked hlock rfl, rfl⟩
    · exact ⟨scanFits_of_unlocked hlock rfl, rfl⟩
    · exact ⟨h, rfl⟩
    · exact ⟨h, rfl⟩

theorem maybeStartAfScan_fits (rand : ControlRand) (h : ScanFits p afMode afState) :
    ScanFits (maybeStartAfScan rand p afMode afState).2 afMode
      (maybeStartAfScan rand p afMode afState).1 := by
  unfold maybeStartAfScan
  split_ifs with hstart
  · obtain ⟨hmode, hstate, -⟩ := hstart
    have hne : afState ≠ .passiveScan := by
      rcases hstate with rfl | rfl <;> decide
    refine scanFits_of_unlocked (h.unlocked (.inl hne)) ?_
    exact (AfMode.admits_continuous_iff hmode).mpr (.inr (.inl rfl))
  · exact h

theorem updateAfScan_fits (rand : ControlRand) (maxSleep : Int) (h : ScanFits p afMode afState) :
    ScanFits (updateAfScan rand p afMode afState maxSleep).2.1 afMode
        (updateAfScan rand p afMode afState maxSleep).1 ∧
      (updateAfScan rand p afMode afState maxSleep).2.2.2 = [] := by
  unfold updateAfScan
  by_cases hidle : ¬ (afState = .activeScan ∨ afState = .passiveScan)
  · rw [if_pos hidle]
    exact ⟨h, rfl⟩
  rw [if_neg hidle]
  by_cases hdone : p.mAfScanDuration ≤ 0
  · rw [if_pos hdone]
    cases afMode with
    | off =>
      have hinactive : afState = .inactive := by
        simpa [AfMode.admits, AfMode.isAuto, AfMode.isContinuous] using h.admitted
      simp [hinactive] at hidle
    | other code =>
      have hinactive : afState = .inactive := by
        simpa [AfMode.admits, AfMode.isAuto, AfMode.isContinuous] using h.admitted
      simp [hinactive] at hidle
    | auto =>
      refine ⟨scanFits_of_unlocked (h.unlocked (.inr (by decide))) ?_, rfl⟩
      cases rand.afSuccess <;> rfl
    | macroFocus =>
      refine ⟨scanFits_of_unlocked (h.unlocked (.inr (by decide))) ?_, rfl⟩
      cases rand.afSuccess <;> rfl
    | continuousPicture =>
      cases hlock : p.mLockAfterPassiveScan with
      | true => exact ⟨scanFits_of_unlocked rfl rfl, rfl⟩
      | false => exact ⟨scanFits_of_unlocked hlock rfl, rfl⟩
    | continuousVideo =>
      exact ⟨scanFits_of_unlocked (h.unlocked (.inr (by decide))) rfl, rfl⟩
  · rw [if_neg hdone]
    exact ⟨h, rfl⟩

end Stages

theorem focusStage_fits {p : ScanFields} {l : ControlLocals} (rand : ControlRand)
    (h : ScanFits p l.afMode l.afState) :
    ScanFits (focusStage rand p l).2.1 l.afMode (focusStage rand p l).1.afState ∧
      (focusStage rand p l).2.2 = [] := by
  cases htriggered : l.afTriggered with
  | true =>
    obtain ⟨htrigger, hevents⟩ := processAfTrigger_fits rand h
    obtain ⟨hscan, hevents'⟩ := updateAfScan_fits rand l.nextSleep
      (maybeStartAfScan_fits rand htrigger)
    refine ⟨by simpa [focusStage, htriggered] using hscan, ?_⟩
    simp [focusStage, htriggered, hevents, hevents']
  | false =>
    obtain ⟨hscan, hevents'⟩ := updateAfScan_fits rand l.nextSleep (maybeStartAfScan_fits rand h)
    refine ⟨by simpa [focusStage, htriggered] using hscan, ?_⟩
    simp [focusStage, htriggered, hevents']

structure AfSettled (c : ControlFields) (p : ScanFields) : Prop where
  admitted : c.mAfModeChange = true ∨ c.mAfMode.admits c.mAfState = true
  lock : p.mLockAfterPassiveScan = true →
    (c.mAfState = .passiveScan ∧ c.mAfMode = .continuousPicture) ∨ c.mAfModeChange = true

def ModeCurrent (c : ControlFields) (l : ControlLocals) : Prop :=
  c.mAfModeChange = true ∨ c.mAfMode = l.afMode

def ControlAfInv (s : ControlState) : Prop :=
  match s.place with
  | .resetAf l => ModeCurrent s.fields l
  | .focus l => ModeCurrent s.fields l ∧ ScanFits s.scan l.afMode l.afState
  | _ => AfSettled s.fields s.scan

theorem processRequest_af (c : ControlFields) (request : CameraMetadata) (stale : UInt8) :
    (c.processRequest request stale).2.2.mAfState = c.mAfState ∧
      ((c.processRequest request stale).2.2.mAfModeChange = true ∨
        (c.processRequest request stale).2.2.mAfMode = c.mAfMode ∧
        (c.processRequest request stale).2.2.mAfModeChange = c.mAfModeChange) := by
  unfold ControlFields.processRequest
  by_cases hoff : (controlModeOf request).getD .off = .off
  · rw [if_pos hoff]
    exact ⟨rfl, .inl rfl⟩
  · rw [if_neg hoff]
    by_cases hmode : c.mAfMode ≠ AfMode.ofCode ((request.findU8 .controlAfMode).getD stale)
    · simp only [if_pos hmode, true_or, and_self]
    · simp only [if_neg hmode, and_self, or_true]

theorem triggerAction_af (c : ControlFields) (ext1 : Int32) (type : TriggerType) :
    (c.triggerAction ext1 type).2.mAfState = c.mAfState ∧
      (c.triggerAction ext1 type).2.mAfMode = c.mAfMode ∧
      (c.triggerAction ext1 type).2.mAfModeChange = c.mAfModeChange := by
  cases type <;> exact ⟨rfl, rfl, rfl⟩

theorem controlAfInv_of_caller {c c' : ControlFields} {p : ScanFields} {place : ControlPlace}
    (hstate : c'.mAfState = c.mAfState)
    (hmode : c'.mAfModeChange = true ∨
      c'.mAfMode = c.mAfMode ∧ c'.mAfModeChange = c.mAfModeChange)
    (inv : ControlAfInv ⟨c, p, place⟩) : ControlAfInv ⟨c', p, place⟩ := by
  have hcurrent : ∀ l, ModeCurrent c l → ModeCurrent c' l := by
    intro l hl
    rcases hmode with h | ⟨h, hchange⟩
    · exact .inl h
    · rwa [ModeCurrent, h, hchange]
  have hsettled : AfSettled c p → AfSettled c' p := by
    intro hparts
    obtain ⟨hadmitted, hlock⟩ := hparts
    rcases hmode with h | ⟨h, hchange⟩
    · exact ⟨.inl h, fun _ => .inr h⟩
    · refine ⟨?_, ?_⟩
      · rwa [h, hchange, hstate]
      · rwa [h, hchange, hstate]
  cases place with
  | resetAf l => exact hcurrent l inv
  | focus l => exact ⟨hcurrent l inv.1, inv.2⟩
  | _ => exact hsettled inv

theorem controlAfInv_noteLock {c : ControlFields} {p : ScanFields} {place : ControlPlace}
    (aeLock : Bool) (inv : ControlAfInv ⟨c, p, place⟩) :
    ControlAfInv ⟨c, p, place.noteLock aeLock⟩ := by
  cases place <;> exact inv

theorem updateAfState_fields (c : ControlFields) (newState : AfState) (triggerId : Int32) :
    (c.updateAfState newState triggerId).1 = { c with mAfState := newState } := by
  unfold ControlFields.updateAfState
  split_ifs with h
  · rfl
  · rw [not_not] at h
    rw [← h]

theorem updateAfState_expected (c : ControlFields) (newState : AfState) (triggerId : Int32) :
    ∀ e ∈ (c.updateAfState newState triggerId).2, e.isUnexpected = false := by
  unfold ControlFields.updateAfState
  split_ifs <;> simp [ControlEvent.isUnexpected]

theorem updateAeState_af (c : ControlFields) (newState : AeState) (triggerId : Int32) :
    (c.updateAeState newState triggerId).1 = { c with mAeState := newState } ∧
    ∀ e ∈ (c.updateAeState newState triggerId).2, e.isUnexpected = false := by
  unfold ControlFields.updateAeState
  split_ifs with h
  · simp [ControlEvent.isUnexpected]
  · rw [not_not] at h
    simp [← h]

theorem exposeStage_lock (rand : ControlRand) (p : ScanFields) (l : ControlLocals)
    (exposureTime : Int) :
    (exposeStage rand p l exposureTime).2.1.mLockAfterPassiveScan = p.mLockAfterPassiveScan := by
  have hprecapture : ∀ p aeMode aeState,
      (processPrecaptureTrigger rand p aeMode aeState).2.mLockAfterPassiveScan =
        p.mLockAfterPassiveScan := by
    intro p aeMode aeState
    unfold processPrecaptureTrigger
    split_ifs <;> rfl
  have hstart : ∀ p aeMode aeLock aeState,
      (maybeStartAeScan rand p aeMode aeLock aeState).2.mLockAfterPassiveScan =
        p.mLockAfterPassiveScan := by
    intro p aeMode aeLock aeState
    unfold maybeStartAeScan
    split_ifs <;> rfl
  have hupdate : ∀ p aeLock aeState maxSleep,
      (updateAeScan rand p aeLock aeState maxSleep exposureTime).2.1.mLockAfterPassiveScan =
        p.mLockAfterPassiveScan := by
    intro p aeLock aeState maxSleep
    unfold updateAeScan
    split_ifs <;> rfl
  simp only [exposeStage, hupdate, hstart]
  split_ifs
  · exact hprecapture _ _ _
  · rfl

theorem controlAfInv_step {s s' : ControlState} {a : ControlAction} {es : List ControlEvent}
    (inv : ControlAfInv s) (h : ControlStep s a s' es) :
    ControlAfInv s' ∧ ∀ e ∈ es, e.isUnexpected = false := by
  cases h with
  | processRequest request stale =>
    obtain ⟨hstate, hmode⟩ := processRequest_af _ request stale
    refine ⟨controlAfInv_noteLock _ (controlAfInv_of_caller hstate hmode inv), by simp⟩
  | triggerAction type ext1 =>
    obtain ⟨hstate, hmode⟩ := triggerAction_af _ ext1 type
    exact ⟨controlAfInv_of_caller hstate (.inr hmode) inv, by simp⟩
  | snapshotReset hreset => exact ⟨.inr rfl, by simp⟩
  | @snapshot c p hreset =>
    have hchange : c.mAfModeChange = false := by
      by_contra hset
      exact hreset (.inr (by simpa [ControlFields.snapshot] using hset))
    have hadmitted : c.mAfMode.admits c.mAfState = true := by
      simpa [hchange] using AfSettled.admitted inv
    have hlock : p.mLockAfterPassiveScan = true →
        c.mAfState = .passiveScan ∧ c.mAfMode = .continuousPicture := by
      simpa [hchange] using AfSettled.lock inv
    exact ⟨⟨.inr rfl, hadmitted, hlock⟩, by simp⟩
  | resetAf l =>
    refine ⟨⟨?_, AfMode.admits_inactive _, by simp⟩, updateAfState_expected _ _ _⟩
    rw [updateAfState_fields]
    exact inv
  | @focus c p l rand =>
    obtain ⟨hcurrent, hfits⟩ := inv
    obtain ⟨⟨hadmitted, hlock⟩, hevents⟩ := focusStage_fits rand hfits
    rw [hevents, List.nil_append, updateAfState_fields]
    refine ⟨⟨?_, ?_⟩, updateAfState_expected _ _ _⟩
    · rcases hcurrent with hchange | hmode
      · exact .inl hchange
      · rw [← hmode] at hadmitted
        exact .inr hadmitted
    · intro hset
      rcases hcurrent with hchange | hmode
      · exact .inr hchange
      · rw [← hmode] at hlock
        exact .inl (hlock hset)
  | @expose c p l rand =>
    refine ⟨⟨inv.admitted, ?_⟩, by simp⟩
    rw [exposeStage_lock]
    exact inv.lock
  | writeAe l =>
    refine ⟨?_, (updateAeState_af _ _ _).2⟩
    rw [(updateAeState_af _ _ _).1]
    exact ⟨inv.admitted, inv.lock⟩
  | wake l => exact ⟨⟨inv.admitted, inv.lock⟩, by simp [ControlEvent.isUnexpected]⟩

/-- Between iterations a mode change is pending or the AF state fits the mode, the lock waits for a
passive scan in CONTINUOUS_PICTURE, and no unexpected state or mode is ever met. -/
theorem control_af_admitted (aeLock : Bool) {tr : List ControlEvent} {s : ControlState}
    (run : controlMachine.Run (fun _ _ => True) (readyToRun aeLock) tr s) :
    (s.place = .top →
      (s.fields.mAfModeChange = true ∨ s.fields.mAfMode.admits s.fields.mAfState = true) ∧
      (s.scan.mLockAfterPassiveScan = true →
        (s.fields.mAfState = .passiveScan ∧ s.fields.mAfMode = .continuousPicture) ∨
          s.fields.mAfModeChange = true)) ∧
    ∀ e ∈ tr, e.isUnexpected = false := by
  have hinv : ControlAfInv s ∧ ∀ e ∈ tr, e.isUnexpected = false := by
    induction run with
    | nil => exact ⟨⟨.inr rfl, by simp [readyToRun]⟩, by simp⟩
    | snoc _ _ hs ih =>
      obtain ⟨inv, hes⟩ := controlAfInv_step ih.1 (controlStep_of_step hs)
      refine ⟨inv, fun e he => ?_⟩
      rcases List.mem_append.mp he with h | h
      · exact ih.2 e h
      · exact hes e h
  refine ⟨fun htop => ?_, hinv.2⟩
  have hsettled : AfSettled s.fields s.scan := by
    have h := hinv.1
    rwa [ControlAfInv, htop] at h
  exact ⟨hsettled.admitted, hsettled.lock⟩

def pictureRequest : CameraMetadata :=
  [(.controlMode, 1), (.controlAfMode, 4), (.controlAeMode, 1), (.controlAeLock, 0)]

theorem control_af_admitted_waiting :
    ∃ tr s, controlMachine.Run (fun _ _ => True) (readyToRun false) tr s ∧ s.place = .top ∧
      s.scan.mLockAfterPassiveScan = true ∧ s.fields.mAfModeChange = false ∧
      s.fields.mAfState = .passiveScan ∧ s.fields.mAfMode.admits s.fields.mAfState = true ∧
      ∀ e ∈ tr, e.isUnexpected = false := by
  obtain ⟨tr, s, run, htop, hlock, hchange⟩ := Machine.run_of_exec controlMachine
    (fun _ _ => True) (readyToRun false)
    [.processRequest pictureRequest 0, .snapshot, .resetAf, .focus { afStart := true },
      .expose {}, .writeAe, .wake, .triggerAction .autofocus 7, .snapshot, .focus {}, .expose {},
      .writeAe, .wake]
    (fun s _ => s.place = .top ∧ s.scan.mLockAfterPassiveScan = true ∧
      s.fields.mAfModeChange = false)
    (by decide +kernel)
  obtain ⟨haf, hevents⟩ := control_af_admitted false run
  obtain ⟨hadmitted, hwaiting⟩ := haf htop
  rw [hchange] at hadmitted hwaiting
  exact ⟨tr, s, run, htop, hlock, hchange, ((hwaiting hlock).resolve_right (by simp)).1,
    hadmitted.resolve_left (by simp), hevents⟩

end Rpi3Device.Camera2
