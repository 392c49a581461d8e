import Mathlib.Tactic
import Rpi3Device.Camera3.RequestAtomicity

/-!
# The AF states a sequence of requests reports

`doFakeAF` notices that the AF mode of a request differs from the one before, but
it keeps the AF state of the old mode. A mode change is harmless when it finds AF
inactive, or when the trigger of the request leads to a state that an inactive
AF could have come to as well.
-/

namespace Rpi3Device.Camera3
open TransitionSystem

theorem CameraMetadata.find_update_self (settings : CameraMetadata) (tag : MetadataTag)
    (value : Int64) : (settings.update tag value).find tag = some value := by
  simp [CameraMetadata.update, CameraMetadata.find]

theorem CameraMetadata.find_update_of_ne (settings : CameraMetadata) {tag tag' : MetadataTag}
    (value : Int64) (h : tag ≠ tag') :
    (settings.update tag' value).find tag = settings.find tag := by
  have hne : (tag == tag') = false := by simpa using h
  simp only [CameraMetadata.update, CameraMetadata.find, List.lookup_cons, hne]
  induction settings with
  | nil => rfl
  | cons entry settings ih =>
    obtain ⟨tag'', value'⟩ := entry
    by_cases hentry : tag'' = tag'
    · subst hentry
      simpa [List.filter_cons, List.lookup_cons, hne] using ih
    · simp only [List.filter_cons, ne_eq, hentry, not_false_eq_true, decide_true, ↓reduceIte,
        List.lookup_cons]
      rw [← ih]

theorem find_sensorSettings (settings : CameraMetadata) {tag : MetadataTag}
    (h : tag ≠ .sensorFrameDuration) :
    (sensorSettings settings).2.find tag = settings.find tag := by
  simp only [sensorSettings]
  split_ifs
  · exact settings.find_update_of_ne _ h
  · rfl

theorem find_update3A (s : State3A) (settings : CameraMetadata) :
    (s.update3A settings).find .controlAfState = some s.mAfState.code := by
  unfold State3A.update3A State3A.entries
  split_ifs <;>
    simp [CameraMetadata.find_update_of_ne, CameraMetadata.find_update_self]

def CameraState.reportedAfState (c : CameraState) : Option Int64 :=
  c.table.mPrevSettings.find .controlAfState

section Accepted
variable {k : Emulation} {c : CameraState} {r : CaptureRequest} {rand : Rand}
  {o : BufferOutcomes} {w : WaitOutcomes}

theorem accepted_iff :
    (c.processCaptureRequest k (some r) rand o w).1 = .ok ↔
      validateRequest c.table c.mStatus (some r) = .ok ∧
        Accepts3A k c.threeA (takeSettings c.table r).1 ∧ OutcomesGood c.table r o w := by
  by_cases hvalid : validateRequest c.table c.mStatus (some r) = .ok
  · rw [and_iff_right hvalid]
    rcases processCaptureRequest_valid k c r rand o w hvalid with
      ⟨haccepts, hgood, hres⟩ | ⟨hbad, hres, -⟩
    · exact ⟨fun _ => ⟨haccepts, hgood⟩, fun _ => hres⟩
    · exact ⟨fun h => absurd h hres, fun h => absurd h hbad⟩
  · simp [CameraState.processCaptureRequest, hvalid]

theorem accepted_state (h : (c.processCaptureRequest k (some r) rand o w).1 = .ok) :
    (c.processCaptureRequest k (some r) rand o w).2.threeA =
        (c.threeA.process3A k (takeSettings c.table r).1 rand).2 ∧
      (c.processCaptureRequest k (some r) rand o w).2.reportedAfState =
        some (c.threeA.process3A k (takeSettings c.table r).1 rand).2.mAfState.code := by
  obtain ⟨hvalid, haccepts, hgood⟩ := accepted_iff.mp h
  have h3A := (process3A_ok_iff k c.threeA (takeSettings c.table r).1 rand).mpr haccepts
  have hfake := process3A_fake_snd h3A
  rw [← process3A_fake_fst] at h3A
  rcases lockOutputBuffers_cases c.table.streams o 0 r.outputs with
    ⟨hall, hloop⟩ | ⟨pre, b, post, hbs, -, hfail, -⟩
  · have hwaits : waitForSensor ((r.outputs.map fun b => destBuf (c.table.streams b.stream) b).any
        (fun b => b.format = .blob)) w = .ok := by
      rw [waitForSensor_ok_iff, prepared_needJpeg]
      exact hgood.2
    simp only [CameraState.processCaptureRequest, hvalid, ↓reduceIte, startRequest, h3A,
      ↓reduceDIte, takeSettings_streams, hloop, PreparedRequest.needJpeg, hwaits, true_and,
      CameraState.reportedAfState]
    rw [find_sensorSettings _ (by decide), hfake, find_update3A]
  · rw [Nat.zero_add] at hfail
    exact absurd (hgood.1 _ (by simp [hbs])) hfail

end Accepted

def afNext (settings : CameraMetadata) (rand : Nat) (af : AfState × AfMode) : AfState × AfMode :=
  if controlModeOf settings = some .off then (.inactive, .off)
  else if afModeOf settings = .off then (.inactive, af.2)
  else
    let changed := decide (af.2 ≠ afModeOf settings)
    match afTriggerOf settings with
    | .idle => (afTransition (afModeOf settings) false changed rand af.1, afModeOf settings)
    | .start => (afTransition (afModeOf settings) true changed rand af.1, afModeOf settings)
    | _ => (.inactive, afModeOf settings)

theorem doFakeAF_af {k : Emulation} {s : State3A} {settings : CameraMetadata} {rand : Nat}
    (hmode : controlModeOf settings ≠ some .off) (h : (s.doFakeAF k settings rand).1 = .ok) :
    (s.doFakeAF k settings rand).2.af = afNext settings rand s.af := by
  obtain ⟨hmissing, hsupported⟩ := (doFakeAF_ok_iff k s settings rand).mp h
  simp only [State3A.doFakeAF, afNext, if_neg hmode, if_neg hmissing]
  by_cases hoff : afModeOf settings = .off
  · simp [hoff, State3A.af]
  · obtain ⟨⟨hknown, hback⟩, htrigger⟩ := hsupported hoff
    have hkind : ¬ ((afModeOf settings).isAuto = false ∧
        (afModeOf settings).isContinuous = false) := by
      intro hparts
      obtain ⟨hauto, hcontinuous⟩ := hparts
      simp [hauto, hcontinuous] at hknown
    rw [if_neg hoff, if_neg hoff, if_neg hkind, if_neg (by simp [hback])]
    cases hcase : afTriggerOf settings with
    | other code => simp [hcase, AfTrigger.known] at htrigger
    | _ => rfl

theorem runStages_af {k : Emulation} {s : State3A} {settings : CameraMetadata} {rand : Rand}
    (hmode : controlModeOf settings ≠ some .off) (h : (s.runStages k settings rand).1 = .ok) :
    (s.runStages k settings rand).2.af = afNext settings rand.af s.af := by
  have hframe := (doFakeAE_frame k s settings rand.ae).2.1
  unfold State3A.runStages at h ⊢
  split at h
  · rename_i s' heq
    rw [heq] at hframe
    split at h
    · rename_i s'' heq'
      have haf := doFakeAF_af hmode (congrArg Prod.fst heq')
      rw [heq'] at haf
      dsimp only at hframe haf
      rw [(doFakeAWB_frame k s'' settings).2.2, haf, hframe]
    · rename_i hfail
      exact (hfail _ (Prod.ext h rfl)).elim
  · rename_i hfail
    exact (hfail _ (Prod.ext h rfl)).elim

theorem process3A_af {k : Emulation} {s : State3A} {settings : CameraMetadata} {rand : Rand}
    (h : (s.process3A k settings rand).1 = .ok) :
    (s.process3A k settings rand).2.af = afNext settings rand.af s.af := by
  rcases hmode : controlModeOf settings with _ | _ | _ | code
  · simp [State3A.process3A, hmode] at h
  · simp [State3A.process3A, afNext, hmode, State3A.af]
  · simp only [State3A.process3A, hmode] at h ⊢
    split_ifs at h ⊢ with hcompat hscene
    exact runStages_af (by simp [hmode]) h
  · simp only [State3A.process3A, hmode] at h ⊢
    exact runStages_af (by simp [hmode]) h

theorem sweepResult_cases (rand : Nat) :
    sweepResult rand = .focusedLocked ∨ sweepResult rand = .notFocusedLocked := by
  unfold sweepResult
  split_ifs
  · exact .inl rfl
  · exact .inr rfl

theorem afTransition_admitted {afMode : AfMode} {afState : AfState} (start changed : Bool)
    (rand : Nat) (h : afMode.admits afState = true) :
    afMode.admits (afTransition afMode start changed rand afState) = true := by
  have hsweep : afMode.isAuto = true ∨ afMode.isContinuous = true →
      afMode.admits (sweepResult rand) = true := by
    intro hmode
    rcases sweepResult_cases rand with hsweep | hsweep <;>
      rcases hmode with hauto | hcontinuous <;> simp_all [AfMode.admits]
  cases hauto : afMode.isAuto with
  | true =>
    have hcontinuous := AfMode.not_isContinuous_of_isAuto hauto
    cases afState with
    | activeScan => exact hsweep (.inl hauto)
    | inactive => cases start <;> simp [afTransition, hauto, hcontinuous, AfMode.admits]
    | focusedLocked => cases start <;> simp [afTransition, hauto, AfMode.admits]
    | notFocusedLocked => cases start <;> simp [afTransition, hauto, AfMode.admits]
    | _ => simp [AfMode.admits, hauto] at h
  | false =>
    cases hcontinuous : afMode.isContinuous with
    | true =>
      cases afState with
      | inactive =>
        cases start <;> cases changed <;> simp [afTransition, hauto, hcontinuous, AfMode.admits]
      | passiveScan =>
        cases start with
        | true => exact hsweep (.inr hcontinuous)
        | false =>
          simp only [afTransition]
          split_ifs <;> simp_all [AfMode.admits]
      | passiveFocused =>
        cases start with
        | true => exact hsweep (.inr hcontinuous)
        | false => exact h
      | focusedLocked => simpa [afTransition, hauto] using h
      | notFocusedLocked => simpa [afTransition, hauto] using h
      | _ => simp [AfMode.admits, hauto, hcontinuous] at h
    | false =>
      have hinactive : afState = .inactive := by simpa [AfMode.admits, hauto, hcontinuous] using h
      subst hinactive
      simp [afTransition, hauto, hcontinuous, AfMode.admits]

/-- When a request that changes the AF mode reports what an inactive AF could have led to: AF is
inactive, or the start trigger restarts or ends the scan as it would from there. -/
def resetUnneeded (afMode : AfMode) (start : Bool) (rand : Nat) : AfState → Bool
  | .inactive => true
  | .passiveScan | .passiveFocused | .activeScan =>
    start = true ∧ afMode.isContinuous = true ∧ rand % 3 = 0
  | .focusedLocked => start = true ∧ afMode.isAuto = true
  | .notFocusedLocked => start
  | .passiveUnfocused => false

theorem afTransition_of_resetUnneeded {afMode : AfMode} {afState : AfState} {start : Bool}
    {rand : Nat} (hmode : afMode.isAuto = true ∨ afMode.isContinuous = true)
    (h : resetUnneeded afMode start rand afState = true) :
    afTransition afMode start true rand afState =
      afTransition afMode start true rand .inactive := by
  have hauto := @AfMode.not_isContinuous_of_isAuto afMode
  cases afState with
  | inactive => rfl
  | passiveUnfocused => simp [resetUnneeded] at h
  | notFocusedLocked =>
    simp only [resetUnneeded] at h
    rcases hmode with hmode | hmode
    · simp [afTransition, h, hmode]
    · cases hcase : afMode.isAuto <;> simp [afTransition, h, hmode, hcase]
  | focusedLocked =>
    simp only [resetUnneeded, decide_eq_true_eq] at h
    simp [afTransition, h]
  | _ =>
    simp only [resetUnneeded, decide_eq_true_eq] at h
    obtain ⟨rfl, hcontinuous, hrand⟩ := h
    cases hcase : afMode.isAuto with
    | true => simp [hauto hcase] at hcontinuous
    | false => simp [afTransition, sweepResult, hcontinuous, hrand, hcase]

structure FocusState where
  camera : CameraState
  previous : Option AfMode

inductive FocusAction where
  | request (r : CaptureRequest) (rand : Rand) (o : BufferOutcomes) (w : WaitOutcomes)
  | elsewhere (mStatus : CameraStatus) (table : StreamTable)

structure FocusReport where
  before : FocusState
  request : CaptureRequest
  afState : Option Int64

def focusMachine (k : Emulation) : Machine FocusState FocusAction FocusReport where
  step s
    | .request r rand o w =>
      let result := s.camera.processCaptureRequest k (some r) rand o w
      if result.1 = .ok then
        some (⟨result.2, some (afModeOf (takeSettings s.camera.table r).1)⟩,
          [⟨s, r, result.2.reportedAfState⟩])
      else none
    | .elsewhere mStatus table => some ({ s with camera := ⟨mStatus, table, s.camera.threeA⟩ }, [])

def connectedFocus (mStatus : CameraStatus) (table : StreamTable) : FocusState :=
  ⟨⟨mStatus, table, {}⟩, none⟩

def FocusReport.settings (report : FocusReport) : CameraMetadata :=
  (takeSettings report.before.camera.table report.request).1

def FocusReport.afMode (report : FocusReport) : AfMode := afModeOf report.settings

def FocusReport.Admitted (report : FocusReport) : Prop :=
  ∃ afState, report.afState = some afState.code ∧ report.afMode.admits afState = true

/-- The report of a changed mode is one that the same request can have when AF was inactive. -/
def FocusReport.FromInactive (k : Emulation) (report : FocusReport) : Prop :=
  ∀ afMode ∈ report.before.previous, report.afMode ≠ afMode →
    ∃ rand o w,
      let camera := { report.before.camera with
        threeA := { report.before.camera.threeA with mAfState := .inactive } }
      (camera.processCaptureRequest k (some report.request) rand o w).1 = .ok ∧
        (camera.processCaptureRequest k (some report.request) rand o w).2.reportedAfState =
          report.afState

/-- A request that changes the AF mode to one that is not OFF, outside the control mode OFF and
without the cancel trigger, finds AF in a state that needs no reset. -/
def focusOk (s : FocusState) : FocusAction → Prop
  | .request r rand _ _ =>
    let settings := (takeSettings s.camera.table r).1
    s.previous ≠ none → s.previous ≠ some (afModeOf settings) →
      controlModeOf settings ≠ some .off → afModeOf settings ≠ .off →
      afTriggerOf settings ≠ .cancel →
        resetUnneeded (afModeOf settings) (decide (afTriggerOf settings = .start)) rand.af
          s.camera.threeA.mAfState = true
  | .elsewhere _ _ => True

structure FocusInv (s : FocusState) : Prop where
  fresh : s.previous = none → s.camera.threeA.mAfState = .inactive
  admitted : ∀ afMode ∈ s.previous, afMode.admits s.camera.threeA.mAfState = true
  remembered : ∀ afMode ∈ s.previous, s.camera.threeA.mAfState ≠ .inactive →
    s.camera.threeA.mAfMode = afMode

theorem afSupported_of_accepts {k : Emulation} {s : State3A} {settings : CameraMetadata}
    (h : Accepts3A k s settings) (hmode : controlModeOf settings ≠ some .off)
    (hoff : afModeOf settings ≠ .off) : AfSupported k settings := by
  rcases hcase : controlModeOf settings with _ | _ | _ | code
  · simp [Accepts3A, hcase] at h
  · exact absurd hcase hmode
  · simp only [Accepts3A, hcase] at h
    exact (h.2.2.2.1.2 hoff).1
  · simp only [Accepts3A, hcase] at h
    exact (h.2.1.2 hoff).1

theorem afNext_admitted {settings : CameraMetadata} {af : AfState × AfMode} (rand : Nat)
    (h : (afModeOf settings).admits af.1 = true) :
    (afModeOf settings).admits (afNext settings rand af).1 = true := by
  unfold afNext
  split_ifs
  · exact AfMode.admits_inactive _
  · exact AfMode.admits_inactive _
  · cases afTriggerOf settings with
    | idle => exact afTransition_admitted _ _ _ h
    | start => exact afTransition_admitted _ _ _ h
    | _ => exact AfMode.admits_inactive _

theorem afNext_remembered (settings : CameraMetadata) (rand : Nat) (af : AfState × AfMode)
    (h : (afNext settings rand af).1 ≠ .inactive) :
    (afNext settings rand af).2 = afModeOf settings := by
  unfold afNext at h ⊢
  split_ifs at h ⊢
  · exact absurd rfl h
  · exact absurd rfl h
  · cases afTriggerOf settings <;> rfl

section Step
variable {k : Emulation} {s : FocusState} {r : CaptureRequest} {rand : Rand} {o : BufferOutcomes}
  {w : WaitOutcomes}

theorem afNext_of_changed (inv : FocusInv s) (hok : focusOk s (.request r rand o w))
    (haccepts : Accepts3A k s.camera.threeA (takeSettings s.camera.table r).1)
    {afMode : AfMode} (hprevious : s.previous = some afMode)
    (hne : afModeOf (takeSettings s.camera.table r).1 ≠ afMode) :
    (afNext (takeSettings s.camera.table r).1 rand.af s.camera.threeA.af).1 =
      (afNext (takeSettings s.camera.table r).1 rand.af
        (.inactive, s.camera.threeA.mAfMode)).1 := by
  by_cases hinactive : s.camera.threeA.mAfState = .inactive
  · rw [State3A.af, hinactive]
  have hmd : s.camera.threeA.mAfMode = afMode := inv.remembered afMode hprevious hinactive
  have hchanged : ∀ af : AfState × AfMode, af.2 = afMode →
      decide (af.2 ≠ afModeOf (takeSettings s.camera.table r).1) = true := by
    intro af haf
    exact decide_eq_true (fun h => hne (h.symm.trans haf))
  have hreset := hok (by simp [hprevious]) (by simp [hprevious, Ne.symm hne])
  unfold afNext
  split_ifs with hmode hoff
  · rfl
  · rfl
  · have hsupported := afSupported_of_accepts haccepts hmode hoff
    simp only [hchanged s.camera.threeA.af hmd,
      hchanged (.inactive, s.camera.threeA.mAfMode) hmd]
    cases htrigger : afTriggerOf (takeSettings s.camera.table r).1 with
    | idle =>
      have h := hreset hmode hoff (by simp [htrigger])
      exact afTransition_of_resetUnneeded hsupported.1 (by simpa [htrigger, State3A.af] using h)
    | start =>
      have h := hreset hmode hoff (by simp [htrigger])
      exact afTransition_of_resetUnneeded hsupported.1 (by simpa [htrigger, State3A.af] using h)
    | cancel => rfl
    | other code => rfl

theorem afNext_step_admitted (inv : FocusInv s) (hok : focusOk s (.request r rand o w))
    (haccepts : Accepts3A k s.camera.threeA (takeSettings s.camera.table r).1) :
    (afModeOf (takeSettings s.camera.table r).1).admits
      (afNext (takeSettings s.camera.table r).1 rand.af s.camera.threeA.af).1 = true := by
  cases hprevious : s.previous with
  | none =>
    refine afNext_admitted rand.af ?_
    rw [State3A.af, inv.fresh hprevious]
    exact AfMode.admits_inactive _
  | some afMode =>
    by_cases hsame : afModeOf (takeSettings s.camera.table r).1 = afMode
    · refine afNext_admitted rand.af ?_
      rw [hsame]
      exact inv.admitted afMode hprevious
    · rw [afNext_of_changed inv hok haccepts hprevious hsame]
      exact afNext_admitted rand.af (AfMode.admits_inactive _)

theorem focusInv_request (inv : FocusInv s) (hok : focusOk s (.request r rand o w))
    (hres : (s.camera.processCaptureRequest k (some r) rand o w).1 = .ok) :
    FocusInv ⟨(s.camera.processCaptureRequest k (some r) rand o w).2,
      some (afModeOf (takeSettings s.camera.table r).1)⟩ := by
  obtain ⟨-, haccepts, -⟩ := accepted_iff.mp hres
  have haf := process3A_af ((process3A_ok_iff k _ _ rand).mpr haccepts)
  have hadmitted := afNext_step_admitted inv hok haccepts
  have hremembered := afNext_remembered (takeSettings s.camera.table r).1 rand.af
    s.camera.threeA.af
  rw [← haf] at hadmitted hremembered
  refine ⟨by simp, fun afMode h => ?_, fun afMode h => ?_⟩
  · cases h
    rw [(accepted_state hres).1]
    exact hadmitted
  · cases h
    rw [(accepted_state hres).1]
    exact hremembered

theorem report_good (inv : FocusInv s) (hok : focusOk s (.request r rand o w))
    (hres : (s.camera.processCaptureRequest k (some r) rand o w).1 = .ok) :
    let report : FocusReport :=
      ⟨s, r, (s.camera.processCaptureRequest k (some r) rand o w).2.reportedAfState⟩
    report.Admitted ∧ report.FromInactive k := by
  obtain ⟨hvalid, haccepts, hgood⟩ := accepted_iff.mp hres
  have haf := congrArg Prod.fst (process3A_af ((process3A_ok_iff k _ _ rand).mpr haccepts))
  refine ⟨⟨_, (accepted_state hres).2, ?_⟩, fun afMode hprevious hne => ⟨rand, o, w, ?_⟩⟩
  · have hadmitted := afNext_step_admitted inv hok haccepts
    rw [← haf] at hadmitted
    exact hadmitted
  · have haccepts' : Accepts3A k { s.camera.threeA with mAfState := .inactive }
      (takeSettings s.camera.table r).1 := haccepts
    have hres' : (CameraState.processCaptureRequest k { s.camera with
        threeA := { s.camera.threeA with mAfState := .inactive } } (some r) rand o w).1 = .ok :=
      accepted_iff.mpr ⟨hvalid, haccepts', hgood⟩
    have haf' := congrArg Prod.fst (process3A_af ((process3A_ok_iff k _ _ rand).mpr haccepts'))
    refine ⟨hres', (accepted_state hres').2.trans ((accepted_state hres).2.trans ?_).symm⟩
    have hchanged := afNext_of_changed inv hok haccepts hprevious hne
    exact congrArg (fun afState => some (AfState.code afState))
      (haf.trans (hchanged.trans haf'.symm))

end Step

theorem focusInv_step {k : Emulation} {s s' : FocusState} {a : FocusAction}
    {es : List FocusReport} (inv : FocusInv s) (hok : focusOk s a)
    (h : (focusMachine k).step s a = some (s', es)) :
    FocusInv s' ∧ ∀ report ∈ es, report.Admitted ∧ report.FromInactive k := by
  cases a with
  | request r rand o w =>
    simp only [focusMachine, Option.ite_none_right_eq_some, Option.some.injEq,
      Prod.mk.injEq] at h
    obtain ⟨hres, rfl, rfl⟩ := h
    refine ⟨focusInv_request inv hok hres, fun report hreport => ?_⟩
    rw [List.mem_singleton.mp hreport]
    exact report_good inv hok hres
  | elsewhere mStatus table =>
    simp only [focusMachine, Option.some.injEq, Prod.mk.injEq] at h
    obtain ⟨rfl, rfl⟩ := h
    exact ⟨⟨inv.fresh, inv.admitted, inv.remembered⟩, by simp⟩

/-- Where every change of the AF mode finds AF in a state that needs no reset, each result names an
AF state of its mode, and a changed mode starts as from inactive. -/
theorem reports_admitted_of_resetUnneeded (k : Emulation) (mStatus : CameraStatus)
    (table : StreamTable) {tr : List FocusReport} {s : FocusState}
    (run : (focusMachine k).Run focusOk (connectedFocus mStatus table) tr s) :
    ∀ report ∈ tr, report.Admitted ∧ report.FromInactive k := by
  have hinv : FocusInv s ∧ ∀ report ∈ tr, report.Admitted ∧ report.FromInactive k := by
    induction run with
    | nil => exact ⟨⟨fun _ => rfl, by simp [connectedFocus], by simp [connectedFocus]⟩, by simp⟩
    | snoc _ hok hs ih =>
      obtain ⟨inv, hreports⟩ := focusInv_step ih.1 hok hs
      refine ⟨inv, fun report hreport => ?_⟩
      rcases List.mem_append.mp hreport with h | h
      · exact ih.2 report h
      · exact hreports report h
  exact hinv.2

instance : (s : FocusState) → (a : FocusAction) → Decidable (focusOk s a)
  | _, .request _ _ _ _ => inferInstanceAs (Decidable (_ → _ → _ → _ → _ → _ = true))
  | _, .elsewhere _ _ => inferInstanceAs (Decidable True)

def focusRequest (afMode afTrigger : Int64) : CaptureRequest where
  frameNumber := 1
  settings := some [(.controlMode, 1), (.controlAeMode, 1), (.controlAfMode, afMode),
    (.controlAfTrigger, afTrigger), (.controlAwbMode, 1)]
  inputBuffer := none
  outputBuffers := some [previewBuffer 10]

theorem reports_admitted_after_cancel :
    ∃ tr s, (focusMachine backCamera).Run focusOk (connectedFocus .ready previewTable) tr s ∧
      tr.map FocusReport.afState = [some 3, some 4, some 0, some 0, some 1] ∧
      ∀ report ∈ tr, report.Admitted ∧ report.FromInactive backCamera := by
  obtain ⟨tr, s, run, hreports⟩ := Machine.run_of_exec (focusMachine backCamera) focusOk
    (connectedFocus .ready previewTable)
    [.request (focusRequest 1 1) {} {} {}, .request (focusRequest 1 0) ⟨0, 1⟩ {} {},
      .request (focusRequest 1 2) {} {} {}, .request (focusRequest 4 0) {} {} {},
      .request (focusRequest 4 0) {} {} {}]
    (fun _ tr => tr.map FocusReport.afState = [some 3, some 4, some 0, some 0, some 1])
    (by decide +kernel)
  exact ⟨tr, s, run, hreports, reports_admitted_of_resetUnneeded backCamera _ _ run⟩

/-- Two requests in CONTINUOUS_PICTURE start a passive scan, and an idle request in AUTO then
reports PASSIVE_SCAN. -/
theorem auto_reports_passiveScan :
    ¬ ∀ (k : Emulation) (mStatus : CameraStatus) (table : StreamTable) (tr : List FocusReport)
        (s : FocusState), k.mFacingBack = true →
      (focusMachine k).Run (fun _ _ => True) (connectedFocus mStatus table) tr s →
        ∀ report ∈ tr, report.Admitted ∧ report.FromInactive k := by
  intro h
  obtain ⟨tr, s, run, hreport⟩ := Machine.run_of_exec (focusMachine backCamera) (fun _ _ => True)
    (connectedFocus .ready previewTable)
    [.request (focusRequest 4 0) {} {} {}, .request (focusRequest 4 0) {} {} {},
      .request (focusRequest 1 0) ⟨0, 1⟩ {} {}]
    (fun _ tr => ∃ report ∈ tr, report.afMode = .auto ∧ report.afState = some 1)
    (by decide +kernel)
  obtain ⟨report, hmem, hmode, hcode⟩ := hreport
  obtain ⟨⟨afState, hstate, hadmits⟩, -⟩ :=
    h backCamera .ready previewTable tr s rfl run report hmem
  rw [hmode] at hadmits
  rw [hcode, Option.some.injEq] at hstate
  cases afState <;> first | exact absurd hadmits (by decide) | exact absurd hstate (by decide)

end Rpi3Device.Camera3
