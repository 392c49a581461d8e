import Mathlib.Tactic
import Rpi3Device.Camera3.Process3A

/-!
# What a failed capture request leaves behind

`processCaptureRequest` switches the camera to ACTIVE, takes over the cached
settings and advances AE, AF and AWB before it comes to its last failure exits,
and none of these undoes anything. A failed call is without effect exactly when
validation rejects it, or when the camera was ACTIVE, the request brought its own
settings and every stage of the 3A emulation that runs happens to rest.
-/

namespace Rpi3Device.Camera3

structure CameraState where
  mStatus : CameraStatus
  table : StreamTable
  threeA : State3A

def CameraState.processCaptureRequest (k : Emulation) (c : CameraState)
    (request : Option CaptureRequest) (rand : Rand) (o : BufferOutcomes) (w : WaitOutcomes) :
    StatusT × CameraState :=
  match request with
  | none => (validateRequest c.table c.mStatus none, c)
  | some r =>
    if validateRequest c.table c.mStatus (some r) = .ok then
      let settings := (takeSettings c.table r).1
      let b := startRequest c.table r (c.threeA.fake k settings rand) o
      let c' : CameraState := ⟨b.mStatus, b.table, (c.threeA.process3A k settings rand).2⟩
      match b.result with
      | .error res => (res, c')
      | .ok p =>
        if waitForSensor p.needJpeg w = .ok then
          (.ok, { c' with table := { c'.table with mPrevSettings := p.settings } })
        else (waitForSensor p.needJpeg w, c')
    else (validateRequest c.table c.mStatus (some r), c)

def State3A.listed (s : State3A) :
    Bool × (AeState × AeMode × Int32 × Int64 × Int64 × Int32) × (AfState × AfMode) × AwbState :=
  (s.mFacePriority, s.ae, s.af, s.mAwbState)

section Conditions
variable (k : Emulation) (s : State3A) (settings : CameraMetadata)

def AeAccepts : Prop :=
  ¬ (settings.findU8 .controlAeMode = none ∧ k.backwardCompatible = true) ∧
    (aeModeOf settings ≠ .off → precaptureTrigger settings = false →
      aeLocked settings = false → s.mAeState ≠ .flashRequired)

/-- AE is off and inactive, locked and stays so, or searches without getting nearer; or it fails
before it touches a field. -/
def AeRests : Prop :=
  (settings.findU8 .controlAeMode = none ∧ k.backwardCompatible = true) ∨
    s.mAeMode = aeModeOf settings ∧
      if aeModeOf settings = .off then s.mAeState = .inactive
      else precaptureTrigger settings = false ∧
        match s.mAeState with
        | .locked => aeLocked settings = true
        | .flashRequired => aeLocked settings = false
        | .searching => aeLocked settings = false ∧
            k.track s.mAeTargetExposureTime s.mAeCurrentExposureTime = s.mAeCurrentExposureTime ∧
            ¬ (s.mAeTargetExposureTime - s.mAeCurrentExposureTime).abs <
              s.mAeTargetExposureTime / 10
        | _ => False

def AfSupported : Prop :=
  ((afModeOf settings).isAuto = true ∨ (afModeOf settings).isContinuous = true) ∧
    k.mFacingBack = true

def AfTrigger.known : AfTrigger → Bool
  | .other _ => false
  | _ => true

def AfAccepts : Prop :=
  ¬ (settings.findU8 .controlAfMode = none ∧ k.backwardCompatible = true) ∧
    (afModeOf settings ≠ .off → AfSupported k settings ∧ (afTriggerOf settings).known = true)

def AfStateRests (afMode : AfMode) (start : Bool) (rand : Nat) : AfState → Prop
  | .inactive => start = false ∧ afMode.isContinuous = false
  | .passiveScan => start = false ∧ rand % 3 ≠ 0
  | .passiveFocused => start = false
  | .activeScan => False
  | .focusedLocked => start = false ∨ afMode.isAuto = false
  | .notFocusedLocked => start = false ∨ afMode.isAuto = false
  | .passiveUnfocused => True

def AfRests (rand : Nat) : Prop :=
  (settings.findU8 .controlAfMode = none ∧ k.backwardCompatible = true) ∨
    (afModeOf settings = .off → s.mAfState = .inactive) ∧
      (AfSupported k settings → s.mAfMode = afModeOf settings ∧
        match afTriggerOf settings with
        | .idle => AfStateRests (afModeOf settings) false rand s.mAfState
        | .start => AfStateRests (afModeOf settings) true rand s.mAfState
        | .cancel => s.mAfState = .inactive
        | .other _ => True)

def AwbMode.known : AwbMode → Bool
  | .other _ => false
  | _ => true

def AwbRests : Prop :=
  (settings.findU8 .controlAwbMode = none ∧ k.backwardCompatible = true) ∨
    match awbModeOf settings with
    | .off => s.mAwbState = .inactive
    | .other _ => True
    | _ => s.mAwbState = if awbLocked settings = true then .locked else .converged

def AwbAccepts : Prop :=
  ¬ (settings.findU8 .controlAwbMode = none ∧ k.backwardCompatible = true) ∧
    (awbModeOf settings).known = true

theorem runAeScan_ok_iff (rand : Nat) (h : s.mAeState ≠ .precapture) :
    (s.runAeScan k rand).1 = .ok ↔ s.mAeState ≠ .flashRequired := by
  cases hs : s.mAeState with
  | precapture => exact absurd hs h
  | flashRequired => simp [State3A.runAeScan, hs]
  | _ =>
    simp only [State3A.runAeScan, hs]
    try split
    all_goals simp

theorem doFakeAE_ok_iff (rand : Nat) :
    (s.doFakeAE k settings rand).1 = .ok ↔ AeAccepts k s settings := by
  simp only [State3A.doFakeAE, AeAccepts]
  split_ifs with hmissing hoff hpre hlock
  · simp [hmissing]
  · simp [hmissing, hoff]
  · rcases hpre with hpre | hpre
    · simp [hmissing, hpre]
    · simp [hmissing, hpre]
  · rw [not_or] at hpre
    have hscan := runAeScan_ok_iff k { s with mAeMode := aeModeOf settings } rand hpre.2
    refine hscan.trans ?_
    simp [hmissing, hoff, hpre.1, hlock]
  · simp [hmissing, hlock]

theorem runPrecapture_changes (locked : Bool) :
    (s.runPrecapture k locked).mAeState ≠ s.mAeState ∨
      (s.runPrecapture k locked).mAeCounter ≠ s.mAeCounter := by
  simp only [State3A.runPrecapture]
  by_cases hs : s.mAeState = .precapture
  · simp only [hs, ne_eq, not_true_eq_false, ↓reduceIte]
    split_ifs with hdone hlocked
    · simp
    · simp
    · simp
  · have hcounter : ¬ ((0 : Int32) > kPrecaptureMinFrames) := by decide
    simp only [ne_eq, hs, not_false_eq_true, ↓reduceIte, hcounter, false_and]
    exact .inl (Ne.symm hs)

theorem runAeScan_rests_iff (rand : Nat) (h : s.mAeState ≠ .precapture) :
    (s.runAeScan k rand).2.ae = s.ae ↔
      match s.mAeState with
      | .flashRequired => True
      | .searching =>
        k.track s.mAeTargetExposureTime s.mAeCurrentExposureTime = s.mAeCurrentExposureTime ∧
          ¬ (s.mAeTargetExposureTime - s.mAeCurrentExposureTime).abs <
            s.mAeTargetExposureTime / 10
      | _ => False := by
  cases hs : s.mAeState with
  | precapture => exact absurd hs h
  | flashRequired => simp [State3A.runAeScan, hs]
  | searching =>
    simp only [State3A.runAeScan, hs]
    split_ifs with hclose
    · simp only [State3A.ae, hs, Prod.mk.injEq, reduceCtorEq, false_and, false_iff, not_and,
        not_not]
      intro htrack
      rwa [htrack] at hclose
    · simp only [State3A.ae, hs, Prod.mk.injEq, true_and, and_true]
      refine ⟨fun htrack => ⟨htrack, ?_⟩, fun hrests => hrests.1⟩
      rwa [htrack] at hclose
  | locked => simp [State3A.runAeScan, hs, State3A.ae]
  | inactive =>
    simp only [State3A.runAeScan, hs]
    split_ifs <;> simp [State3A.ae, hs]
  | converged =>
    simp only [State3A.runAeScan, hs]
    split_ifs <;> simp [State3A.ae, hs]

theorem doFakeAE_mode (rand : Nat)
    (h : ¬ (settings.findU8 .controlAeMode = none ∧ k.backwardCompatible = true)) :
    (s.doFakeAE k settings rand).2.mAeMode = aeModeOf settings := by
  simp only [State3A.doFakeAE]
  split_ifs
  · rfl
  · simp only [State3A.runPrecapture]
    split_ifs <;> rfl
  · simp only [State3A.runAeScan]
    split <;> (try split) <;> rfl
  · rfl

theorem doFakeAE_rests_iff (rand : Nat) :
    (s.doFakeAE k settings rand).2.ae = s.ae ↔ AeRests k s settings := by
  by_cases hmissing : settings.findU8 .controlAeMode = none ∧ k.backwardCompatible = true
  · simp [State3A.doFakeAE, AeRests, hmissing]
  by_cases hmode : s.mAeMode = aeModeOf settings
  swap
  · have hnew := doFakeAE_mode k s settings rand hmissing
    refine ⟨fun h => absurd ?_ hmode, fun h => ?_⟩
    · rw [← hnew]
      exact (congrArg (fun ae => ae.2.1) h).symm
    · simp [AeRests, hmissing, hmode] at h
  · have hself : { s with mAeMode := aeModeOf settings } = s := by rw [← hmode]
    rw [AeRests, or_iff_right hmissing, and_iff_right hmode, State3A.doFakeAE, if_neg hmissing]
    simp only [hself]
    split_ifs with hoff hpre hlock
    · simp [State3A.ae, hmode, eq_comm]
    · have hchanges := runPrecapture_changes k s (aeLocked settings)
      refine ⟨fun h => ?_, fun h => ?_⟩
      · simp only [State3A.ae, Prod.mk.injEq] at h
        simp [h] at hchanges
      · rcases hpre with hpre | hpre
        · simp [hpre] at h
        · simp [hpre] at h
    · rw [not_or] at hpre
      rw [runAeScan_rests_iff k s rand hpre.2]
      cases hs : s.mAeState <;> simp [hpre.1, hlock]
    · rw [not_or] at hpre
      cases hs : s.mAeState <;> simp [State3A.ae, hs, hpre.1, hlock, hmode]

theorem AfMode.not_isContinuous_of_isAuto {afMode : AfMode} (h : afMode.isAuto = true) :
    afMode.isContinuous = false := by
  cases afMode <;> simp [AfMode.isAuto] at h <;> rfl

theorem afTransition_rests_iff {afMode : AfMode}
    (h : afMode.isAuto = true ∨ afMode.isContinuous = true) (start : Bool) (rand : Nat)
    (afState : AfState) :
    afTransition afMode start false rand afState = afState ↔
      AfStateRests afMode start rand afState := by
  have hsweep : ∀ afState, afState ≠ .focusedLocked → afState ≠ .notFocusedLocked →
      sweepResult rand ≠ afState := by
    intro afState hfocused hnot
    unfold sweepResult
    split_ifs
    · exact Ne.symm hfocused
    · exact Ne.symm hnot
  have hauto := @AfMode.not_isContinuous_of_isAuto afMode
  cases afState with
  | inactive =>
    simp only [afTransition, AfStateRests]
    cases start <;> cases ha : afMode.isAuto <;> cases hc : afMode.isContinuous <;> simp_all
  | passiveScan =>
    cases start with
    | true => simp [afTransition, AfStateRests, hsweep]
    | false =>
      simp only [afTransition, AfStateRests]
      split_ifs <;> simp_all
  | passiveFocused => cases start <;> simp [afTransition, AfStateRests, hsweep]
  | activeScan => simp [afTransition, AfStateRests, hsweep]
  | focusedLocked =>
    simp only [afTransition, AfStateRests]
    cases start <;> cases afMode.isAuto <;> simp
  | notFocusedLocked =>
    simp only [afTransition, AfStateRests]
    cases start <;> cases afMode.isAuto <;> simp
  | passiveUnfocused => simp [afTransition, AfStateRests]

theorem not_afSupported_iff :
    ¬ AfSupported k settings ↔
      ((afModeOf settings).isAuto = false ∧ (afModeOf settings).isContinuous = false) ∨
        k.mFacingBack = false := by
  simp only [AfSupported, not_and_or, not_or, Bool.not_eq_true]

theorem doFakeAF_ok_iff (rand : Nat) :
    (s.doFakeAF k settings rand).1 = .ok ↔ AfAccepts k settings := by
  simp only [State3A.doFakeAF, AfAccepts]
  split_ifs with hmissing hoff hmode hback
  · simp [hmissing]
  · simp [hmissing, hoff]
  · simp [hoff, (not_afSupported_iff k settings).mpr (.inl hmode)]
  · simp [hoff, (not_afSupported_iff k settings).mpr (.inr hback)]
  · have hsupported : AfSupported k settings := by
      by_contra hnot
      rcases (not_afSupported_iff k settings).mp hnot with h | h
      · exact hmode h
      · exact hback h
    cases htrigger : afTriggerOf settings <;>
      simp [hmissing, hoff, hsupported, AfTrigger.known]

theorem doFakeAF_rests_iff (rand : Nat) :
    (s.doFakeAF k settings rand).2.af = s.af ↔ AfRests k s settings rand := by
  simp only [State3A.doFakeAF, AfRests]
  split_ifs with hmissing hoff hmode hback
  · simp [hmissing]
  · have hnot : ¬ AfSupported k settings := by
      simp [AfSupported, hoff, AfMode.isAuto, AfMode.isContinuous]
    rw [or_iff_right hmissing, forall_prop_of_true hoff]
    simp only [State3A.af, Prod.mk.injEq, and_true, hnot, false_implies]
    exact eq_comm
  · simp [hoff, (not_afSupported_iff k settings).mpr (.inl hmode)]
  · simp [hoff, (not_afSupported_iff k settings).mpr (.inr hback)]
  · have hsupported : AfSupported k settings := by
      by_contra hnot
      rcases (not_afSupported_iff k settings).mp hnot with h | h
      · exact hmode h
      · exact hback h
    rw [or_iff_right hmissing, and_iff_right (fun h => absurd h hoff),
      forall_prop_of_true hsupported]
    by_cases hsame : s.mAfMode = afModeOf settings
    · rw [and_iff_right hsame]
      cases htrigger : afTriggerOf settings with
      | idle => simp [State3A.af, hsame, afTransition_rests_iff hsupported.1]
      | start => simp [State3A.af, hsame, afTransition_rests_iff hsupported.1]
      | cancel => simp [State3A.af, hsame, eq_comm]
      | other code => simp [State3A.af, hsame]
    · cases htrigger : afTriggerOf settings <;> simp [State3A.af, hsame, Ne.symm hsame]

theorem doFakeAWB_ok_iff : (s.doFakeAWB k settings).1 = .ok ↔ AwbAccepts k settings := by
  unfold State3A.doFakeAWB AwbAccepts
  split
  · rename_i hmissing
    simp [hmissing]
  · rename_i hmissing
    cases hmode : awbModeOf settings <;> simp [hmissing, AwbMode.known]

theorem doFakeAWB_rests_iff :
    (s.doFakeAWB k settings).2.mAwbState = s.mAwbState ↔ AwbRests k s settings := by
  unfold State3A.doFakeAWB AwbRests
  split
  · rename_i hmissing
    simp [hmissing]
  · rename_i hmissing
    rw [or_iff_right hmissing]
    cases hmode : awbModeOf settings with
    | other code => simp
    | _ => exact eq_comm

def StagesRest (rand : Nat) : Prop :=
  AeRests k s settings ∧
    (AeAccepts k s settings →
      AfRests k s settings rand ∧ (AfAccepts k settings → AwbRests k s settings))

def StagesAccept : Prop :=
  AeAccepts k s settings ∧ AfAccepts k settings ∧ AwbAccepts k settings

theorem afRests_congr {s s' : State3A} (h : s'.af = s.af) (rand : Nat) :
    AfRests k s' settings rand ↔ AfRests k s settings rand := by
  simp only [State3A.af, Prod.mk.injEq] at h
  simp only [AfRests, h.1, h.2]

theorem awbRests_congr {s s' : State3A} (h : s'.mAwbState = s.mAwbState) :
    AwbRests k s' settings ↔ AwbRests k s settings := by
  simp only [AwbRests, h]

theorem runStages_ok_iff (rand : Rand) :
    (s.runStages k settings rand).1 = .ok ↔ StagesAccept k s settings := by
  have hae := doFakeAE_ok_iff k s settings rand.ae
  unfold State3A.runStages StagesAccept
  split
  · rename_i s' heq
    rw [heq] at hae
    rw [and_iff_right (hae.mp rfl)]
    have haf := doFakeAF_ok_iff k s' settings rand.af
    split
    · rename_i s'' heq'
      rw [heq'] at haf
      rw [and_iff_right (haf.mp rfl)]
      exact doFakeAWB_ok_iff k s'' settings
    · rename_i hfail
      have hres : (s'.doFakeAF k settings rand.af).1 ≠ .ok := fun h => hfail _ (Prod.ext h rfl)
      exact ⟨fun h => absurd h hres, fun h => absurd (haf.mpr h.1) hres⟩
  · rename_i hfail
    have hres : (s.doFakeAE k settings rand.ae).1 ≠ .ok := fun h => hfail _ (Prod.ext h rfl)
    exact ⟨fun h => absurd h hres, fun h => absurd (hae.mpr h.1) hres⟩

theorem runStages_rests_iff (rand : Rand) :
    (s.runStages k settings rand).2.listed = s.listed ↔ StagesRest k s settings rand.af := by
  have hae := doFakeAE_ok_iff k s settings rand.ae
  have haeRests := doFakeAE_rests_iff k s settings rand.ae
  obtain ⟨hface, haf, hawb⟩ := doFakeAE_frame k s settings rand.ae
  unfold State3A.runStages StagesRest
  split
  · rename_i s' heq
    rw [heq] at hae haeRests hface haf hawb
    dsimp only at hface haf hawb haeRests
    have hafOk := doFakeAF_ok_iff k s' settings rand.af
    have hafRests := (doFakeAF_rests_iff k s' settings rand.af).trans
      (afRests_congr k settings haf rand.af)
    obtain ⟨hface', hae', hawb'⟩ := doFakeAF_frame k s' settings rand.af
    rw [← haeRests, forall_prop_of_true (hae.mp rfl)]
    split
    · rename_i s'' heq'
      rw [heq'] at hafOk hafRests hface' hae' hawb'
      dsimp only at hafRests hface' hae' hawb'
      have hawbRests := (doFakeAWB_rests_iff k s'' settings).trans
        (awbRests_congr k settings (hawb'.trans hawb))
      obtain ⟨hface'', hae'', haf''⟩ := doFakeAWB_frame k s'' settings
      rw [forall_prop_of_true (hafOk.mp rfl), ← hawbRests, ← hafRests]
      simp [State3A.listed, hface'', hae'', haf'', hface', hae', hface, haf, hawb', hawb]
    · rename_i hfail
      have hres : (s'.doFakeAF k settings rand.af).1 ≠ .ok := fun h => hfail _ (Prod.ext h rfl)
      rw [← hafRests, ← hafOk]
      simp [State3A.listed, hface', hae', hawb', hface, haf, hawb, hres]
  · rename_i hfail
    have hres : (s.doFakeAE k settings rand.ae).1 ≠ .ok := fun h => hfail _ (Prod.ext h rfl)
    rw [← haeRests, ← hae]
    simp [State3A.listed, hface, haf, hawb, hres]

/-- The emulation leaves the listed fields as they are: it fails before the first stage, or the
stages that run rest. -/
def Rests3A (rand : Nat) : Prop :=
  match controlModeOf settings with
  | none => True
  | some .off => s.mAeMode = .off ∧ s.mAfMode = .off ∧ s.mAeState = .inactive ∧
      s.mAfState = .inactive ∧ s.mAwbState = .inactive
  | some .useSceneMode =>
      k.backwardCompatible = true →
        settings.findU8 .controlSceneMode = some ANDROID_CONTROL_SCENE_MODE_FACE_PRIORITY →
          s.mFacePriority = true ∧ StagesRest k s settings rand
  | some (.other _) => s.mFacePriority = false ∧ StagesRest k s settings rand

def Accepts3A : Prop :=
  match controlModeOf settings with
  | none => False
  | some .off => True
  | some .useSceneMode =>
      k.backwardCompatible = true ∧
        settings.findU8 .controlSceneMode = some ANDROID_CONTROL_SCENE_MODE_FACE_PRIORITY ∧
          StagesAccept k s settings
  | some (.other _) => StagesAccept k s settings

theorem runStages_facePriority (rand : Rand) :
    (s.runStages k settings rand).2.mFacePriority = s.mFacePriority := by
  have hae := (doFakeAE_frame k s settings rand.ae).1
  unfold State3A.runStages
  split
  · rename_i s' heq
    rw [heq] at hae
    have haf := (doFakeAF_frame k s' settings rand.af).1
    split
    · rename_i s'' heq'
      rw [heq'] at haf
      exact (doFakeAWB_frame k s'' settings).1.trans (haf.trans hae)
    · exact haf.trans hae
  · exact hae

theorem facePriority_rests_iff (face : Bool) (rand : Rand) :
    ({ s with mFacePriority := face }.runStages k settings rand).2.listed = s.listed ↔
      s.mFacePriority = face ∧ StagesRest k s settings rand.af := by
  by_cases hface : s.mFacePriority = face
  · rw [← hface, and_iff_right rfl]
    exact runStages_rests_iff k s settings rand
  · refine ⟨fun h => absurd ?_ hface, fun h => absurd h.1 hface⟩
    have hkept := runStages_facePriority k { s with mFacePriority := face } settings rand
    exact (congrArg Prod.fst h).symm.trans hkept

theorem process3A_rests_iff (rand : Rand) :
    (s.process3A k settings rand).2.listed = s.listed ↔ Rests3A k s settings rand.af := by
  rcases hmode : controlModeOf settings with _ | _ | _ | code
  · simp [State3A.process3A, Rests3A, hmode]
  · simp only [State3A.process3A, Rests3A, hmode, State3A.listed, State3A.ae, State3A.af,
      Prod.mk.injEq, true_and, and_true]
    constructor
    · intro h
      obtain ⟨⟨hae, haeMode⟩, ⟨haf, hafMode⟩, hawb⟩ := h
      exact ⟨haeMode.symm, hafMode.symm, hae.symm, haf.symm, hawb.symm⟩
    · intro h
      obtain ⟨haeMode, hafMode, hae, haf, hawb⟩ := h
      exact ⟨⟨hae.symm, haeMode.symm⟩, ⟨haf.symm, hafMode.symm⟩, hawb.symm⟩
  · simp only [State3A.process3A, Rests3A, hmode]
    split_ifs with hcompat hscene
    · simp [hcompat]
    · rw [facePriority_rests_iff, forall_prop_of_true (by simpa using hcompat),
        forall_prop_of_true hscene]
    · simp [hscene]
  · simp only [State3A.process3A, Rests3A, hmode]
    exact facePriority_rests_iff k s settings false rand

theorem process3A_ok_iff (rand : Rand) :
    (s.process3A k settings rand).1 = .ok ↔ Accepts3A k s settings := by
  rcases hmode : controlModeOf settings with _ | _ | _ | code
  · simp [State3A.process3A, Accepts3A, hmode]
  · simp [State3A.process3A, Accepts3A, hmode]
  · simp only [State3A.process3A, Accepts3A, hmode]
    split_ifs with hcompat hscene
    · simp [hcompat]
    · rw [and_iff_right (by simpa using hcompat), and_iff_right hscene]
      exact runStages_ok_iff k _ settings rand
    · simp [hscene]
  · simp only [State3A.process3A, Accepts3A, hmode]
    exact runStages_ok_iff k _ settings rand

end Conditions

def OutcomesGood (t : StreamTable) (r : CaptureRequest) (o : BufferOutcomes) (w : WaitOutcomes) :
    Prop :=
  (∀ j < r.outputs.length, o.result j = .ok) ∧
    ((∃ b ∈ r.outputs, (t.streams b.stream).format = .blob) →
      w.jpegDone = true ∧ w.reserve = .ok) ∧ w.readout = .ok ∧ w.vsync = true

section Call
variable (k : Emulation) (c : CameraState) (r : CaptureRequest) (rand : Rand)
  (o : BufferOutcomes) (w : WaitOutcomes)

def CameraState.abandoned : CameraState where
  mStatus := .active
  table := (takeSettings c.table r).2
  threeA := (c.threeA.process3A k (takeSettings c.table r).1 rand).2

theorem processCaptureRequest_valid (hvalid : validateRequest c.table c.mStatus (some r) = .ok) :
    (Accepts3A k c.threeA (takeSettings c.table r).1 ∧ OutcomesGood c.table r o w ∧
      (c.processCaptureRequest k (some r) rand o w).1 = .ok) ∨
    (¬ (Accepts3A k c.threeA (takeSettings c.table r).1 ∧ OutcomesGood c.table r o w) ∧
      (c.processCaptureRequest k (some r) rand o w).1 ≠ .ok ∧
      (c.processCaptureRequest k (some r) rand o w).2 = c.abandoned k r rand) := by
  have h3A : (process3A (c.threeA.fake k (takeSettings c.table r).1 rand)
      (takeSettings c.table r).1).1 = .ok ↔ Accepts3A k c.threeA (takeSettings c.table r).1 := by
    rw [process3A_fake_fst]
    exact process3A_ok_iff k c.threeA (takeSettings c.table r).1 rand
  simp only [CameraState.processCaptureRequest, hvalid, ↓reduceIte, startRequest]
  by_cases haccepts : Accepts3A k c.threeA (takeSettings c.table r).1
  · have hok := h3A.mpr haccepts
    rcases lockOutputBuffers_cases c.table.streams o 0 r.outputs with
      ⟨hall, hloop⟩ | ⟨pre, b, post, hbs, hpre, hfail, hloop⟩
    · simp only [Nat.zero_add] at hall
      have hwaits : waitForSensor ((r.outputs.map fun b => destBuf (c.table.streams b.stream) b).any
          (fun b => b.format = .blob)) w = .ok ↔ OutcomesGood c.table r o w := by
        rw [waitForSensor_ok_iff, prepared_needJpeg, OutcomesGood, and_iff_right hall]
      simp only [hok, ↓reduceDIte, takeSettings_streams, hloop, PreparedRequest.needJpeg]
      by_cases hgood : OutcomesGood c.table r o w
      · rw [if_pos (hwaits.mpr hgood)]
        exact .inl ⟨haccepts, hgood, rfl⟩
      · have hres := mt hwaits.mp hgood
        rw [if_neg hres]
        exact .inr ⟨fun h => hgood h.2, hres, rfl⟩
    · simp only [hok, ↓reduceDIte, takeSettings_streams, hloop]
      refine .inr ⟨fun h => hfail ?_, by simp, rfl⟩
      rw [Nat.zero_add]
      exact h.2.1 _ (by simp [hbs])
  · have hres := mt h3A.mp haccepts
    simp only [hres, ↓reduceDIte]
    exact .inr ⟨fun h => haccepts h.1, hres, rfl⟩

theorem abandoned_unchanged_iff (hvalid : validateRequest c.table c.mStatus (some r) = .ok) :
    ((c.abandoned k r rand).mStatus = c.mStatus ∧ (c.abandoned k r rand).table = c.table ∧
      (c.abandoned k r rand).threeA.listed = c.threeA.listed) ↔
    c.mStatus = .active ∧ r.settings ≠ none ∧
      Rests3A k c.threeA (takeSettings c.table r).1 rand.af := by
  have htable : (takeSettings c.table r).2 = c.table ↔ r.settings ≠ none := by
    cases hsettings : r.settings with
    | some settings => simp [takeSettings, hsettings]
    | none =>
      have hprev : c.table.mPrevSettings ≠ [] := by
        intro hnil
        simp only [validateRequest, hsettings, hnil, and_self, ↓reduceIte] at hvalid
        split_ifs at hvalid
      simp only [takeSettings, hsettings, ne_eq, not_true_eq_false, iff_false]
      exact fun h => hprev (congrArg StreamTable.mPrevSettings h).symm
  simp only [CameraState.abandoned, process3A_rests_iff, htable]
  exact and_congr_left' eq_comm

end Call

/-- A failed request leaves the status, the stream table with the cached settings and the listed
fields of the emulation alone, exactly when it is not valid, or nothing fails after validation, or
it abandons nothing. -/
theorem failed_request_unchanged_iff (k : Emulation) (c : CameraState)
    (request : Option CaptureRequest) (rand : Rand) (o : BufferOutcomes) (w : WaitOutcomes) :
    ((c.processCaptureRequest k request rand o w).1 ≠ .ok →
      (c.processCaptureRequest k request rand o w).2.mStatus = c.mStatus ∧
      (c.processCaptureRequest k request rand o w).2.table = c.table ∧
      (c.processCaptureRequest k request rand o w).2.threeA.listed = c.threeA.listed) ↔
    ∀ r, request = some r → validateRequest c.table c.mStatus (some r) = .ok →
      (Accepts3A k c.threeA (takeSettings c.table r).1 ∧ OutcomesGood c.table r o w) ∨
      (c.mStatus = .active ∧ r.settings ≠ none ∧
        Rests3A k c.threeA (takeSettings c.table r).1 rand.af) := by
  cases request with
  | none => simp [CameraState.processCaptureRequest]
  | some r =>
    simp only [Option.some.injEq, forall_eq']
    by_cases hvalid : validateRequest c.table c.mStatus (some r) = .ok
    · rw [forall_prop_of_true hvalid]
      rcases processCaptureRequest_valid k c r rand o w hvalid with
        ⟨haccepts, hgood, hres⟩ | ⟨hbad, hres, heq⟩
      · exact ⟨fun _ => .inl ⟨haccepts, hgood⟩, fun _ h => absurd hres h⟩
      · rw [forall_prop_of_true hres, heq, or_iff_right hbad]
        exact abandoned_unchanged_iff k c r rand hvalid
    · simp [CameraState.processCaptureRequest, hvalid]

def backCamera : Emulation where
  mFacingBack := true
  backwardCompatible := true
  track := fun _ current => current
  wander := fun target _ => target

def manualRequest : CaptureRequest :=
  { twoBufferRequest with settings := some [(.controlMode, 0)] }

/-- A READY camera whose request fails on the lock of its second buffer is ACTIVE afterwards. -/
theorem failed_lock_activates_camera :
    ¬ ∀ (k : Emulation) (c : CameraState) (request : Option CaptureRequest) (rand : Rand)
        (o : BufferOutcomes) (w : WaitOutcomes),
      (c.processCaptureRequest k request rand o w).1 ≠ .ok →
        (c.processCaptureRequest k request rand o w).2.mStatus = c.mStatus ∧
        (c.processCaptureRequest k request rand o w).2.table.mPrevSettings =
          c.table.mPrevSettings ∧
        (c.processCaptureRequest k request rand o w).2.threeA.listed = c.threeA.listed := by
  intro h
  have hstatus := (h backCamera ⟨.ready, previewTable, {}⟩ (some manualRequest) {}
    { lock := fun i => if i = 1 then .badValue else .ok } {} (by decide +kernel)).1
  exact absurd hstatus (by decide +kernel)

end Rpi3Device.Camera3
