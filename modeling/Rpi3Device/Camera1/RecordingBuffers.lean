import Rpi3Device.TransitionSystem

/-!
# The buffers of recorded frames

A recorded frame is handed to the consumer in a buffer of its own, and only then is the buffer
put on the list on which `releaseRecordingFrame` looks for it. The consumer runs in between, or
calls back from the delivery itself. No lock is held for the list: a call may also run while a
buffer is being put on it, and the list may then be left with anything. The frames come one after
the other. The preview and the pictures use buffers that never come on the list.
-/

namespace Rpi3Device.Camera1
open TransitionSystem

structure CameraMemory where
  handle : ℕ
  data : ℕ
deriving DecidableEq

def CAMERA_MSG_VIDEO_FRAME : UInt32 := 0x0020

structure CallbackNotifier where
  mCameraMemoryTs : List CameraMemory := []
  mLastFrameTimestamp : Int64 := 0
  mFrameRefreshFreq : Int64 := 0
  mMessageEnabler : UInt32 := 0
  mVideoRecEnabled : Bool := false

namespace CallbackNotifier
variable (n : CallbackNotifier)

def enableMessage (msg_type : UInt32) : CallbackNotifier :=
  { n with mMessageEnabler := n.mMessageEnabler ||| msg_type }

def disableMessage (msg_type : UInt32) : CallbackNotifier :=
  { n with mMessageEnabler := n.mMessageEnabler &&& ~~~msg_type }

def enableVideoRecording (fps : Int32) : CallbackNotifier :=
  { n with
    mVideoRecEnabled := true
    mLastFrameTimestamp := 0
    mFrameRefreshFreq := 1000000000 / fps.toInt64 }

def disableVideoRecording : CallbackNotifier :=
  { n with mVideoRecEnabled := false, mLastFrameTimestamp := 0, mFrameRefreshFreq := 0 }

def cleanupCBNotifier : CallbackNotifier :=
  { n with
    mMessageEnabler := 0
    mLastFrameTimestamp := 0
    mFrameRefreshFreq := 0
    mVideoRecEnabled := false }

def isMessageEnabled (msg_type : UInt32) : Bool := n.mMessageEnabler &&& msg_type ≠ 0

def isNewVideoFrameTime (timestamp : Int64) : Bool × CallbackNotifier :=
  if timestamp - n.mLastFrameTimestamp ≥ n.mFrameRefreshFreq then
    (true, { n with mLastFrameTimestamp := timestamp })
  else (false, n)

/-- `onNextFrameAvailable` up to the delivery of the recorded frame, with the buffer that is
delivered. `cam_buff` is what the memory callback gives; `none` is NULL. -/
def deliverVideoFrame (timestamp : Int64) (cam_buff : Option CameraMemory) :
    CallbackNotifier × Option CameraMemory :=
  if n.isMessageEnabled CAMERA_MSG_VIDEO_FRAME = true ∧ n.mVideoRecEnabled = true then
    let time := n.isNewVideoFrameTime timestamp
    if time.1 = true then (time.2, cam_buff.filter fun buff => buff.data ≠ 0)
    else (time.2, none)
  else (n, none)

def registerVideoFrame (cam_buff : CameraMemory) : CallbackNotifier :=
  { n with mCameraMemoryTs := n.mCameraMemoryTs ++ [cam_buff] }

end CallbackNotifier

def eraseFrame (data : ℕ) : List CameraMemory → List CameraMemory × Option CameraMemory
  | [] => ([], none)
  | buff :: rest =>
    if buff.data = data then (rest, some buff)
    else (buff :: (eraseFrame data rest).1, (eraseFrame data rest).2)

def CallbackNotifier.releaseRecordingFrame (n : CallbackNotifier) (data : ℕ) :
    CallbackNotifier × Option CameraMemory :=
  ({ n with mCameraMemoryTs := (eraseFrame data n.mCameraMemoryTs).1 },
    (eraseFrame data n.mCameraMemoryTs).2)

/-- An operation on the list that a thread has begun and not finished. A release has `taken` the
buffer it looks for, if it finds one. -/
inductive ListOperation where
  | push_back (cam_buff : CameraMemory)
  | releaseRecordingFrame (taken : Option CameraMemory)

def ListOperation.pushed : ListOperation → Option CameraMemory
  | push_back cam_buff => some cam_buff
  | releaseRecordingFrame _ => none

def ListOperation.taken : ListOperation → Option CameraMemory
  | push_back _ => none
  | releaseRecordingFrame taken => taken

inductive RecordingAction where
  | deliver (timestamp : Int64) (cam_buff : Option CameraMemory)
  | push_back
  | releaseRecordingFrame (data : ℕ)
  /-- The `i`-th operation ends. Where operations have overlapped it leaves any list, and may have
  released any buffers. -/
  | finish (i : ℕ) (anyList anyReleased : List CameraMemory)
  | enableMessage (msg_type : UInt32)
  | disableMessage (msg_type : UInt32)
  | enableVideoRecording (fps : Int32)
  | disableVideoRecording
  | cleanupCBNotifier

inductive RecordingEvent where
  | delivered (buff : CameraMemory)
  /-- `early` says that the buffer with this data is not on the list yet. -/
  | releaseCalled (data : ℕ) (early : Bool)
  /-- An operation on the list begins while another one has not ended. -/
  | overlap
  | released (buff : CameraMemory)
deriving DecidableEq

/-- `delivering` is the buffer whose delivery has not returned, `held` are the delivered buffers for
which the consumer has not called `releaseRecordingFrame`. No lock keeps the `operations` on the
list apart: it is `torn` once two of them have overlapped. -/
structure RecordingRun where
  notifier : CallbackNotifier := {}
  delivering : Option CameraMemory := none
  operations : List ListOperation := []
  torn : Bool := false
  held : List CameraMemory := []

namespace RecordingRun
variable (s : RecordingRun)

def unlisted : List CameraMemory :=
  s.delivering.toList ++ s.operations.filterMap ListOperation.pushed

def live : List CameraMemory := s.unlisted ++ s.notifier.mCameraMemoryTs

def releasing : List CameraMemory := s.operations.filterMap ListOperation.taken

def begin (operation : ListOperation) : RecordingRun × List RecordingEvent :=
  ({ s with operations := s.operations ++ [operation], torn := s.torn || s.operations ≠ [] },
    if s.operations = [] then [] else [.overlap])

def effect (operation : ListOperation) (anyList anyReleased : List CameraMemory) :
    CallbackNotifier × List CameraMemory :=
  if s.torn = true then ({ s.notifier with mCameraMemoryTs := anyList }, anyReleased)
  else match operation with
    | .push_back cam_buff => (s.notifier.registerVideoFrame cam_buff, [])
    | .releaseRecordingFrame taken => (s.notifier, taken.toList)

end RecordingRun

def recordingMachine : Machine RecordingRun RecordingAction RecordingEvent where
  step s
    | .deliver timestamp cam_buff =>
      if s.unlisted = [] then
        let res := s.notifier.deliverVideoFrame timestamp cam_buff
        some ({ s with notifier := res.1, delivering := res.2, held := s.held ++ res.2.toList },
          res.2.toList.map .delivered)
      else none
    | .push_back =>
      match s.delivering with
      | some buff => some ({ s with delivering := none }.begin (.push_back buff))
      | none => none
    | .releaseRecordingFrame data =>
      let res := s.notifier.releaseRecordingFrame data
      let early := s.unlisted.any fun buff => buff.data = data
      let called := { s with
        notifier := res.1, held := s.held.eraseP fun buff => buff.data = data }
      let begun := called.begin (.releaseRecordingFrame res.2)
      some (begun.1, .releaseCalled data early :: begun.2)
    | .finish i anyList anyReleased =>
      match s.operations[i]? with
      | some operation =>
        let res := s.effect operation anyList anyReleased
        some ({ s with notifier := res.1, operations := s.operations.eraseIdx i },
          res.2.map .released)
      | none => none
    | .enableMessage msg_type =>
      some ({ s with notifier := s.notifier.enableMessage msg_type }, [])
    | .disableMessage msg_type =>
      some ({ s with notifier := s.notifier.disableMessage msg_type }, [])
    | .enableVideoRecording fps =>
      some ({ s with notifier := s.notifier.enableVideoRecording fps }, [])
    | .disableVideoRecording => some ({ s with notifier := s.notifier.disableVideoRecording }, [])
    | .cleanupCBNotifier => some ({ s with notifier := s.notifier.cleanupCBNotifier }, [])

/-- A new buffer does not share its data with one that is in use, and the consumer calls
`releaseRecordingFrame` once for each buffer that it gets. -/
def Legal (s : RecordingRun) : RecordingAction → Prop
  | .deliver _ (some buff) => ∀ other ∈ s.live, other.data ≠ buff.data
  | .releaseRecordingFrame data => ∃ buff ∈ s.held, buff.data = data
  | _ => True

def deliveredBuffers (tr : List RecordingEvent) : List CameraMemory :=
  tr.filterMap fun e => match e with
    | .delivered buff => some buff
    | _ => none

def releasedBuffers (tr : List RecordingEvent) : List CameraMemory :=
  tr.filterMap fun e => match e with
    | .released buff => some buff
    | _ => none

/-- The list has the delivered buffers that the consumer has not released, and each of the others
has been released, once. -/
def Balanced (tr : List RecordingEvent) (s : RecordingRun) : Prop :=
  s.notifier.mCameraMemoryTs.Perm s.held ∧
    (deliveredBuffers tr).Perm (s.held ++ releasedBuffers tr)

/-- No call for a buffer comes before the buffer is on the list. -/
def Patient (tr : List RecordingEvent) : Prop := ∀ data, .releaseCalled data true ∉ tr

/-- No two operations on the list overlap. -/
def Separate (tr : List RecordingEvent) : Prop := .overlap ∉ tr

section Erase
variable {data : ℕ} {list : List CameraMemory}

theorem eraseFrame_absent (h : ∀ buff ∈ list, buff.data ≠ data) :
    eraseFrame data list = (list, none) := by
  induction list with
  | nil => rfl
  | cons buff rest ih =>
    rw [List.forall_mem_cons] at h
    simp only [eraseFrame, if_neg h.1, ih h.2]

theorem eraseFrame_present {buff : CameraMemory} (hmem : buff ∈ list)
    (hapart : (list.map CameraMemory.data).Nodup) :
    (eraseFrame buff.data list).2 = some buff ∧
      list.Perm (buff :: (eraseFrame buff.data list).1) := by
  induction list with
  | nil => simp at hmem
  | cons first rest ih =>
    rw [List.map_cons, List.nodup_cons] at hapart
    by_cases hfirst : first.data = buff.data
    · have heq : first = buff := by
        rcases List.mem_cons.mp hmem with heq | htail
        · exact heq.symm
        · exact absurd (hfirst ▸ List.mem_map_of_mem htail) hapart.1
      subst heq
      simp [eraseFrame]
    · have htail : buff ∈ rest := by
        rcases List.mem_cons.mp hmem with heq | htail
        · exact absurd (heq ▸ rfl) hfirst
        · exact htail
      obtain ⟨htaken, hperm⟩ := ih htail hapart.2
      simp only [eraseFrame, if_neg hfirst]
      exact ⟨htaken, (hperm.cons first).trans (.swap ..)⟩

end Erase

structure Books (tr : List RecordingEvent) (s : RecordingRun) : Prop where
  single : s.operations.length ≤ 1
  whole : s.torn = false
  apart : (s.live.map CameraMemory.data).Nodup
  account : ∃ leaked, s.live.Perm (s.held ++ leaked) ∧ (leaked = [] ↔ Patient tr)
  delivered : (deliveredBuffers tr).Perm (s.live ++ (s.releasing ++ releasedBuffers tr))

section Runs
variable {tr es : List RecordingEvent} {s s' : RecordingRun}

theorem deliveredBuffers_append :
    deliveredBuffers (tr ++ es) = deliveredBuffers tr ++ deliveredBuffers es := by
  simp [deliveredBuffers]

theorem releasedBuffers_append :
    releasedBuffers (tr ++ es) = releasedBuffers tr ++ releasedBuffers es := by
  simp [releasedBuffers]

theorem deliveredBuffers_released (buffs : List CameraMemory) :
    deliveredBuffers (buffs.map .released) = [] := by
  simp [deliveredBuffers]

theorem releasedBuffers_released (buffs : List CameraMemory) :
    releasedBuffers (buffs.map .released) = buffs := by
  simp [releasedBuffers]

theorem patient_append : Patient (tr ++ es) ↔ Patient tr ∧ Patient es := by
  simp only [Patient, List.mem_append, not_or, forall_and]

theorem Books.congr (h : Books tr s) (buffs : List CameraMemory)
    (hsingle : s'.operations.length ≤ 1) (hwhole : s'.torn = false)
    (hlive : s'.live.Perm s.live) (hheld : s'.held = s.held)
    (hreleasing : s.releasing.Perm (s'.releasing ++ buffs)) :
    Books (tr ++ buffs.map .released) s' := by
  obtain ⟨leaked, hperm, hpatient⟩ := h.account
  refine ⟨hsingle, hwhole, ?_, ⟨leaked, ?_, ?_⟩, ?_⟩
  · exact ((hlive.map CameraMemory.data).nodup_iff).mpr h.apart
  · rw [hheld]
    exact hlive.trans hperm
  · rw [hpatient, patient_append]
    simp [Patient]
  · rw [deliveredBuffers_append, releasedBuffers_append, deliveredBuffers_released,
      releasedBuffers_released, List.append_nil]
    refine h.delivered.trans (hlive.symm.append ?_)
    calc s.releasing ++ releasedBuffers tr
        _ |>.Perm ((s'.releasing ++ buffs) ++ releasedBuffers tr) := hreleasing.append_right _
        _ |>.Perm (s'.releasing ++ (releasedBuffers tr ++ buffs)) := by
          rw [List.append_assoc]
          exact List.perm_append_comm.append_left _

theorem Books.deliver (h : Books tr s) {buff : CameraMemory}
    (hnew : ∀ other ∈ s.live, other.data ≠ buff.data)
    (hlive : s'.live = buff :: s.live) (hheld : s'.held = s.held ++ [buff])
    (hoperations : s'.operations = s.operations) (hwhole : s'.torn = s.torn) :
    Books (tr ++ [.delivered buff]) s' := by
  obtain ⟨leaked, hperm, hpatient⟩ := h.account
  refine ⟨hoperations ▸ h.single, hwhole ▸ h.whole, ?_, ⟨leaked, ?_, ?_⟩, ?_⟩
  · rw [hlive, List.map_cons, List.nodup_cons]
    refine ⟨?_, h.apart⟩
    intro hmem
    obtain ⟨other, hother, heq⟩ := List.mem_map.mp hmem
    exact hnew other hother heq
  · rw [hlive, hheld, List.append_assoc]
    exact (hperm.cons buff).trans List.perm_middle.symm
  · rw [hpatient, patient_append]
    simp [Patient]
  · have hreleasing : s'.releasing = s.releasing := by
      rw [RecordingRun.releasing, RecordingRun.releasing, hoperations]
    rw [deliveredBuffers_append, releasedBuffers_append, hlive, hreleasing]
    simp only [deliveredBuffers, releasedBuffers, List.filterMap_cons, List.filterMap_nil,
      List.append_nil]
    exact (List.perm_append_singleton ..).trans (h.delivered.cons buff)

theorem Books.early (h : Books tr s) {buff : CameraMemory} {held : List CameraMemory}
    (hheld : s.held.Perm (buff :: held)) (hs' : s'.held = held) (hlive : s'.live = s.live)
    (hoperations : s'.operations = [.releaseRecordingFrame none]) (hidle : s.operations = [])
    (hwhole : s'.torn = false) : Books (tr ++ [.releaseCalled buff.data true]) s' := by
  obtain ⟨leaked, hperm, -⟩ := h.account
  refine ⟨by simp [hoperations], hwhole, ?_, ⟨buff :: leaked, ?_, ?_⟩, ?_⟩
  · rw [hlive]
    exact h.apart
  · rw [hlive, hs']
    exact hperm.trans ((hheld.append_right leaked).trans List.perm_middle.symm)
  · simp only [reduceCtorEq, Patient, false_iff, not_forall, not_not]
    exact ⟨buff.data, by simp⟩
  · have hdelivered := h.delivered
    simp only [RecordingRun.releasing, hidle, List.filterMap_nil, List.nil_append] at hdelivered
    have hreleasing : s'.releasing = [] := by
      rw [RecordingRun.releasing, hoperations]
      rfl
    rw [hlive, hreleasing]
    simpa [deliveredBuffers, releasedBuffers] using hdelivered

theorem Books.release (h : Books tr s) {buff : CameraMemory} {held : List CameraMemory}
    (hheld : s.held.Perm (buff :: held)) (hs' : s'.held = held)
    (hlive : s.live.Perm (buff :: s'.live))
    (hoperations : s'.operations = [.releaseRecordingFrame (some buff)])
    (hidle : s.operations = []) (hwhole : s'.torn = false) :
    Books (tr ++ [.releaseCalled buff.data false]) s' := by
  obtain ⟨leaked, hperm, hpatient⟩ := h.account
  refine ⟨by simp [hoperations], hwhole, ?_, ⟨leaked, ?_, ?_⟩, ?_⟩
  · have hnodup := ((hlive.map CameraMemory.data).nodup_iff).mp h.apart
    exact (List.nodup_cons.mp hnodup).2
  · rw [hs']
    have hcons : (buff :: s'.live).Perm (buff :: (held ++ leaked)) :=
      hlive.symm.trans (hperm.trans (hheld.append_right leaked))
    exact hcons.cons_inv
  · rw [hpatient, patient_append]
    simp [Patient]
  · have hdelivered := h.delivered
    simp only [RecordingRun.releasing, hidle, List.filterMap_nil, List.nil_append] at hdelivered
    rw [deliveredBuffers_append, releasedBuffers_append]
    simp only [deliveredBuffers, releasedBuffers, List.filterMap_cons, List.filterMap_nil,
      List.append_nil, RecordingRun.releasing, hoperations, ListOperation.taken,
      List.singleton_append]
    exact hdelivered.trans ((hlive.append_right _).trans List.perm_middle.symm)

theorem deliverVideoFrame_cases (n : CallbackNotifier) (timestamp : Int64)
    (cam_buff : Option CameraMemory) :
    let res := n.deliverVideoFrame timestamp cam_buff
    res.1.mCameraMemoryTs = n.mCameraMemoryTs ∧ (res.2 = none ∨ res.2 = cam_buff) := by
  have htime : (n.isNewVideoFrameTime timestamp).2.mCameraMemoryTs = n.mCameraMemoryTs := by
    unfold CallbackNotifier.isNewVideoFrameTime
    split <;> rfl
  have hfilter : (cam_buff.filter fun buff => buff.data ≠ 0) = none ∨
      (cam_buff.filter fun buff => buff.data ≠ 0) = cam_buff := by
    cases cam_buff with
    | none => exact Or.inl rfl
    | some buff => by_cases hnull : buff.data = 0 <;> simp [hnull]
  simp only [CallbackNotifier.deliverVideoFrame]
  split_ifs
  · exact ⟨htime, hfilter⟩
  · exact ⟨htime, Or.inl rfl⟩
  · exact ⟨rfl, Or.inl rfl⟩

theorem deliver_step {timestamp : Int64} {cam_buff : Option CameraMemory} (h : Books tr s)
    (hlegal : Legal s (.deliver timestamp cam_buff))
    (hstep : recordingMachine.step s (.deliver timestamp cam_buff) = some (s', es)) :
    Books (tr ++ es) s' := by
  simp only [recordingMachine, Option.ite_none_right_eq_some, Option.some.injEq,
    Prod.mk.injEq] at hstep
  obtain ⟨hunlisted, rfl, rfl⟩ := hstep
  obtain ⟨hdelivering, hpushed⟩ := List.append_eq_nil_iff.mp hunlisted
  rw [Option.toList_eq_nil_iff] at hdelivering
  obtain ⟨hlist, hcases⟩ := deliverVideoFrame_cases s.notifier timestamp cam_buff
  cases hres : (s.notifier.deliverVideoFrame timestamp cam_buff).2 with
  | none =>
    refine h.congr [] h.single h.whole ?_ (List.append_nil _) ?_
    · simp [RecordingRun.live, RecordingRun.unlisted, hdelivering, hlist]
    · rw [List.append_nil]
      exact .refl _
  | some buff =>
    rw [hres] at hcases
    obtain rfl := hcases.resolve_left (by simp)
    refine h.deliver hlegal ?_ rfl rfl rfl
    simp [RecordingRun.live, RecordingRun.unlisted, hdelivering, hlist]

theorem begin_separate {operation : ListOperation} (hwhole : s.torn = false)
    (hseparate : Separate (s.begin operation).2) :
    s.operations = [] ∧ s.begin operation = ({ s with operations := [operation] }, []) := by
  by_cases hidle : s.operations = []
  · refine ⟨hidle, ?_⟩
    rw [RecordingRun.begin, if_pos hidle, hidle, hwhole]
    rfl
  · exact absurd hseparate (by simp [RecordingRun.begin, hidle, Separate])

theorem push_back_step (h : Books tr s) (hseparate : Separate es)
    (hstep : recordingMachine.step s .push_back = some (s', es)) : Books (tr ++ es) s' := by
  simp only [recordingMachine] at hstep
  cases hdelivering : s.delivering with
  | none => simp [hdelivering] at hstep
  | some buff =>
    simp only [hdelivering, Option.some.injEq] at hstep
    obtain ⟨hidle, hbegin⟩ := begin_separate (s := { s with delivering := none }) h.whole
      (by rw [hstep]; exact hseparate)
    replace hidle : s.operations = [] := hidle
    rw [hbegin] at hstep
    obtain ⟨rfl, rfl⟩ := Prod.mk.inj hstep
    refine h.congr [] le_rfl h.whole ?_ rfl ?_
    · simp [RecordingRun.live, RecordingRun.unlisted, hidle, hdelivering, ListOperation.pushed]
    · simp [RecordingRun.releasing, hidle, ListOperation.taken]

theorem Books.meant {data : ℕ} (h : Books tr s) (hlegal : Legal s (.releaseRecordingFrame data)) :
    ∃ buff, buff.data = data ∧ buff ∈ s.live ∧
      s.held.Perm (buff :: s.held.eraseP fun buff => buff.data = data) := by
  obtain ⟨other, hother, hdata⟩ := hlegal
  obtain ⟨buff, before, after, -, hbuff, hheld, herase⟩ :=
    List.exists_of_eraseP (p := fun buff : CameraMemory => buff.data = data) hother
      (by simpa using hdata)
  have hperm : s.held.Perm (buff :: s.held.eraseP fun buff => buff.data = data) := by
    rw [herase]
    nth_rewrite 1 [hheld]
    exact List.perm_middle
  obtain ⟨leaked, haccount, -⟩ := h.account
  refine ⟨buff, by simpa using hbuff, ?_, hperm⟩
  exact haccount.symm.subset (List.mem_append_left _ (hperm.symm.subset List.mem_cons_self))

theorem release_step {data : ℕ} (h : Books tr s) (hseparate : Separate es)
    (hlegal : Legal s (.releaseRecordingFrame data))
    (hstep : recordingMachine.step s (.releaseRecordingFrame data) = some (s', es)) :
    Books (tr ++ es) s' := by
  simp only [recordingMachine, Option.some.injEq, Prod.mk.injEq] at hstep
  obtain ⟨hs', hes⟩ := hstep
  rw [← hes] at hseparate
  obtain ⟨hidle, hbegin⟩ := begin_separate (by exact h.whole)
    fun hmem => hseparate (List.mem_cons_of_mem _ hmem)
  replace hidle : s.operations = [] := hidle
  rw [hbegin] at hs' hes
  subst hs' hes
  obtain ⟨buff, rfl, hlive, hheld⟩ := h.meant hlegal
  have hapart := h.apart
  have hunlisted : s.unlisted = s.delivering.toList := by
    simp [RecordingRun.unlisted, hidle]
  rw [RecordingRun.live, hunlisted] at hlive hapart
  rw [List.map_append, List.nodup_append] at hapart
  by_cases hearly : ∃ current ∈ s.delivering.toList, current.data = buff.data
  · have habsent : ∀ other ∈ s.notifier.mCameraMemoryTs, other.data ≠ buff.data := by
      obtain ⟨current, hcurrent, hdata⟩ := hearly
      intro other hother heq
      exact hapart.2.2 _ (List.mem_map_of_mem hcurrent) _ (List.mem_map_of_mem hother)
        (hdata.trans heq.symm)
    have hany : s.unlisted.any (fun other => other.data = buff.data) = true := by
      simpa [hunlisted] using hearly
    rw [hany]
    refine h.early hheld rfl ?_ ?_ hidle h.whole
    · simp [RecordingRun.live, RecordingRun.unlisted, hidle, ListOperation.pushed,
        CallbackNotifier.releaseRecordingFrame, eraseFrame_absent habsent]
    · simp [CallbackNotifier.releaseRecordingFrame, eraseFrame_absent habsent]
  · have hmem : buff ∈ s.notifier.mCameraMemoryTs := by
      refine (List.mem_append.mp hlive).resolve_left fun hmem => hearly ⟨buff, hmem, rfl⟩
    obtain ⟨htaken, hlist⟩ := eraseFrame_present hmem hapart.2.1
    have hany : s.unlisted.any (fun other => other.data = buff.data) = false := by
      simpa [hunlisted] using hearly
    rw [hany]
    refine h.release hheld rfl ?_ ?_ hidle h.whole
    · simp only [RecordingRun.live, RecordingRun.unlisted, hidle, List.filterMap_nil,
        List.append_nil, CallbackNotifier.releaseRecordingFrame, List.filterMap_cons,
        ListOperation.pushed]
      exact (hlist.append_left _).trans List.perm_middle
    · rw [CallbackNotifier.releaseRecordingFrame, htaken]

theorem finish_step {i : ℕ} {anyList anyReleased : List CameraMemory} (h : Books tr s)
    (hstep : recordingMachine.step s (.finish i anyList anyReleased) = some (s', es)) :
    Books (tr ++ es) s' := by
  simp only [recordingMachine] at hstep
  cases hoperation : s.operations[i]? with
  | none => simp [hoperation] at hstep
  | some operation =>
    simp only [hoperation, Option.some.injEq, Prod.mk.injEq] at hstep
    obtain ⟨hi, hget⟩ := List.getElem?_eq_some_iff.mp hoperation
    have hsingle := h.single
    obtain rfl : i = 0 := by omega
    obtain ⟨only, honly⟩ := List.length_eq_one_iff.mp (by omega : s.operations.length = 1)
    obtain rfl : only = operation := by simpa [honly] using hget
    simp only [RecordingRun.effect, h.whole, if_neg Bool.false_ne_true, honly] at hstep
    obtain ⟨rfl, rfl⟩ := hstep
    cases only with
    | push_back buff =>
      refine h.congr [] (by simp) rfl ?_ rfl ?_
      · simp only [RecordingRun.live, RecordingRun.unlisted, honly, ListOperation.pushed,
          CallbackNotifier.registerVideoFrame, List.eraseIdx_cons_zero, List.filterMap_cons,
          List.filterMap_nil, List.append_nil, List.append_assoc]
        exact List.perm_append_comm.append_left _
      · simp [RecordingRun.releasing, honly, ListOperation.taken]
    | releaseRecordingFrame taken =>
      refine h.congr taken.toList (by simp) rfl ?_ rfl ?_
      · simp [RecordingRun.live, RecordingRun.unlisted, honly, List.filterMap_cons,
          ListOperation.pushed]
      · cases taken <;> simp [RecordingRun.releasing, honly, ListOperation.taken]

theorem recording_step {i : RecordingAction} (h : Separate tr → Books tr s) (hlegal : Legal s i)
    (hstep : recordingMachine.step s i = some (s', es)) (hseparate : Separate (tr ++ es)) :
    Books (tr ++ es) s' := by
  obtain ⟨hbefore, hes⟩ : Separate tr ∧ Separate es := by
    simpa [Separate] using hseparate
  replace h := h hbefore
  cases i with
  | deliver timestamp cam_buff => exact deliver_step h hlegal hstep
  | push_back => exact push_back_step h hes hstep
  | releaseRecordingFrame data => exact release_step h hes hlegal hstep
  | finish i anyList anyReleased => exact finish_step h hstep
  | enableMessage | disableMessage | enableVideoRecording | disableVideoRecording
  | cleanupCBNotifier =>
    obtain ⟨rfl, rfl⟩ := Prod.mk.inj (Option.some.inj hstep)
    refine h.congr [] h.single h.whole (.refl _) rfl ?_
    rw [List.append_nil]
    exact .refl _

/-- Between two frames, when no two operations on the list have overlapped, the list has just the
buffers that the consumer has not released, and each of the others has been released once, exactly
when no call for a buffer has come before the buffer was on the list. -/
theorem balanced_iff (run : recordingMachine.Run Legal {} tr s) (hseparate : Separate tr)
    (hbetween : s.delivering = none) (hidle : s.operations = []) :
    Balanced tr s ↔ Patient tr := by
  have hbooks : Separate tr → Books tr s := by
    refine run.invariant (P := fun tr s => Separate tr → Books tr s) ?_ recording_step
    intro _
    exact ⟨by simp, rfl, .nil, ⟨[], .refl _, by simp [Patient]⟩, .refl _⟩
  obtain ⟨leaked, hlive, hpatient⟩ := (hbooks hseparate).account
  have hdelivered := (hbooks hseparate).delivered
  have heq : s.live = s.notifier.mCameraMemoryTs := by
    simp [RecordingRun.live, RecordingRun.unlisted, hbetween, hidle]
  rw [heq] at hlive hdelivered
  rw [RecordingRun.releasing, hidle, List.filterMap_nil, List.nil_append] at hdelivered
  rw [← hpatient]
  constructor
  · intro hbalanced
    have hlength := (hlive.symm.trans hbalanced.1).length_eq
    rw [List.length_append] at hlength
    exact List.eq_nil_of_length_eq_zero (by omega)
  · intro hnone
    rw [hnone, List.append_nil] at hlive
    exact ⟨hlive, hdelivered.trans (hlive.append_right _)⟩

instance (s : RecordingRun) (i : RecordingAction) : Decidable (Legal s i) :=
  match i with
  | .deliver _ (some buff) => inferInstanceAs (Decidable (∀ other ∈ s.live, other.data ≠ buff.data))
  | .releaseRecordingFrame data => inferInstanceAs (Decidable (∃ buff ∈ s.held, buff.data = data))
  | .deliver _ none | .push_back | .finish _ _ _ | .enableMessage _ | .disableMessage _
  | .enableVideoRecording _ | .disableVideoRecording | .cleanupCBNotifier => isTrue trivial

def firstBuffer : CameraMemory := ⟨1, 4096⟩

def secondBuffer : CameraMemory := ⟨2, 8192⟩

def recordFrame : List RecordingAction :=
  [.enableMessage CAMERA_MSG_VIDEO_FRAME, .enableVideoRecording 24,
    .deliver 1000000000 (some firstBuffer)]

def laterRelease : List RecordingAction :=
  recordFrame ++ [.push_back, .finish 0 [] [], .deliver 1050000000 (some secondBuffer),
    .releaseRecordingFrame 4096, .finish 0 [] [], .push_back, .finish 0 [] []]

theorem balanced_later_release :
    ∃ tr s, recordingMachine.Run Legal {} tr s ∧ s.held = [secondBuffer] ∧
      tr = [.delivered firstBuffer, .delivered secondBuffer, .releaseCalled 4096 false,
        .released firstBuffer] ∧ (Balanced tr s ↔ Patient tr) := by
  obtain ⟨tr, s, run, hbetween, hidle, hheld, htr⟩ := Machine.run_of_exec recordingMachine Legal {}
    laterRelease
    (fun s tr => s.delivering = none ∧ s.operations = [] ∧ s.held = [secondBuffer] ∧
      tr = [.delivered firstBuffer, .delivered secondBuffer, .releaseCalled 4096 false,
        .released firstBuffer])
    (by decide +kernel)
  have hseparate : Separate tr := by
    rw [htr]
    simp [Separate]
  exact ⟨tr, s, run, hheld, htr, balanced_iff run hseparate hbetween hidle⟩

/-- The consumer releases the frame from the delivery: the buffer comes on the list afterwards, and
is never released. -/
theorem early_release_leaks :
    ¬∀ tr s, recordingMachine.Run Legal {} tr s → s.delivering = none → s.operations = [] →
      Balanced tr s := by
  intro hall
  obtain ⟨tr, s, run, hbetween, hidle, hheld, hlist⟩ := Machine.run_of_exec recordingMachine Legal
    {} (recordFrame ++ [.releaseRecordingFrame 4096, .finish 0 [] [], .push_back, .finish 0 [] []])
    (fun s _ => s.delivering = none ∧ s.operations = [] ∧ s.held = [] ∧
      s.notifier.mCameraMemoryTs = [firstBuffer])
    (by decide +kernel)
  have hbalanced := (hall tr s run hbetween hidle).1
  rw [hheld, hlist] at hbalanced
  exact absurd hbalanced.length_eq (by decide)

end Runs
end Rpi3Device.Camera1
