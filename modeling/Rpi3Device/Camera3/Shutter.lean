import Mathlib.Tactic
import Rpi3Device.Camera3.FrameOrder

/-!
# Shutter notifications

A request configures the sensor in five separate critical sections, and the sensor
thread reads all five parameters in one. The buffers are set after the exposure,
the duration and the gain but before the frame number, so that a sensor thread that
starts its loop between the last two sections announces the buffers with the number
of the request before.
-/

namespace Rpi3Device.Camera3
open TransitionSystem

def Event.isExposure : Event → Bool
  | .shutter _ => true
  | .capture _ _ _ _ => true
  | _ => false

def exposures (tr : List Event) : List Event := tr.filter Event.isExposure

@[simp] theorem exposures_append (tr es : List Event) :
    exposures (tr ++ es) = exposures tr ++ exposures es :=
  List.filter_append _ _

def Request.shot (r : Request) : Shot where
  exposureTime := r.prepared.sensor.exposureTime.toUInt64
  frameDuration := r.prepared.sensor.frameDuration.toUInt64
  gain := r.prepared.sensor.sensitivity
  buffers := some r.sensorBuffers
  frameNumber := r.prepared.frameNumber

def Request.exposure (r : Request) : List Event :=
  [.shutter r.shot.frameNumber,
    .capture r.sensorBuffers r.shot.exposureTime r.shot.frameDuration r.shot.gain]

def SensorPc.shot : SensorPc → Option Shot
  | .readout shot => some shot
  | .waitComplete shot _ => some shot
  | .complete shot _ => some shot
  | .capture shot => some shot
  | _ => none

def SensorPc.exposing (pc : SensorPc) : Option Shot := pc.shot.filter (·.buffers.isSome)

def CallerPc.exposureDone : CallerPc → Option Request
  | .setFrameDuration r => some r
  | .setSensitivity r => some r
  | .setDestinationBuffers r => some r
  | _ => none

def CallerPc.durationDone : CallerPc → Option Request
  | .setSensitivity r => some r
  | .setDestinationBuffers r => some r
  | _ => none

def CallerPc.gainDone : CallerPc → Option Request
  | .setDestinationBuffers r => some r
  | _ => none

structure ShotInv (accepted : List Request) (events : List Event) (done : List Request)
    (exposing mail : Option Request) (c : Camera) : Prop where
  line : accepted ++ c.caller.delivered.toList = done ++ exposing.toList ++ mail.toList
  announced : events = done.flatMap Request.exposure
  register : c.sensor.pc.exposing = exposing.map Request.shot
  mailbox : c.sensor.mNextBuffers = mail.map Request.sensorBuffers
  exposure : ∀ r, mail = some r ∨ c.caller.exposureDone = some r →
    c.sensor.mExposureTime = r.shot.exposureTime
  duration : ∀ r, mail = some r ∨ c.caller.durationDone = some r →
    c.sensor.mFrameDuration = r.shot.frameDuration
  gain : ∀ r, mail = some r ∨ c.caller.gainDone = some r → c.sensor.mGainFactor = r.shot.gain
  number : ∀ r, mail = some r →
    c.sensor.mFrameNumber = r.shot.frameNumber ∨ c.caller = .setFrameNumber r

theorem shotInv_atRest {c : Camera} (h : AtRest c) : ShotInv [] [] [] none none c := by
  constructor
  · simp [h.caller, CallerPc.delivered]
  · rfl
  · simp [h.sensor, SensorPc.exposing, SensorPc.shot]
  · simp [h.mNextBuffers]
  · simp [h.caller, CallerPc.exposureDone]
  · simp [h.caller, CallerPc.durationDone]
  · simp [h.caller, CallerPc.gainDone]
  · simp

def CallerPc.numberPending : CallerPc → Option Request
  | .setFrameNumber r => some r
  | _ => none

/-- The sensor thread does not start its loop between the buffers and the frame number of a
request, unless the number is already there. -/
def SnapshotsWhole (c : Camera) (action : Action) : Prop :=
  StaysOpen c action ∧
    (action.isSensor = true → c.sensor.pc = .top → ∀ r ∈ c.caller.numberPending,
      c.sensor.mFrameNumber = r.prepared.frameNumber)

instance (c : Camera) (action : Action) : Decidable (SnapshotsWhole c action) :=
  inferInstanceAs (Decidable (_ ∧ (_ → _ → ∀ r ∈ c.caller.numberPending, _)))

section Moves
variable {accepted : List Request} {events : List Event} {done : List Request}
  {exposing mail : Option Request} {c c' : Camera} {es : List Event}

theorem ShotInv.leave (inv : ShotInv accepted events done exposing mail c) {pc : CallerPc}
    {accepted' : List Request} {number : UInt32} {readout : Readout}
    (hplain : pc.exposureDone = none ∧ pc.durationDone = none ∧ pc.gainDone = none)
    (hline : accepted' ++ pc.delivered.toList = accepted ++ c.caller.delivered.toList)
    (hnumber : ∀ r, mail = some r → number = r.shot.frameNumber) :
    ShotInv accepted' events done exposing mail
      { c with
        caller := pc, sensor := { c.sensor with mFrameNumber := number }, readout := readout } := by
  obtain ⟨hexposure, hduration, hgain⟩ := hplain
  exact { inv with
    line := hline.trans inv.line
    exposure := fun r hr => inv.exposure r (.inl (hr.resolve_right (by simp [hexposure])))
    duration := fun r hr => inv.duration r (.inl (hr.resolve_right (by simp [hduration])))
    gain := fun r hr => inv.gain r (.inl (hr.resolve_right (by simp [hgain])))
    number := fun r hr => .inl (hnumber r hr) }

theorem ShotInv.number_of_not_pending (inv : ShotInv accepted events done exposing mail c)
    (hpending : c.caller.numberPending = none) :
    ∀ r, mail = some r → c.sensor.mFrameNumber = r.shot.frameNumber := by
  intro r hr
  refine (inv.number r hr).resolve_right ?_
  intro hpc
  simp [hpc, CallerPc.numberPending] at hpending

theorem ShotInv.setCaller (inv : ShotInv accepted events done exposing mail c) (pc : CallerPc)
    (hdelivered : c.caller.delivered = none) (hnone : pc.delivered = none)
    (hplain : pc.exposureDone = none ∧ pc.durationDone = none ∧ pc.gainDone = none) :
    ShotInv accepted events done exposing mail { c with caller := pc } := by
  have hpending : c.caller.numberPending = none := by
    cases hpc : c.caller <;> simp_all [CallerPc.delivered, CallerPc.numberPending]
  exact inv.leave hplain (by rw [hnone, hdelivered]) (inv.number_of_not_pending hpending)

theorem ShotInv.configure (inv : ShotInv accepted events done exposing mail c) {pc : CallerPc}
    {sensor : Sensor} (hempty : c.sensor.mNextBuffers = none)
    (hdelivered : c.caller.delivered = none) (hnone : pc.delivered = none)
    (hpc : sensor.pc = c.sensor.pc) (hmailbox : sensor.mNextBuffers = c.sensor.mNextBuffers)
    (hexposure : ∀ r, pc.exposureDone = some r → sensor.mExposureTime = r.shot.exposureTime)
    (hduration : ∀ r, pc.durationDone = some r → sensor.mFrameDuration = r.shot.frameDuration)
    (hgain : ∀ r, pc.gainDone = some r → sensor.mGainFactor = r.shot.gain) :
    ShotInv accepted events done exposing mail { c with caller := pc, sensor := sensor } := by
  have hmail : mail = none := by simpa [hempty] using inv.mailbox.symm
  subst hmail
  exact { inv with
    line := by simpa only [hnone, hdelivered] using inv.line
    register := by
      rw [hpc]
      exact inv.register
    mailbox := hmailbox.trans inv.mailbox
    exposure := fun r hr => hexposure r (hr.resolve_left (by simp))
    duration := fun r hr => hduration r (hr.resolve_left (by simp))
    gain := fun r hr => hgain r (hr.resolve_left (by simp))
    number := by simp }

theorem ShotInv.enterMove (inv : ShotInv accepted events done exposing mail c) {action : Action}
    (hopen : action.isClose = false) (h : EnterMove c action c' es) :
    ShotInv accepted events done exposing mail c' := by
  cases h with
  | rejected hidle hb hres halloc => exact { inv with }
  | lockFailed hidle hb hres halloc => exact { inv with }
  | @prepared _ _ _ b p r pc hidle hb hres hr hpc =>
    have hplaces : pc.delivered = none ∧ pc.exposureDone = none ∧ pc.durationDone = none ∧
        pc.gainDone = none := by
      rw [hpc]
      split <;> exact ⟨rfl, rfl, rfl, rfl⟩
    have hnext := inv.setCaller pc (by rw [hidle]; rfl) hplaces.1 hplaces.2
    exact { hnext with }
  | alreadyClosed hidle hclosed => simp [Action.isClose] at hopen
  | closing hidle hclosed => simp [Action.isClose] at hopen

theorem ShotInv.jpegMove (inv : ShotInv accepted events done exposing mail c)
    (h : JpegMove c c' es) : ShotInv accepted events done exposing mail c' := by
  cases h <;> exact { inv with }

theorem SensorPc.exposing_takeFrame (c : Camera) (b : Nat) :
    (takeFrame c b).1.sensor.pc.exposing = c.sensor.pc.exposing := by
  cases h : c.sensor.pc <;> simp [takeFrame, SensorPc.exposing, SensorPc.shot, h]

theorem ShotInv.readoutMove (inv : ShotInv accepted events done exposing mail c)
    {res : WaitResult} (h : ReadoutMove c res c' es) :
    ShotInv accepted events done exposing mail c' := by
  cases h with
  | frame hplace hframe =>
    exact { inv with register := (SensorPc.exposing_takeFrame c _).trans inv.register }
  | _ => exact { inv with }

theorem CallerPc.beforeSync_plain {pc : CallerPc} (h : pc.beforeSync = true) :
    pc.exposureDone = none ∧ pc.durationDone = none ∧ pc.gainDone = none := by
  cases pc <;> simp_all [CallerPc.beforeSync, CallerPc.exposureDone, CallerPc.durationDone,
    CallerPc.gainDone]

theorem ShotInv.buffersSet (inv : ShotInv accepted events done exposing mail c) {r : Request}
    (hempty : c.sensor.mNextBuffers = none) (hpc : c.caller = .setDestinationBuffers r) :
    ShotInv accepted events done exposing (some r)
      { c with
        caller := .setFrameNumber r
        sensor := { c.sensor with mNextBuffers := some r.sensorBuffers } } := by
  have hmail : mail = none := by simpa [hempty] using inv.mailbox.symm
  have hline := inv.line
  simp only [hpc, hmail, CallerPc.delivered, Option.toList_none, List.append_nil] at hline
  exact { inv with
    line := by rw [hline]; rfl
    mailbox := rfl
    exposure := by
      intro q hq
      obtain rfl : r = q := by simpa [CallerPc.exposureDone] using hq
      exact inv.exposure r (.inr (by rw [hpc]; rfl))
    duration := by
      intro q hq
      obtain rfl : r = q := by simpa [CallerPc.durationDone] using hq
      exact inv.duration r (.inr (by rw [hpc]; rfl))
    gain := by
      intro q hq
      obtain rfl : r = q := by simpa [CallerPc.gainDone] using hq
      exact inv.gain r (.inr (by rw [hpc]; rfl))
    number := by
      rintro q ⟨⟩
      exact .inr rfl }

theorem ShotInv.mail_eq (inv : ShotInv accepted events done exposing mail c) {r q : Request}
    (hdelivered : c.caller.delivered = some r) (hmail : mail = some q) : q = r := by
  have hline := inv.line
  rw [hdelivered, hmail] at hline
  have hlast := (List.append_inj' hline rfl).2
  simpa using hlast.symm

theorem ShotInv.callerMove (inv : ShotInv accepted events done exposing mail c)
    (hserving : c.caller.closes = false)
    (hempty : c.caller.configures = true → c.sensor.mNextBuffers = none) {res : WaitResult}
    (h : CallerMove c res c' es) :
    ∃ mail', ShotInv (accepted ++ acceptedRequests es) events done exposing mail' c' := by
  have hquiet : acceptedRequests es = [] → ShotInv accepted events done exposing mail c' →
      ∃ mail', ShotInv (accepted ++ acceptedRequests es) events done exposing mail' c' := by
    intro hes hinv
    rw [hes, List.append_nil]
    exact ⟨mail, hinv⟩
  cases h with
  | failed hfail => exact hquiet rfl (inv.setCaller .idle hfail.places.2.1 rfl ⟨rfl, rfl, rfl⟩)
  | waits hbefore hreq hreserve hdelivered =>
    exact hquiet rfl (inv.setCaller _ hdelivered (CallerPc.beforeSync_places hbefore).2.1
      (CallerPc.beforeSync_plain hbefore))
  | @reserved r hpc hbusy =>
    have hnext := inv.setCaller (.waitForReadout r) (by rw [hpc]; rfl) rfl ⟨rfl, rfl, rfl⟩
    exact hquiet rfl { hnext with }
  | @syncStarted r n hpc =>
    have hnext := inv.setCaller (.vsyncWait r n) (by rw [hpc]; rfl) rfl ⟨rfl, rfl, rfl⟩
    exact hquiet rfl { hnext with }
  | @synced r n hpc hgot =>
    exact hquiet rfl (inv.setCaller _ (by rw [hpc]; rfl) rfl ⟨rfl, rfl, rfl⟩)
  | @exposureSet r hpc =>
    exact hquiet rfl (inv.configure (hempty (by rw [hpc]; rfl)) (by rw [hpc]; rfl) rfl rfl rfl
      (by rintro q ⟨⟩; rfl) (by simp [CallerPc.durationDone]) (by simp [CallerPc.gainDone]))
  | @durationSet r hpc =>
    have hexposure := inv.exposure r (.inr (by rw [hpc]; rfl))
    exact hquiet rfl (inv.configure (hempty (by rw [hpc]; rfl)) (by rw [hpc]; rfl) rfl rfl rfl
      (by rintro q ⟨⟩; exact hexposure) (by rintro q ⟨⟩; rfl) (by simp [CallerPc.gainDone]))
  | @sensitivitySet r hpc =>
    have hexposure := inv.exposure r (.inr (by rw [hpc]; rfl))
    have hduration := inv.duration r (.inr (by rw [hpc]; rfl))
    exact hquiet rfl (inv.configure (hempty (by rw [hpc]; rfl)) (by rw [hpc]; rfl) rfl rfl rfl
      (by rintro q ⟨⟩; exact hexposure) (by rintro q ⟨⟩; exact hduration) (by rintro q ⟨⟩; rfl))
  | @buffersSet r hpc =>
    refine ⟨some r, ?_⟩
    rw [show acceptedRequests [] = [] from rfl, List.append_nil]
    exact inv.buffersSet (hempty (by rw [hpc]; rfl)) hpc
  | @frameNumberSet r hpc =>
    refine hquiet rfl (inv.leave ⟨rfl, rfl, rfl⟩ (by rw [hpc]; rfl) ?_)
    intro q hq
    rw [inv.mail_eq (by rw [hpc]; rfl) hq]
    rfl
  | @queued r hpc =>
    refine ⟨mail, inv.leave ⟨rfl, rfl, rfl⟩ ?_ (inv.number_of_not_pending (by rw [hpc]; rfl))⟩
    rw [hpc]
    exact List.append_nil _
  | @cached r hpc =>
    have hnext := inv.setCaller .idle (by rw [hpc]; rfl) rfl ⟨rfl, rfl, rfl⟩
    exact hquiet rfl { hnext with }
  | shutDownFailed hpc _ => exact (CallerPc.not_closes hserving hpc rfl).elim
  | shutDownDone hpc _ => exact (CallerPc.not_closes hserving hpc rfl).elim
  | sensorCleared hpc => exact (CallerPc.not_closes hserving hpc rfl).elim
  | exitRequested hpc => exact (CallerPc.not_closes hserving hpc rfl).elim
  | joined hpc _ => exact (CallerPc.not_closes hserving hpc rfl).elim
  | released hpc => exact (CallerPc.not_closes hserving hpc rfl).elim

theorem ShotInv.snapshot (inv : ShotInv accepted events done exposing mail c)
    (hpc : c.sensor.pc = .top)
    (hnumber : ∀ r ∈ c.caller.numberPending, c.sensor.mFrameNumber = r.prepared.frameNumber) :
    ShotInv accepted events done mail none
      { c with sensor := { c.sensor with
        pc := .readout c.sensor.shot, mNextBuffers := none, mGotVSync := true } } := by
  have hnone : exposing = none := by
    simpa [hpc, SensorPc.exposing, SensorPc.shot] using inv.register.symm
  have hline := inv.line
  have hmailbox := inv.mailbox
  subst hnone
  exact { inv with
    line := by simpa using hline
    register := by
      cases mail with
      | none => simp [SensorPc.exposing, SensorPc.shot, Sensor.shot, hmailbox]
      | some r =>
        have hown : c.sensor.mFrameNumber = r.prepared.frameNumber := by
          rcases inv.number r rfl with h | h
          · exact h
          · exact hnumber r (by rw [h]; rfl)
        have hshot : c.sensor.shot = r.shot := by
          simp only [Sensor.shot, inv.exposure r (.inl rfl), inv.duration r (.inl rfl),
            inv.gain r (.inl rfl), hown, hmailbox]
          rfl
        simp [SensorPc.exposing, SensorPc.shot, hshot, Request.shot]
    mailbox := rfl
    exposure := fun r hr => inv.exposure r (.inr (hr.resolve_left (by simp)))
    duration := fun r hr => inv.duration r (.inr (hr.resolve_left (by simp)))
    gain := fun r hr => inv.gain r (.inr (hr.resolve_left (by simp)))
    number := by simp }

theorem ShotInv.captured (inv : ShotInv accepted events done exposing mail c) {shot : Shot}
    {b : Nat} (hpc : c.sensor.pc = .capture shot) (hbuffers : shot.buffers = some b) :
    ∃ r, ShotInv accepted (events ++ [.shutter shot.frameNumber,
        .capture b shot.exposureTime shot.frameDuration shot.gain]) (done ++ [r]) none mail
      { c with sensor := { c.sensor with pc := .top, mNextCapturedBuffers := some b } } := by
  have hregister := inv.register
  simp only [hpc, SensorPc.exposing, SensorPc.shot, Option.filter_some, hbuffers,
    Option.isSome_some, ↓reduceIte] at hregister
  obtain ⟨r, rfl, rfl⟩ := Option.map_eq_some_iff.mp hregister.symm
  obtain rfl : r.sensorBuffers = b := Option.some.inj hbuffers
  refine ⟨r, { inv with
    line := by simpa using inv.line
    announced := by simp [inv.announced, Request.exposure]
    register := rfl }⟩

theorem ShotInv.sensorMove (inv : ShotInv accepted events done exposing mail c)
    (hnumber : c.sensor.pc = .top → ∀ r ∈ c.caller.numberPending,
      c.sensor.mFrameNumber = r.prepared.frameNumber)
    (h : SensorMove c c' es) :
    ∃ done' exposing' mail',
      ShotInv accepted (events ++ exposures es) done' exposing' mail' c' := by
  have hquiet : exposures es = [] → ShotInv accepted events done exposing mail c' →
      ∃ done' exposing' mail',
        ShotInv accepted (events ++ exposures es) done' exposing' mail' c' := by
    intro hes hinv
    rw [hes, List.append_nil]
    exact ⟨done, exposing, mail, hinv⟩
  have hregister := inv.register
  cases h with
  | exit hpc hexit =>
    refine hquiet rfl { inv with register := ?_ }
    simpa [hpc, SensorPc.exposing, SensorPc.shot] using hregister
  | snapshot hpc hexit =>
    refine ⟨done, mail, none, ?_⟩
    rw [show exposures [] = [] from rfl, List.append_nil]
    exact inv.snapshot hpc (hnumber hpc)
  | nothingCaptured hpc hnone =>
    refine hquiet rfl { inv with register := ?_ }
    simpa [hpc, SensorPc.exposing, SensorPc.shot] using hregister
  | published hpc hnext hfree =>
    refine hquiet rfl { inv with register := ?_ }
    simpa [hpc, SensorPc.exposing, SensorPc.shot] using hregister
  | blocked hpc hnext hfull =>
    refine hquiet rfl { inv with register := ?_ }
    simpa [hpc, SensorPc.exposing, SensorPc.shot] using hregister
  | completed hpc =>
    refine hquiet rfl { inv with register := ?_ }
    simpa [hpc, SensorPc.exposing, SensorPc.shot] using hregister
  | idleFrame hpc hnone =>
    refine hquiet rfl { inv with register := ?_ }
    simpa [hpc, SensorPc.exposing, SensorPc.shot, Option.filter_some, hnone] using hregister
  | captured hpc hsome =>
    obtain ⟨r, hinv⟩ := inv.captured hpc hsome
    exact ⟨done ++ [r], none, mail, hinv⟩

end Moves

theorem EnterMove.exposures {c c' : Camera} {action : Action} {es : List Event}
    (h : EnterMove c action c' es) : exposures es = [] := by
  cases h <;> rfl

theorem CallerMove.exposures {c c' : Camera} {res : WaitResult} {es : List Event}
    (hserving : c.caller.closes = false) (h : CallerMove c res c' es) : exposures es = [] := by
  cases h with
  | released hpc => simp [hpc, CallerPc.closes] at hserving
  | _ => rfl

theorem ReadoutMove.exposures {c c' : Camera} {res : WaitResult} {es : List Event}
    (h : ReadoutMove c res c' es) : exposures es = [] := by
  cases h with
  | frame hplace hframe => rcases hplace with ⟨-, -, rfl⟩ | ⟨-, rfl⟩ <;> rfl
  | jpegStartFailed hpc hres => cases c.jpeg.mBuffers <;> rfl
  | sent hpc hcur =>
    split
    · rfl
    · cases c.readout.sensorBuffers <;> rfl
  | _ => rfl

theorem JpegMove.exposures {c c' : Camera} {es : List Event} (h : JpegMove c c' es) :
    exposures es = [] := by
  cases h with
  | cleaned hpc => cases c.jpeg.mBuffers <;> rfl
  | _ => rfl

theorem shotInv_step {tr es : List Event} {c c' : Camera} {action : Action}
    (frames : FrameInv (acceptedRequests tr) (capturedBuffers tr) (returnedFrames tr) c)
    (inv : ∃ done exposing mail, ShotInv (acceptedRequests tr) (exposures tr) done exposing mail c)
    (hok : SnapshotsWhole c action) (h : cameraStep c action = some (c', es)) :
    ∃ done exposing mail,
      ShotInv (acceptedRequests (tr ++ es)) (exposures (tr ++ es)) done exposing mail c' := by
  obtain ⟨done, exposing, mail, inv⟩ := inv
  rw [acceptedRequests_append, exposures_append]
  rcases cameraStep_moves h with hm | ⟨res, -, hm⟩ | ⟨haction, hm⟩ | ⟨res, -, hm⟩ | hm
  · rw [hm.views.1, hm.exposures, List.append_nil, List.append_nil]
    exact ⟨done, exposing, mail, inv.enterMove hok.1 hm⟩
  · rw [hm.exposures frames.serving, List.append_nil]
    obtain ⟨mail', hinv⟩ := inv.callerMove frames.serving frames.mailbox hm
    exact ⟨done, exposing, mail', hinv⟩
  · rw [hm.views.1, List.append_nil]
    exact inv.sensorMove (hok.2 (by rw [haction]; rfl)) hm
  · rw [hm.views.1, hm.exposures, List.append_nil, List.append_nil]
    exact ⟨done, exposing, mail, inv.readoutMove hm⟩
  · rw [hm.views.1, hm.exposures, List.append_nil, List.append_nil]
    exact ⟨done, exposing, mail, inv.jpegMove hm⟩

/-- Every request is announced once, with its own number, as its buffers are captured with its own
parameters, or its buffers still wait in the sensor. -/
def ShuttersCorrect (tr : List Event) (c : Camera) : Prop :=
  ∃ done pending, acceptedRequests tr ++ c.caller.delivered.toList = done ++ pending ∧
    exposures tr = done.flatMap Request.exposure ∧
    c.sensor.uncaptured = pending.map Request.sensorBuffers ∧
    ((done ++ pending).map Request.sensorBuffers).Nodup

theorem SensorPc.shotBuffers_eq (pc : SensorPc) :
    pc.shotBuffers = (pc.exposing.bind Shot.buffers).toList := by
  have hshot : ∀ shot : Shot, shot.buffers.toList =
      (((some shot).filter (·.buffers.isSome)).bind Shot.buffers).toList := by
    intro shot
    cases h : shot.buffers <;> simp [Option.filter_some, h]
  cases pc with
  | top => rfl
  | exited => rfl
  | readout shot => exact hshot shot
  | waitComplete shot b => exact hshot shot
  | complete shot b => exact hshot shot
  | capture shot => exact hshot shot

theorem ShotInv.uncaptured {accepted : List Request} {events : List Event} {done : List Request}
    {exposing mail : Option Request} {c : Camera}
    (inv : ShotInv accepted events done exposing mail c) :
    c.sensor.uncaptured = (exposing.toList ++ mail.toList).map Request.sensorBuffers := by
  rw [Sensor.uncaptured, SensorPc.shotBuffers_eq, inv.register, inv.mailbox]
  cases exposing <;> cases mail <;> rfl

/-- In every run whose snapshots find the frame number of the buffers they find, the shutter
notifications and captures are those of the requests. -/
theorem shutters_correct {c₀ c : Camera} {tr : List Event} (h₀ : AtRest c₀)
    (run : camera.Run SnapshotsWhole c₀ tr c) : ShuttersCorrect tr c := by
  have hboth := run.invariant
    (P := fun tr c =>
      FrameInv (acceptedRequests tr) (capturedBuffers tr) (returnedFrames tr) c ∧
        ∃ done exposing mail,
          ShotInv (acceptedRequests tr) (exposures tr) done exposing mail c)
    ⟨frameInv_atRest h₀, [], none, none, shotInv_atRest h₀⟩
    fun inv hok h => ⟨inv.1.step hok.1 h, shotInv_step inv.1 inv.2 hok h⟩
  obtain ⟨frames, done, exposing, mail, inv⟩ := hboth
  have hline := inv.line
  rw [List.append_assoc] at hline
  refine ⟨done, exposing.toList ++ mail.toList, hline, inv.announced, inv.uncaptured, ?_⟩
  rw [← hline]
  exact frames.inOrder.nodup

theorem shutters_correct_preview : ∃ tr c, camera.Run SnapshotsWhole previewCamera tr c ∧
    Event.shutter 1 ∈ tr ∧ ShuttersCorrect tr c := by
  obtain ⟨tr, c, run, hshutter⟩ := camera.run_of_exec SnapshotsWhole previewCamera previewRun
    (fun _ tr => Event.shutter 1 ∈ tr) (by decide +kernel)
  exact ⟨tr, c, run, hshutter, shutters_correct previewCamera_atRest run⟩

theorem ShuttersCorrect.number_mem {tr : List Event} {c : Camera} (h : ShuttersCorrect tr c)
    {n : UInt32} (hn : Event.shutter n ∈ tr) :
    ∃ r ∈ acceptedRequests tr ++ c.caller.delivered.toList, r.prepared.frameNumber = n := by
  obtain ⟨done, pending, hline, hevents, -, -⟩ := h
  have hmem : Event.shutter n ∈ exposures tr := List.mem_filter.mpr ⟨hn, rfl⟩
  rw [hevents] at hmem
  obtain ⟨r, hr, hshutter⟩ := List.mem_flatMap.mp hmem
  refine ⟨r, by simp [hline, hr], ?_⟩
  have hnumber : n = r.prepared.frameNumber := by
    simpa [Request.exposure, Request.shot] using hshutter
  exact hnumber.symm

/-- The sensor thread starts its loop after the buffers of request 1 are set and before its frame
number is, and announces them as frame 0. -/
theorem snapshot_announces_stale_number :
    ¬ ∀ {c₀ c : Camera} {tr : List Event}, AtRest c₀ → camera.Run StaysOpen c₀ tr c →
      ShuttersCorrect tr c := by
  intro h
  obtain ⟨tr, c, run, hzero, hnone⟩ := camera.run_of_exec StaysOpen previewCamera
    ([Action.processCaptureRequest (some twoBufferRequest) {} {}] ++
      List.replicate 2 (Action.caller .ok) ++ [Action.sensor] ++
      List.replicate 5 (Action.caller .ok) ++ List.replicate 3 Action.sensor ++
      List.replicate 3 (Action.caller .ok) ++ List.replicate 2 Action.sensor)
    (fun c tr => Event.shutter 0 ∈ tr ∧ ∀ r ∈ acceptedRequests tr ++ c.caller.delivered.toList,
      r.prepared.frameNumber ≠ 0) (by decide +kernel)
  obtain ⟨r, hr, hnumber⟩ := (h previewCamera_atRest run).number_mem hzero
  exact hnone r hr hnumber

end Rpi3Device.Camera3
