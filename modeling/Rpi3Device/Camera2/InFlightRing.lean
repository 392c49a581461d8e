import Mathlib.Tactic
import Rpi3Device.Camera2.RequestPipeline

/-!
# The in-flight ring

A capture waits for room in the ring before it is configured, and only the
configure thread fills the ring, so the room is still there when the capture is
handed over. A reprocess request never arms that wait. As long as it passes the
place of the wait with room in the ring, nothing is dropped and the readout thread
takes the requests in the order of their configuration.
-/

namespace Rpi3Device.Camera2
open Camera3 TransitionSystem RingBuffer

def PipelineAction.isReadoutWait : PipelineAction → Bool
  | .waitForReady _ => true
  | _ => false

/-- A reprocess request comes past the wait it has not armed only while the ring has room. -/
def reprocessHasRoom (s : PipelineState) (a : PipelineAction) : Prop :=
  a.isReadoutWait = true → s.configure.place = .waitReadout →
    s.configure.mWaitingForReadout = false → s.configure.mNextIsCapture = false →
      s.readout.ring.hasRoom kInFlightQueueSize

instance (s : PipelineState) (a : PipelineAction) : Decidable (reprocessHasRoom s a) :=
  inferInstanceAs (Decidable (_ = true → _ = _ → _ = _ → _ = _ → _))

def configuredIn (tr : List PipelineEvent) : List InFlight :=
  tr.filterMap fun
    | .configured e => some e
    | _ => none

def takenIn (tr : List PipelineEvent) : List InFlight :=
  tr.filterMap fun
    | .taken e => some e
    | _ => none

def PipelineEvent.ofRing : PipelineEvent → Bool
  | .configured _ => true
  | .dropped _ => true
  | .taken _ => true
  | _ => false

theorem configuredIn_eq_nil {es : List PipelineEvent} (h : ∀ e ∈ es, e.ofRing = false) :
    configuredIn es = [] := by
  refine List.filterMap_eq_nil_iff.mpr fun e he => ?_
  cases e with
  | configured x => simpa [PipelineEvent.ofRing] using h _ he
  | _ => rfl

theorem takenIn_eq_nil {es : List PipelineEvent} (h : ∀ e ∈ es, e.ofRing = false) :
    takenIn es = [] := by
  refine List.filterMap_eq_nil_iff.mpr fun e he => ?_
  cases e with
  | taken x => simpa [PipelineEvent.ofRing] using h _ he
  | _ => rfl

theorem getBuffers_events (o : GetOutcomes) (i nextBuffer : Nat) (buffers : List StreamBuffer) :
    ∀ e ∈ (getBuffers o i nextBuffer buffers).2.2, e.ofRing = false := by
  induction buffers generalizing i nextBuffer with
  | nil => simp [getBuffers]
  | cons b rest ih =>
    simp only [getBuffers]
    split_ifs with hdequeue hlock hout hout
    · simp
    · simp [PipelineEvent.ofRing]
    · simp [PipelineEvent.ofRing]
    · intro e he
      rcases List.mem_append.mp he with he | he
      · simp only [List.mem_cons, List.not_mem_nil, or_false] at he
        rcases he with rfl | rfl <;> rfl
      · exact ih _ _ e he
    · intro e he
      rcases List.mem_append.mp he with he | he
      · simp only [List.mem_cons, List.not_mem_nil, or_false] at he
        rcases he with rfl | rfl <;> rfl
      · exact ih _ _ e he

theorem returnBuffer_events (enqueued : Bool) (b : StreamBuffer) :
    ∀ e ∈ returnBuffer enqueued b, e.ofRing = false := by
  intro e he
  simp only [returnBuffer, List.mem_cons, List.not_mem_nil, or_false] at he
  rcases he with rfl | rfl
  · rfl
  · cases enqueued <;> rfl

theorem returnBuffers_events (enqueued : Nat → Bool) (i : Nat) (buffers : List StreamBuffer) :
    ∀ e ∈ returnBuffers enqueued i buffers, e.ofRing = false := by
  induction buffers generalizing i with
  | nil => simp [returnBuffers]
  | cons b rest ih =>
    intro e he
    rcases List.mem_append.mp he with he | he
    · split_ifs at he
      · exact returnBuffer_events _ b e he
      · simp at he
    · exact ih (i + 1) e he

theorem onJpegDone_events (jpegBuffer : StreamBuffer) (auxBuffer : Option StreamBuffer)
    (success enqueued : Bool) :
    ∀ e ∈ onJpegDone jpegBuffer auxBuffer success enqueued, e.ofRing = false := by
  intro e he
  rcases List.mem_append.mp he with he | he
  · split_ifs at he
    · exact returnBuffer_events enqueued jpegBuffer e he
    · simp at he
  · obtain ⟨b, -, hb⟩ := List.mem_flatMap.mp he
    simp only [List.mem_cons, List.not_mem_nil, or_false] at hb
    rcases hb with rfl | rfl <;> rfl

inductive PastWait (t : ConfigureThread) : Prop where
  | looping (hplace : t.place = .check ∨ t.place = .waiting) (hrequest : t.mRequest ≠ none)
      (hcapture : t.mNextIsCapture = true) (hwaiting : t.mWaitingForReadout = false)
  | waited (hplace : t.place = .waitReadout) (hcapture : t.mNextIsCapture = true)
      (hwaiting : t.mWaitingForReadout = false)
  | past (hplace : t.place = .waitJpeg ∨ t.place = .configure ∨ t.place = .handOver)

structure RingInv (tr : List PipelineEvent) (s : PipelineState) (inFlight : List InFlight) :
    Prop where
  represents : Represents kInFlightQueueSize s.readout.ring inFlight
  order : configuredIn tr = takenIn tr ++ inFlight
  kept : ∀ e, PipelineEvent.dropped e ∉ tr
  idle : s.configure.place = .dequeue ∨ s.configure.place = .goInactive →
    s.configure.mRequest = none
  room : PastWait s.configure → s.readout.ring.hasRoom kInFlightQueueSize

section Step
variable {tr es : List PipelineEvent} {s s' : PipelineState} {xs : List InFlight}
  {a : PipelineAction}

theorem RingInv.quiet (inv : RingInv tr s xs) (hring : s'.readout.ring = s.readout.ring)
    (hes : ∀ e ∈ es, e.ofRing = false)
    (hidle : s'.configure.place = .dequeue ∨ s'.configure.place = .goInactive →
      s'.configure.mRequest = none)
    (hroom : PastWait s'.configure → s.readout.ring.hasRoom kInFlightQueueSize) :
    RingInv (tr ++ es) s' xs := by
  refine ⟨?_, ?_, ?_, hidle, ?_⟩
  · rw [hring]
    exact inv.represents
  · have hconfigured := configuredIn_eq_nil hes
    have htaken := takenIn_eq_nil hes
    simp only [configuredIn, takenIn, List.filterMap_append] at hconfigured htaken ⊢
    rw [hconfigured, htaken, List.append_nil, List.append_nil]
    exact inv.order
  · intro e he
    rcases List.mem_append.mp he with he | he
    · exact inv.kept e he
    · simpa [PipelineEvent.ofRing] using hes _ he
  · rw [hring]
    exact hroom

theorem RingInv.same (inv : RingInv tr s xs) (hring : s'.readout.ring = s.readout.ring)
    (hconfigure : s'.configure.place = s.configure.place ∧
      s'.configure.mRequest = s.configure.mRequest ∧
      s'.configure.mNextIsCapture = s.configure.mNextIsCapture ∧
      s'.configure.mWaitingForReadout = s.configure.mWaitingForReadout)
    (hes : ∀ e ∈ es, e.ofRing = false) : RingInv (tr ++ es) s' xs := by
  obtain ⟨hplace, hrequest, hcapture, hwaiting⟩ := hconfigure
  refine inv.quiet hring hes ?_ fun h => inv.room ?_
  · rw [hplace, hrequest]
    exact inv.idle
  · rcases h with ⟨h₁, h₂, h₃, h₄⟩ | ⟨h₁, h₂, h₃⟩ | ⟨h₁⟩
    · exact .looping (hplace ▸ h₁) (hrequest ▸ h₂) (hcapture ▸ h₃) (hwaiting ▸ h₄)
    · exact .waited (hplace ▸ h₁) (hcapture ▸ h₂) (hwaiting ▸ h₃)
    · exact .past (hplace ▸ h₁)

theorem pastWait_proceed {t : ConfigureThread} (hplace : t.place = .check ∨ t.place = .waiting)
    (h : PastWait t.proceed) : PastWait t := by
  cases hrequest : t.mRequest with
  | none =>
    exfalso
    simp only [ConfigureThread.proceed, hrequest, ↓reduceIte] at h
    rcases h with ⟨h | h⟩ | ⟨h⟩ | ⟨h | h | h⟩ <;> cases h
  | some r =>
    simp only [ConfigureThread.proceed, hrequest, reduceCtorEq, ↓reduceIte] at h
    rcases h with ⟨h | h⟩ | ⟨-, hcapture, hwaiting⟩ | ⟨h | h | h⟩
    · cases h
    · cases h
    · exact .looping hplace (by simp [hrequest]) hcapture hwaiting
    · cases h
    · cases h
    · cases h

theorem not_pastWait_setup (t : ConfigureThread) (streams : Option (List (Int × PixelFormat))) :
    ¬ PastWait (t.setup streams) := by
  intro h
  unfold ConfigureThread.setup at h
  split at h
  · rcases h with ⟨h | h⟩ | ⟨-, -, h⟩ | ⟨h | h | h⟩ <;> cases h
  · rcases h with ⟨h | h⟩ | ⟨-, h, -⟩ | ⟨h | h | h⟩ <;> cases h
  · rcases h with ⟨h | h⟩ | ⟨h⟩ | ⟨h | h | h⟩ <;> cases h

theorem RingInv.proceed (inv : RingInv tr s xs) :
    ∃ xs', RingInv (tr ++ s.readout.proceed.2) { s with readout := s.readout.proceed.1 } xs' := by
  by_cases hcurrent : s.readout.current = none
  swap
  · simp only [ReadoutThread.proceed, ne_eq, hcurrent, not_false_eq_true, ↓reduceIte]
    exact ⟨xs, inv.same rfl ⟨rfl, rfl, rfl, rfl⟩ (by simp)⟩
  by_cases hempty : s.readout.ring.head = s.readout.ring.tail
  · simp only [ReadoutThread.proceed, ne_eq, hcurrent, not_true_eq_false, ↓reduceIte, hempty]
    exact ⟨xs, inv.same rfl ⟨rfl, rfl, rfl, rfl⟩ (by simp)⟩
  · simp only [ReadoutThread.proceed, ne_eq, hcurrent, not_true_eq_false, ↓reduceIte, hempty]
    cases xs with
    | nil => exact absurd (inv.represents.empty_iff.mpr rfl) hempty
    | cons x xs =>
      rw [inv.represents.head_eq]
      refine ⟨xs, inv.represents.advance, ?_, ?_, inv.idle, fun _ => ?_⟩
      · have horder := inv.order
        simp only [configuredIn, takenIn, List.filterMap_append] at horder ⊢
        simpa using horder
      · intro e he
        simpa using inv.kept e (by simpa using he)
      · have hlength := inv.represents.length_lt
        exact inv.represents.advance.hasRoom_iff.mpr (by simpa using hlength)

theorem ringInv_step (inv : RingInv tr s xs) (hok : reprocessHasRoom s a)
    (h : PipelineStep s a s' es) : ∃ xs', RingInv (tr ++ es) s' xs' := by
  cases h with
  | enqueueRequest r => exact ⟨xs, inv.same rfl ⟨rfl, rfl, rfl, rfl⟩ (by simp)⟩
  | newRequestAvailable hsome => exact ⟨xs, inv.same rfl ⟨rfl, rfl, rfl, rfl⟩ (by simp)⟩
  | configureProceed hplace hactive =>
    refine ⟨xs, inv.quiet rfl (by simp) ?_ fun h => inv.room (pastWait_proceed hplace h)⟩
    intro h
    by_contra hrequest
    simp [ConfigureThread.proceed] at h hrequest
    simp [hrequest] at h
  | configureWait hplace =>
    refine ⟨xs, inv.quiet rfl (by simp) (by simp) fun h => inv.room ?_⟩
    rcases h with ⟨-, h₂, h₃, h₄⟩ | ⟨h⟩ | ⟨h | h | h⟩
    · exact .looping (.inl hplace) h₂ h₃ h₄
    all_goals cases h
  | configureLoop hplace =>
    refine ⟨xs, inv.quiet rfl (by simp) (by simp) fun h => inv.room ?_⟩
    rcases h with ⟨-, h₂, h₃, h₄⟩ | ⟨h⟩ | ⟨h | h | h⟩
    · rcases hplace with hplace | ⟨-, hwaiting⟩ | hplace | hplace
      · exact .looping (.inr hplace) h₂ h₃ h₄
      · simp only at h₄
        simp [hwaiting] at h₄
      · exact .past (.inl hplace)
      · exact .past (.inr (.inl hplace))
    all_goals cases h
  | configureExit hplace =>
    refine ⟨xs, inv.quiet rfl (by simp) (by simp) fun h => ?_⟩
    rcases h with ⟨h | h⟩ | ⟨h⟩ | ⟨h | h | h⟩ <;> cases h
  | dequeueEmpty hplace hqueue =>
    refine ⟨xs, inv.quiet rfl (by simp) (fun _ => inv.idle (.inl hplace)) fun h => ?_⟩
    rcases h with ⟨h | h⟩ | ⟨h⟩ | ⟨h | h | h⟩ <;> cases h
  | dequeueRequest r rest hplace hqueue =>
    refine ⟨xs, inv.quiet rfl (by simp) (by simp) fun h => ?_⟩
    rcases h with ⟨h | h⟩ | ⟨h⟩ | ⟨h | h | h⟩ <;> cases h
  | goInactive hplace =>
    refine ⟨xs, inv.quiet rfl (by simp) (by simp) fun h => ?_⟩
    rcases h with ⟨-, h, -⟩ | ⟨h⟩ | ⟨h | h | h⟩
    · exact absurd (inv.idle (.inr hplace)) h
    all_goals cases h
  | setup streams hplace =>
    refine ⟨xs, inv.quiet rfl (by simp) ?_ fun h => absurd h (not_pastWait_setup _ streams)⟩
    rcases setup_place s.configure streams with hset | hset <;> simp [hset]
  | passReadout hplace hwaiting =>
    refine ⟨xs, inv.quiet rfl (by simp) (by simp) fun _ => ?_⟩
    cases hcapture : s.configure.mNextIsCapture with
    | true => exact inv.room (.waited hplace hcapture hwaiting)
    | false => exact hok rfl hplace hwaiting hcapture
  | readyReadout hplace hroom => exact ⟨xs, inv.quiet rfl (by simp) (by simp) fun _ => hroom⟩
  | passJpeg needsJpeg hplace =>
    exact ⟨xs, inv.quiet rfl (by simp) (by simp) fun _ => inv.room (.past (.inl hplace))⟩
  | getBuffers o hplace hvsync =>
    refine ⟨xs, inv.quiet rfl (getBuffers_events o _ _ _) (by simp) fun _ => ?_⟩
    exact inv.room (.past (.inr (.inl hplace)))
  | handOver r hplace hroom =>
    refine ⟨_, inv.represents.push hroom _, ?_, ?_, by simp, ?_⟩
    · have horder := inv.order
      simp only [configuredIn, takenIn, List.filterMap_append] at horder ⊢
      simp [horder]
    · intro e he
      simpa using inv.kept e (by simpa using he)
    · intro hcases
      rcases hcases with ⟨-, h, -⟩ | ⟨h⟩ | ⟨h | h | h⟩
      · exact absurd rfl h
      all_goals cases h
  | drop r hplace hroom => exact absurd (inv.room (.past (.inr (.inr hplace)))) hroom
  | readoutProceed => exact inv.proceed
  | readoutMove place => exact ⟨xs, inv.same rfl ⟨rfl, rfl, rfl, rfl⟩ (by simp)⟩
  | complete enqueued e hcurrent =>
    refine ⟨xs, inv.same rfl ⟨rfl, rfl, rfl, rfl⟩ fun e' he => ?_⟩
    rcases List.mem_append.mp he with he | he
    · exact returnBuffers_events _ _ _ e' he
    · rw [List.mem_singleton.mp he]
      rfl
  | compress jpegBuffer auxBuffer success enqueued hsome =>
    exact ⟨xs, inv.same rfl ⟨rfl, rfl, rfl, rfl⟩ (onJpegDone_events _ _ _ _)⟩

end Step

/-- Where every reprocess request finds room at the place of the wait, no request is dropped and
none finds the ring full, the indices stay in range, the ring holds what was configured and not
yet taken, in that order, and at most one request less than it has slots. -/
theorem inFlight_fifo (mNextIsCapture mNextNeedsJpeg mWaitingForReadout : Bool)
    {tr : List PipelineEvent} {s : PipelineState}
    (run : pipelineMachine.Run reprocessHasRoom
      (pipelineStart mNextIsCapture mNextNeedsJpeg mWaitingForReadout) tr s) :
    (∀ e, PipelineEvent.dropped e ∉ tr) ∧
    (s.configure.place = .handOver → s.readout.ring.hasRoom kInFlightQueueSize) ∧
    s.readout.ring.head < kInFlightQueueSize ∧ s.readout.ring.tail < kInFlightQueueSize ∧
    ∃ inFlight, Represents kInFlightQueueSize s.readout.ring inFlight ∧
      inFlight.length ≤ kInFlightQueueSize - 1 ∧ configuredIn tr = takenIn tr ++ inFlight := by
  have hinv : ∃ inFlight, RingInv tr s inFlight := by
    induction run with
    | nil =>
      refine ⟨[], represents_empty (by decide), rfl, by simp, by simp [pipelineStart], ?_⟩
      exact fun _ => (represents_empty (by decide)).hasRoom_iff.mpr (by decide)
    | snoc _ hok hs ih =>
      obtain ⟨inFlight, inv⟩ := ih
      exact ringInv_step inv hok (pipelineStep_of_step hs)
  obtain ⟨inFlight, inv⟩ := hinv
  refine ⟨inv.kept, fun hplace => inv.room (.past (.inr (.inr hplace))), inv.represents.head_lt,
    inv.represents.tail_lt, inFlight, inv.represents, ?_, inv.order⟩
  have hlength := inv.represents.length_lt
  omega

def reprocessRequest (address : Nat) : Request := ⟨address, some .reprocess⟩

def reprocessStreams : List (Int × PixelFormat) := [(-1, .other 3), (1, .blob)]

def configureReprocess : List PipelineAction :=
  [.configureCheck, .dequeueRequest .ok, .setup (some reprocessStreams), .waitForReady true,
    .waitForDone true, .getBuffers true {}, .setNextOperation]

def takeRequest : List PipelineAction :=
  [.readoutCheck, .waitForNewFrame true, .readout true (fun _ => true) .ok]

theorem inFlight_fifo_reprocess :
    ∃ tr s, pipelineMachine.Run reprocessHasRoom (pipelineStart false false false) tr s ∧
      (configuredIn tr).length = 4 ∧ (takenIn tr).length = 2 ∧
      (∀ e, PipelineEvent.dropped e ∉ tr) ∧
      ∃ inFlight, configuredIn tr = takenIn tr ++ inFlight := by
  obtain ⟨tr, s, run, hconfigured, htaken⟩ := Machine.run_of_exec pipelineMachine
    reprocessHasRoom (pipelineStart false false false)
    ([1, 2, 3, 4].map (fun address => PipelineAction.enqueueRequest (reprocessRequest address)) ++
      [PipelineAction.newRequestAvailable] ++ configureReprocess ++ takeRequest ++
      configureReprocess ++ configureReprocess ++ takeRequest ++ configureReprocess)
    (fun _ tr => (configuredIn tr).length = 4 ∧ (takenIn tr).length = 2)
    (by decide +kernel)
  obtain ⟨hkept, -, -, -, inFlight, -, -, horder⟩ := inFlight_fifo _ _ _ run
  exact ⟨tr, s, run, hconfigured, htaken, hkept, inFlight, horder⟩

/-- Four reprocess requests while the readout thread does not get to run: the last is dropped. -/
theorem reprocess_burst_dropped :
    ¬ ∀ (mNextIsCapture mNextNeedsJpeg mWaitingForReadout : Bool) (tr : List PipelineEvent)
        (s : PipelineState),
      pipelineMachine.Run (fun _ _ => True)
        (pipelineStart mNextIsCapture mNextNeedsJpeg mWaitingForReadout) tr s →
      ∀ e, PipelineEvent.dropped e ∉ tr := by
  intro h
  obtain ⟨tr, s, run, hdropped⟩ := Machine.run_of_exec pipelineMachine (fun _ _ => True)
    (pipelineStart false false false)
    ([1, 2, 3, 4].map (fun address => PipelineAction.enqueueRequest (reprocessRequest address)) ++
      [PipelineAction.newRequestAvailable] ++ configureReprocess ++ configureReprocess ++
      configureReprocess ++ configureReprocess)
    (fun _ tr => ∃ e ∈ tr, (e matches PipelineEvent.dropped _) = true)
    (by decide +kernel)
  obtain ⟨e, hmem, hmatch⟩ := hdropped
  cases e with
  | dropped x => exact h _ _ _ tr s run x hmem
  | _ => simp at hmatch

end Rpi3Device.Camera2
