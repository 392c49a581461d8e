import Mathlib.Tactic
import Rpi3Device.Camera2.RequestPipeline

/-!
# Notifications of the configure thread

The thread finds the queue empty under one mutex and clears `mActive` under
another. A request that comes between the two is announced by a notification that
the thread then wipes out, and no further one follows while the queue is not empty.
As long as no last notification falls into that gap, a queued request finds the
thread active.
-/

namespace Rpi3Device.Camera2
open Camera3 TransitionSystem

def PipelineAction.isNotification : PipelineAction → Bool
  | .newRequestAvailable => true
  | _ => false

/-- No notification is taken between the empty dequeue and the end of activity, unless the queue is
empty or another one is still to come. -/
def notifiedInTime (s : PipelineState) (a : PipelineAction) : Prop :=
  a.isNotification = true → s.configure.place = .goInactive → s.queue = [] ∨ 2 ≤ s.notifying

instance (s : PipelineState) (a : PipelineAction) : Decidable (notifiedInTime s a) :=
  inferInstanceAs (Decidable (_ = true → _ = _ → _ ∨ _))

structure NotificationInv (s : PipelineState) : Prop where
  noticed : s.queue ≠ [] → s.notifying = 0 → s.configure.mActive = true
  leaving : s.configure.place = .goInactive → s.queue = [] ∨ s.notifying ≠ 0

theorem setup_mActive (t : ConfigureThread) (streams : Option (List (Int × PixelFormat))) :
    (t.setup streams).mActive = t.mActive := by
  unfold ConfigureThread.setup
  split <;> rfl

theorem NotificationInv.move {s s' : PipelineState} (inv : NotificationInv s)
    (hqueue : s'.queue = s.queue) (hnotifying : s'.notifying = s.notifying)
    (hactive : s'.configure.mActive = s.configure.mActive)
    (hplace : s'.configure.place = s.configure.place ∨ s'.configure.place ≠ .goInactive) :
    NotificationInv s' := by
  refine ⟨?_, fun hgap => ?_⟩
  · rw [hqueue, hnotifying, hactive]
    exact inv.noticed
  · rw [hqueue, hnotifying]
    rcases hplace with hsame | hnot
    · exact inv.leaving (hsame ▸ hgap)
    · exact absurd hgap hnot

theorem notificationInv_step {s s' : PipelineState} {a : PipelineAction}
    {es : List PipelineEvent} (inv : NotificationInv s) (hok : notifiedInTime s a)
    (h : PipelineStep s a s' es) : NotificationInv s' := by
  cases h with
  | enqueueRequest r =>
    by_cases hempty : s.queue = []
    · rw [if_pos hempty]
      exact ⟨fun _ hzero => absurd hzero (Nat.succ_ne_zero _), fun _ => .inr (Nat.succ_ne_zero _)⟩
    · rw [if_neg hempty]
      refine ⟨fun _ hzero => inv.noticed hempty hzero, fun hgap => .inr ?_⟩
      exact (inv.leaving hgap).resolve_left hempty
  | newRequestAvailable hsome =>
    refine ⟨fun _ _ => rfl, fun hgap => ?_⟩
    rcases hok rfl hgap with hempty | hmore
    · exact .inl hempty
    · refine .inr ?_
      change s.notifying - 1 ≠ 0
      omega
  | configureProceed hplace hactive =>
    refine inv.move rfl rfl rfl (.inr ?_)
    simp only [ConfigureThread.proceed]
    split <;> simp
  | configureWait hplace => exact inv.move rfl rfl rfl (.inr (by simp))
  | configureLoop hplace => exact inv.move rfl rfl rfl (.inr (by simp))
  | configureExit hplace => exact inv.move rfl rfl rfl (.inr (by simp))
  | dequeueEmpty hplace hqueue => exact ⟨inv.noticed, fun _ => .inl hqueue⟩
  | dequeueRequest r rest hplace hqueue =>
    refine ⟨fun _ hzero => inv.noticed (by simp [hqueue]) hzero, fun hgap => ?_⟩
    cases hgap
  | goInactive hplace =>
    refine ⟨fun hqueue hzero => ?_, fun hgap => ?_⟩
    · rcases inv.leaving hplace with hempty | hmore
      · exact absurd hempty hqueue
      · exact absurd hzero hmore
    · cases hgap
  | setup streams hplace =>
    refine inv.move rfl rfl (setup_mActive _ streams) (.inr ?_)
    rcases setup_place s.configure streams with hset | hset
    · rw [hset]
      decide
    · rw [hset]
      decide
  | passReadout hplace hwaiting => exact inv.move rfl rfl rfl (.inr (by simp))
  | readyReadout hplace hroom => exact inv.move rfl rfl rfl (.inr (by simp))
  | passJpeg needsJpeg hplace => exact inv.move rfl rfl rfl (.inr (by simp))
  | getBuffers o hplace hvsync => exact inv.move rfl rfl rfl (.inr (by simp))
  | handOver r hplace hroom => exact inv.move rfl rfl rfl (.inr (by simp))
  | drop r hplace hroom => exact inv.move rfl rfl rfl (.inr (by simp))
  | readoutProceed => exact inv.move rfl rfl rfl (.inl rfl)
  | readoutMove place => exact inv.move rfl rfl rfl (.inl rfl)
  | complete enqueued e hcurrent => exact inv.move rfl rfl rfl (.inl rfl)
  | compress jpegBuffer auxBuffer success enqueued hsome => exact inv.move rfl rfl rfl (.inl rfl)

/-- Where every last notification comes outside the gap, a queued request without a notification
under way finds the configure thread active and not about to go inactive. -/
theorem queued_request_noticed (mNextIsCapture mNextNeedsJpeg mWaitingForReadout : Bool)
    {tr : List PipelineEvent} {s : PipelineState}
    (run : pipelineMachine.Run notifiedInTime
      (pipelineStart mNextIsCapture mNextNeedsJpeg mWaitingForReadout) tr s)
    (hqueue : s.queue ≠ []) (hnotifying : s.notifying = 0) :
    s.configure.mActive = true ∧ s.configure.place ≠ .goInactive := by
  have inv : NotificationInv s := by
    clear hqueue hnotifying
    induction run with
    | nil => exact ⟨fun h => absurd rfl h, fun h => by cases h⟩
    | snoc _ hok hs ih => exact notificationInv_step ih hok (pipelineStep_of_step hs)
  refine ⟨inv.noticed hqueue hnotifying, fun hgap => ?_⟩
  rcases inv.leaving hgap with hempty | hmore
  · exact hqueue hempty
  · exact hmore hnotifying

def captureRequest (address : Nat) : Request := ⟨address, some .capture⟩

def configureOnly : List PipelineAction :=
  [.enqueueRequest (captureRequest 1), .newRequestAvailable, .configureCheck, .dequeueRequest .ok,
    .setup (some []), .waitForReady true, .waitForDone true, .getBuffers true {},
    .setNextOperation, .configureCheck, .dequeueRequest .ok]

theorem queued_request_noticed_late :
    ∃ tr s, pipelineMachine.Run notifiedInTime (pipelineStart false false false) tr s ∧
      s.queue = [captureRequest 2] ∧ s.notifying = 0 ∧ s.configure.mActive = true := by
  obtain ⟨tr, s, run, hqueue, hnotifying⟩ := Machine.run_of_exec pipelineMachine notifiedInTime
    (pipelineStart false false false)
    (configureOnly ++ [PipelineAction.enqueueRequest (captureRequest 2),
      PipelineAction.goInactive, PipelineAction.newRequestAvailable])
    (fun s _ => s.queue = [captureRequest 2] ∧ s.notifying = 0)
    (by decide +kernel)
  exact ⟨tr, s, run, hqueue, hnotifying,
    (queued_request_noticed _ _ _ run (by simp [hqueue]) hnotifying).1⟩

/-- The second request and its notification come after the empty dequeue and before the end of
activity; the thread then waits with the request in the queue. -/
theorem notification_lost :
    ¬ ∀ (mNextIsCapture mNextNeedsJpeg mWaitingForReadout : Bool) (tr : List PipelineEvent)
        (s : PipelineState),
      pipelineMachine.Run (fun _ _ => True)
        (pipelineStart mNextIsCapture mNextNeedsJpeg mWaitingForReadout) tr s →
      s.queue ≠ [] → s.notifying = 0 →
        s.configure.mActive = true ∨ s.configure.place ≠ .waiting := by
  intro h
  obtain ⟨tr, s, run, hqueue, hnotifying, hactive, hplace⟩ := Machine.run_of_exec pipelineMachine
    (fun _ _ => True) (pipelineStart false false false)
    (configureOnly ++ [PipelineAction.enqueueRequest (captureRequest 2),
      PipelineAction.newRequestAvailable, PipelineAction.goInactive,
      PipelineAction.configureCheck])
    (fun s _ => s.queue ≠ [] ∧ s.notifying = 0 ∧ s.configure.mActive = false ∧
      s.configure.place = .waiting)
    (by decide +kernel)
  rcases h _ _ _ tr s run hqueue hnotifying with hset | hnot
  · simp [hactive] at hset
  · exact hnot hplace

end Rpi3Device.Camera2
