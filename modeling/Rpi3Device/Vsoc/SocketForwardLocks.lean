import Rpi3Device.Vsoc.SocketForwardWaiting

/-!
# The locks of forwarded sockets

The sections that are one step of the window hold a lock in it: `queue_state_lock_` of a pair of
queues, or the lock of one queue of packets. A thread that finds the lock taken spins. The host
sleeps with the lock of a pair while it closes a queue of a connection that the guest has not seen.

A process may be killed anywhere, and the locks that its threads have taken stay taken until its
successor recovers them, of each pair the first one that it finds. A section that writes several
words may be cut short: it has then written some of them. When no section is cut short, the runs
are runs of the window alone, to which a killed process does nothing but die between two steps.
-/

namespace Rpi3Device.Vsoc.SocketForward
open TransitionSystem

inductive LockName where
  | state (i : ℕ)
  | packets (i : ℕ) (d : Side)
  deriving DecidableEq

/-- A section of several writes, of a thread that is killed in it: `AcquireConnectionID` after the
port and some of the states, the others after the first state. -/
inductive Cut (θ : Type*) where
  | opening (t : θ) (states : ℕ)
  | accepting
  | claiming
  | resetting

/-- `asleep` is the thread of the host that sleeps with the lock of a pair. -/
structure LockedState (θ : Type*) where
  window : State θ := {}
  locks : LockName → Option Side := fun _ => none
  asleep : ℕ → Option (ℕ × Bool) := fun _ => none

inductive LockedInput (θ : Type*) where
  | thread (i : Input θ)
  /-- `held` are the locks that threads have taken, before or after what they write under it. -/
  | kill (x : Side) (cuts : List (Cut θ)) (held : List LockName)

def Input.side {θ : Type*} : Input θ → Side
  | .restart x | .cleanUp x | .sender x _ _ | .receiver x _ _ => x
  | .openConnection _ _ | .opener _ => .host
  | .acceptor => .guest

def Input.worker {θ : Type*} : Input θ → Option (ℕ × Bool)
  | .sender .host c _ => some (c, true)
  | .receiver .host c _ => some (c, false)
  | _ => none

section Steps
variable {θ : Type*}

def SenderPc.lockFor (x : Side) (i : ℕ) : SenderPc → Option LockName
  | .checking p => if p.Sendable then some (.state i) else none
  | .writing _ => some (.packets i x)
  | .closing => if x = .host then some (.state i) else none
  | .marking => some (.state i)
  | .reading | .built | .idle | .gone => none

def ReceiverPc.lockFor (x : Side) (i : ℕ) : ReceiverPc → Option LockName
  | .skipping | .receiving => some (.packets i x.peer)
  | .closing => if x = .host then some (.state i) else none
  | .marking => some (.state i)
  | .waiting | .gone => none

def CleanUp.lockFor (x : Side) : CleanUp → Option LockName
  | .looking i => if i < kNumQueues then some (.state i) else none
  | .checking i _ | .resetting i => some (.state i)
  | .writing i _ => some (.packets i x)

def State.lockFor (s : State θ) : Input θ → Option LockName
  | .cleanUp x =>
    match s.process x with
    | .cleaning _ pc => pc.lockFor x
    | _ => none
  | .opener t =>
    match s.openers t with
    | .scanning i _ => if i < kNumQueues then some (.state i) else none
    | _ => none
  | .acceptor =>
    match s.acceptor with
    | .scanning i => if i < kNumQueues then some (.state i) else none
    | _ => none
  | .sender x c _ => (s.connections x c).bind fun k => k.sender.lockFor x k.id
  | .receiver x c _ => (s.connections x c).bind fun k => k.receiver.lockFor x k.id
  | .restart _ | .openConnection _ _ => none

/-- The step is a check of `MarkQueueDisconnected` that finds the guest has not seen the
connection. -/
def State.closesUnseen (s : State θ) : Input θ → Prop
  | .sender .host c _ => ∃ k ∈ s.connections .host c, k.sender = .closing ∧
      s.queueState k.id .host = .hostConnected
  | .receiver .host c _ => ∃ k ∈ s.connections .host c, k.receiver = .closing ∧
      s.queueState k.id .guest = .hostConnected
  | _ => False

instance (s : State θ) : DecidablePred s.closesUnseen
  | .sender .host c _ => inferInstanceAs (Decidable (∃ k ∈ s.connections .host c,
      k.sender = .closing ∧ s.queueState k.id .host = .hostConnected))
  | .receiver .host c _ => inferInstanceAs (Decidable (∃ k ∈ s.connections .host c,
      k.receiver = .closing ∧ s.queueState k.id .guest = .hostConnected))
  | .sender .guest _ _ | .receiver .guest _ _ | .restart _ | .cleanUp _ | .openConnection _ _
  | .opener _ | .acceptor => .isFalse id

/-- `Recover` of a pair stops at the first lock that it frees. -/
def recover (x : Side) (locks : LockName → Option Side) : LockName → Option Side
  | .packets i .host => if locks (.packets i .host) = some x then none else locks (.packets i .host)
  | .packets i .guest =>
    if locks (.packets i .host) ≠ some x ∧ locks (.packets i .guest) = some x then none
    else locks (.packets i .guest)
  | .state i =>
    if locks (.packets i .host) ≠ some x ∧ locks (.packets i .guest) ≠ some x ∧
      locks (.state i) = some x then none
    else locks (.state i)

/-- What a section has written when it is cut short, and the pair whose lock it holds. -/
def State.cut (s : State θ) (x : Side) : Cut θ → Option (ℕ × State θ)
  | .opening t states =>
    match s.openers t with
    | .scanning i port =>
      if x = .host ∧ s.process .host = .running ∧ i < kNumQueues ∧
          s.queueState i .host = .inactive ∧ s.queueState i .guest = .inactive then
        let connected (d : Side) : Prop := d = .host ∧ 1 ≤ states ∨ 2 ≤ states
        some (i, s.setPair i { (s.queues i).mapState fun d q =>
          if connected d then .hostConnected else q with port })
      else none
    | _ => none
  | .accepting =>
    match s.acceptor with
    | .scanning i =>
      if x = .guest ∧ s.process .guest = .running ∧ i < kNumQueues ∧
          s.queueState i .host = .hostConnected ∧ s.queueState i .guest = .hostConnected then
        some (i, s.mapState i fun d q => if d = .host then .bothConnected else q)
      else none
    | _ => none
  | .claiming =>
    match s.process .guest with
    | .cleaning _ (.looking i) =>
      if x = .guest ∧ i < kNumQueues ∧ s.queueState i .guest = .hostConnected then
        some (i, s.mapState i fun d q => if d = .host then .bothConnected else q)
      else none
    | _ => none
  | .resetting =>
    match s.process x with
    | .cleaning _ (.resetting i) =>
      some (i, s.mapState i fun d q => if d = .host then q.reset x else q)
    | _ => none

namespace LockedState
variable (s : LockedState θ)

def setLock (l : LockName) (holder : Option Side) : LockedState θ :=
  { s with locks := Function.update s.locks l holder }

def cut (x : Side) (c : Cut θ) : Option (LockedState θ) :=
  match s.window.cut x c with
  | some (i, window) =>
    if s.locks (.state i) = none then some ({ s with window }.setLock (.state i) (some x)) else none
  | none => none

def wake (i : ℕ) : LockedState θ :=
  { s.setLock (.state i) none with asleep := Function.update s.asleep i none }

variable [DecidableEq θ]

def kill (x : Side) (held : List LockName) : LockedState θ where
  window := s.window.restart x
  locks l := if l ∈ held then some x else s.locks l
  asleep i := if x = .host then none else s.asleep i

/-- A step that has the lock. It gives it back unless a check fails or the host goes to sleep. -/
def work (i : Input θ) (l : LockName) : Option (LockedState θ × List Event) :=
  (step s.window i).map fun r =>
    let s' := { s with window := r.1 }
    match l with
    | .state j =>
      if .failed i.side ∈ r.2 then (s'.setLock l (some i.side), r.2)
      else if s.window.closesUnseen i then
        ({ s'.setLock l (some .host) with asleep := Function.update s.asleep j i.worker }, r.2)
      else (s', r.2)
    | .packets _ _ => (s', r.2)

def free (i : Input θ) : Option (LockedState θ × List Event) :=
  (step s.window i).map fun r =>
    match i with
    | .cleanUp x =>
      if s.window.process x = .starting then
        ({ s with window := r.1, locks := recover x s.locks }, r.2)
      else ({ s with window := r.1 }, r.2)
    | _ => ({ s with window := r.1 }, r.2)

/-- A thread that finds its lock taken spins, unless it has it and sleeps. -/
def thread (i : Input θ) : Option (LockedState θ × List Event) :=
  match s.window.lockFor i with
  | some (.state j) =>
    if i.worker.isSome ∧ s.asleep j = i.worker ∧ s.window.process .host = .running then
      some (s.wake j, [])
    else if s.locks (.state j) = none then s.work i (.state j)
    else some (s, [])
  | some (.packets j d) =>
    if s.locks (.packets j d) = none then s.work i (.packets j d) else some (s, [])
  | none => s.free i

end LockedState

variable [DecidableEq θ]

def lockedStep (s : LockedState θ) : LockedInput θ → Option (LockedState θ × List Event)
  | .kill x cuts held =>
    if ∀ l ∈ held, s.locks l ≠ some x.peer then
      (cuts.foldlM (fun (s : LockedState θ) c => s.cut x c) s).map fun s' => (s'.kill x held, [])
    else none
  | .thread (.restart _) => none
  | .thread i => s.thread i

def lockedMachine (θ : Type*) [DecidableEq θ] : Machine (LockedState θ) (LockedInput θ) Event :=
  ⟨lockedStep⟩

end Steps

/-- No process is killed between the first and the last write of a section. -/
def Whole {θ : Type*} : LockedInput θ → Prop
  | .thread _ => True
  | .kill _ cuts _ => cuts = []

def OfWindow {θ : Type*} (ok : State θ → Input θ → Prop) (s : LockedState θ) :
    LockedInput θ → Prop
  | .thread i => ok s.window i
  | .kill x _ _ => ok s.window (.restart x)

instance {θ : Type*} : DecidablePred (Whole (θ := θ))
  | .thread _ => isTrue trivial
  | .kill _ cuts _ =>
    match cuts with
    | [] => isTrue rfl
    | _ :: _ => isFalse (List.cons_ne_nil _ _)

instance {θ : Type*} (ok : State θ → Input θ → Prop) [∀ s i, Decidable (ok s i)]
    (s : LockedState θ) (i : LockedInput θ) : Decidable (OfWindow ok s i) :=
  match i with
  | .thread i => inferInstanceAs (Decidable (ok s.window i))
  | .kill x _ _ => inferInstanceAs (Decidable (ok s.window (.restart x)))

section Refinement
variable {θ : Type*} [DecidableEq θ] {s s' : LockedState θ} {es : List Event}

theorem work_window {i : Input θ} {l : LockName} (h : s.work i l = some (s', es)) :
    step s.window i = some (s'.window, es) := by
  obtain ⟨⟨w, es'⟩, hstep, heq⟩ := Option.map_eq_some_iff.mp h
  rw [hstep]
  cases l with
  | packets j d =>
    obtain ⟨rfl, rfl⟩ := Prod.mk.inj heq
    rfl
  | state j =>
    simp only at heq
    split_ifs at heq
    all_goals
      obtain ⟨rfl, rfl⟩ := Prod.mk.inj heq
      rfl

theorem free_window {i : Input θ} (h : s.free i = some (s', es)) :
    step s.window i = some (s'.window, es) := by
  obtain ⟨⟨w, es'⟩, hstep, heq⟩ := Option.map_eq_some_iff.mp h
  rw [hstep]
  split at heq
  · split_ifs at heq
    all_goals
      obtain ⟨rfl, rfl⟩ := Prod.mk.inj heq
      rfl
  · obtain ⟨rfl, rfl⟩ := Prod.mk.inj heq
    rfl

theorem thread_window {i : Input θ} (h : s.thread i = some (s', es)) :
    s'.window = s.window ∧ es = [] ∨ step s.window i = some (s'.window, es) := by
  unfold LockedState.thread at h
  split at h
  · split_ifs at h
    · obtain ⟨rfl, rfl⟩ := Prod.mk.inj (Option.some.inj h)
      exact .inl ⟨rfl, rfl⟩
    · exact .inr (work_window h)
    · obtain ⟨rfl, rfl⟩ := Prod.mk.inj (Option.some.inj h)
      exact .inl ⟨rfl, rfl⟩
  · split_ifs at h
    · exact .inr (work_window h)
    · obtain ⟨rfl, rfl⟩ := Prod.mk.inj (Option.some.inj h)
      exact .inl ⟨rfl, rfl⟩
  · exact .inr (free_window h)

theorem lockedStep_window {ok : State θ → Input θ → Prop} {i : LockedInput θ} (hwhole : Whole i)
    (hok : OfWindow ok s i) (h : lockedStep s i = some (s', es)) :
    s'.window = s.window ∧ es = [] ∨
      ∃ j, ok s.window j ∧ step s.window j = some (s'.window, es) := by
  cases i with
  | kill x cuts held =>
    obtain rfl : cuts = [] := hwhole
    simp only [lockedStep, List.foldlM_nil, Option.pure_def, Option.map_some,
      Option.ite_none_right_eq_some, Option.some.injEq, Prod.mk.injEq] at h
    obtain ⟨-, rfl, rfl⟩ := h
    exact .inr ⟨.restart x, hok, rfl⟩
  | thread i =>
    have hthread : s.thread i = some (s', es) := by
      cases i with
      | restart x => simp [lockedStep] at h
      | _ => exact h
    exact (thread_window hthread).imp_right fun hs => ⟨i, hok, hs⟩

theorem run_window {ok : State θ → Input θ → Prop} {tr : List Event}
    (run : (lockedMachine θ).Run (fun s i => Whole i ∧ OfWindow ok s i) {} tr s) :
    (machine θ).Run ok {} tr s.window :=
  run.refines LockedState.window fun hok hs => lockedStep_window hok.1 hok.2 hs

end Refinement

section Results
variable {θ : Type*} [DecidableEq θ] {s : LockedState θ} {tr : List Event}

/-- Wherever the processes are killed but within a section, no check fails, no two connections
have the same pair of queues at once, and the guest connects to the port that the host asked for. -/
theorem pairs_exclusive
    (run : (lockedMachine θ).Run (fun s i => Whole i ∧ OfWindow Undisturbed s i) {} tr s) :
    (∀ x, .failed x ∉ tr) ∧
    (∀ x y c c' k k', s.window.connections x c = some k → s.window.connections y c' = some k' →
      k.Open → k'.Open → k.id = k'.id → c = c') ∧
    ∀ c port, .accepted c port ∈ tr → .opened c port ∈ tr :=
  window_exclusive (run_window run)

def killAfterAccept : List (LockedInput Unit) :=
  (openOne ++ acceptOne).map .thread ++
    [LockedInput.kill .host [] [.state 0], .thread (.sender .guest 1 [1]),
      .thread (.sender .guest 1 [])] ++
    List.replicate 38 (LockedInput.thread (.cleanUp .host))

theorem pairs_exclusive_killed : ∃ tr s, (lockedMachine Unit).Run
    (fun s i => Whole i ∧ OfWindow Undisturbed s i) {} tr s ∧
      s.window.process .host = .running ∧ .accepted 1 5555 ∈ tr ∧ .opened 1 5555 ∈ tr := by
  obtain ⟨tr, s, run, hrunning, haccepted⟩ := Machine.run_of_exec (lockedMachine Unit)
    (fun s i => Whole i ∧ OfWindow Undisturbed s i) {} killAfterAccept
    (fun s tr => s.window.process .host = .running ∧ .accepted 1 5555 ∈ tr) (by decide +kernel)
  obtain ⟨-, -, hopened⟩ := pairs_exclusive run
  exact ⟨tr, s, run, hrunning, haccepted, hopened 1 5555 haccepted⟩

/-- The host is killed when it has written one of the two states of a pair, and recovers the lock.
The guest then finds the pair half connected. -/
example : ∃ tr s, (lockedMachine Bool).Run (OfWindow Undisturbed) {} tr s ∧ .failed .guest ∈ tr :=
  Machine.run_of_exec (lockedMachine Bool) (OfWindow Undisturbed) {}
    (List.replicate 34 (LockedInput.thread (.cleanUp .guest)) ++
      List.replicate 34 (LockedInput.thread (.cleanUp .host)) ++
      [LockedInput.thread (.openConnection true 5555), .thread (.opener true),
        .thread (.openConnection false 5556), .thread (.opener false),
        .kill .host [.opening false 1] []] ++
      List.replicate 7 (LockedInput.thread (.cleanUp .host)) ++
      List.replicate 3 (LockedInput.thread .acceptor))
    (fun _ tr => .failed .guest ∈ tr) (by decide +kernel)

/-- While the guest is not looking, it has a look left for each connection that waits. -/
theorem no_connection_unseen
    (run : (lockedMachine θ).Run (fun s i => Whole i ∧ OfWindow Countable s i) {} tr s)
    (hrest : s.window.acceptor = .awaiting) :
    (s.window.waiting 0).card ≤ (s.window.seqNum - s.window.lastSeqNumber).toNat ∧
    (s.window.seqNum = s.window.lastSeqNumber →
      ∀ i < kNumQueues, s.window.queueState i .host ≠ .hostConnected) :=
  window_unseen (run_window run) hrest

theorem no_connection_unseen_one : ∃ tr s, (lockedMachine Unit).Run
    (fun s i => Whole i ∧ OfWindow Countable s i) {} tr s ∧ s.locks (.state 0) = some .host ∧
      s.window.waiting 0 = {0} ∧ 1 ≤ (s.window.seqNum - s.window.lastSeqNumber).toNat := by
  obtain ⟨tr, s, run, hrest, hlock, hwaits⟩ := Machine.run_of_exec (lockedMachine Unit)
    (fun s i => Whole i ∧ OfWindow Countable s i) {}
    (openOne.map .thread ++ [LockedInput.kill .host [] [.state 0]])
    (fun s _ => s.window.acceptor = .awaiting ∧ s.locks (.state 0) = some .host ∧
      s.window.waiting 0 = {0}) (by decide +kernel)
  obtain ⟨hlooks, -⟩ := no_connection_unseen run hrest
  rw [hwaits, Finset.card_singleton] at hlooks
  exact ⟨tr, s, run, hlock, hwaits, hlooks⟩

/-- No end is lost when processes are killed: once both run again, a queue is inactive, and so may
be taken, just when no thread has an end of it. -/
theorem inactive_iff_unheld
    (run : (lockedMachine θ).Run (fun s i => Whole i ∧ OfWindow Undisturbed s i) {} tr s)
    (hrun : ∀ x, s.window.process x = .running) (i : ℕ) (d : Side) :
    s.window.queueState i d = .inactive ↔
      ∀ x c k, s.window.connections x c = some k → k.id = i → ¬ k.Holds x d :=
  window_inactive_iff (run_window run) hrun i d

theorem inactive_iff_unheld_killed : ∃ tr s, (lockedMachine Unit).Run
    (fun s i => Whole i ∧ OfWindow Undisturbed s i) {} tr s ∧
      s.window.queueState 0 .host = .hostClosed ∧
        ¬ ∀ x c k, s.window.connections x c = some k → k.id = 0 → ¬ k.Holds x .host := by
  obtain ⟨tr, s, run, ⟨hhost, hguest⟩, hq⟩ := Machine.run_of_exec (lockedMachine Unit)
    (fun s i => Whole i ∧ OfWindow Undisturbed s i) {} killAfterAccept
    (fun s _ => (s.window.process .host = .running ∧ s.window.process .guest = .running) ∧
      s.window.queueState 0 .host = .hostClosed) (by decide +kernel)
  have hrun : ∀ x, s.window.process x = .running := by
    intro x
    cases x with
    | guest => exact hguest
    | host => exact hhost
  refine ⟨tr, s, run, hq, ?_⟩
  rw [← inactive_iff_unheld run hrun, hq]
  simp

omit [DecidableEq θ] in
theorem acceptor_lockFor {w : State θ} {j : ℕ} (h : w.lockFor .acceptor = some (.state j)) :
    j < kNumQueues := by
  simp only [State.lockFor] at h
  split at h
  · simp only [Option.ite_none_right_eq_some, Option.some.injEq, LockName.state.injEq] at h
    obtain ⟨hlt, rfl⟩ := h
    exact hlt
  · simp at h

theorem lift_acceptor {tr : List Event} {w : State θ}
    (run : (machine θ).Run (fun _ i => i = .acceptor) s.window tr w) (hnone : tr = [])
    (hfree : ∀ i < kNumQueues, s.locks (.state i) = none) :
    ∃ s', (lockedMachine θ).Run (fun _ i => i = .thread .acceptor) s [] s' ∧ s'.window = w ∧
      s'.locks = s.locks := by
  induction run with
  | nil => exact ⟨s, .nil, rfl, rfl⟩
  | @snoc tr es w w' i _ hi hs ih =>
    obtain ⟨htr, rfl⟩ := List.append_eq_nil_iff.mp hnone
    obtain ⟨s', run, rfl, hlocks⟩ := ih htr
    subst hi
    have hstep : lockedStep s' (.thread .acceptor) = some ({ s' with window := w' }, []) := by
      change s'.thread .acceptor = _
      have hs : step s'.window .acceptor = some (w', []) := hs
      unfold LockedState.thread
      split
      · rename_i j hlock
        have hj : j < kNumQueues := acceptor_lockFor hlock
        rw [if_neg (by simp [Input.worker]), if_pos (by rw [hlocks]; exact hfree j hj)]
        simp [LockedState.work, hs, State.closesUnseen]
      · rename_i j d hlock
        simp only [State.lockFor] at hlock
        split at hlock <;> simp at hlock
      · simp [LockedState.free, hs]
    exact ⟨_, run.snoc rfl hstep, rfl, hlocks⟩

/-- Wherever the processes are killed but within a section, a guest that has come to rest takes a
connection that waits, by steps of its main thread alone, if no lock of a pair is taken. -/
theorem waiting_is_taken
    (run : (lockedMachine θ).Run
      (fun s i => Whole i ∧ OfWindow (fun w i => Undisturbed w i ∧ Countable w i) s i) {} tr s)
    (hguest : s.window.process .guest = .running) (hrest : s.window.acceptor = .awaiting)
    (hfree : ∀ i < kNumQueues, s.locks (.state i) = none) (hwaits : (s.window.waiting 0).Nonempty) :
    ∃ s', (lockedMachine θ).Run (fun _ i => i = .thread .acceptor) s [] s' ∧
      ∃ i ∈ s.window.waiting 0, s'.window.acceptor = .building (s.window.owner i) := by
  obtain ⟨w, hrun, hfound⟩ := window_taken (run_window run) hguest hrest hwaits
  obtain ⟨s', hlifted, rfl, -⟩ := lift_acceptor hrun rfl hfree
  exact ⟨s', hlifted, hfound⟩

end Results

theorem waiting_is_taken_one : ∃ s s' : LockedState Unit,
    (lockedMachine Unit).Run (fun _ i => i = .thread .acceptor) s [] s' ∧
      ∃ i ∈ s.window.waiting 0, s'.window.acceptor = .building (s.window.owner i) := by
  obtain ⟨tr, s, run, hguest, hrest, hlocks, hwaits⟩ := Machine.run_of_exec (lockedMachine Unit)
    (fun s i => Whole i ∧ OfWindow (fun w i => Undisturbed w i ∧ Countable w i) s i) {}
    (openOne.map .thread)
    (fun s _ => s.window.process .guest = .running ∧ s.window.acceptor = .awaiting ∧
      (∀ i < kNumQueues, s.locks (.state i) = none) ∧ s.window.waiting 0 = {0})
    (by decide +kernel)
  obtain ⟨s', taken⟩ := waiting_is_taken run hguest hrest hlocks (by simp [hwaits])
  exact ⟨s, s', taken⟩

end Rpi3Device.Vsoc.SocketForward
