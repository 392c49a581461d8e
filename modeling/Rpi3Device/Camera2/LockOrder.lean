import Mathlib.Tactic
import Rpi3Device.LockPrograms
import Rpi3Device.TransitionSystem

/-!
# The order of the locks of `EmulatedFakeCamera2`

The camera's own mutex is taken by `getStreamInfo` inside the internals mutexes of
the configure and of the readout thread, and `releaseStream` takes these inside the
camera's. `ReadoutThread::isStreamInUse` takes the readout thread's two mutexes in the
order opposite to the first section of its `threadLoop`, which its comment wants to
follow. What the code reads under the locks is an argument of each program, so every
way through the functions is a program.
-/

namespace Rpi3Device.Camera2
open TransitionSystem LockPrograms

inductive CameraMutex where
  | mMutex
  | configureInput
  | configureInternals
  | readoutInput
  | readoutInternals
  deriving DecidableEq, Repr

instance : Fintype CameraMutex where
  elems := {.mMutex, .configureInput, .configureInternals, .readoutInput, .readoutInternals}
  complete m := by cases m <;> decide

inductive CameraThread (ι : Type) where
  | caller (i : ι)
  | configure
  | readout
  deriving DecidableEq

inductive ReleaseOutcome where
  | unknownStream
  | usedInConfigure
  | readoutAsked
  deriving DecidableEq, Repr

def getStreamInfo (n : Nat) (next : Prog CameraMutex) : Prog CameraMutex :=
  sections (List.replicate n .mMutex) next

def configureIsStreamInUse (next : Prog CameraMutex) : Prog CameraMutex :=
  .locked .configureInternals .done next

def readoutIsStreamInUse (next : Prog CameraMutex) : Prog CameraMutex :=
  .locked .readoutInternals (.locked .readoutInput .done .done) next

def releaseStream : ReleaseOutcome → Prog CameraMutex
  | .unknownStream => .locked .mMutex .done .done
  | .usedInConfigure => .locked .mMutex (configureIsStreamInUse .done) .done
  | .readoutAsked => .locked .mMutex (configureIsStreamInUse (readoutIsStreamInUse .done)) .done

/-- What the second part of `ConfigureThread::threadLoop` finds: a request is there already, the
queue fails or is empty, or a request is set up with `streams` calls of `getStreamInfo`. -/
inductive Fetch where
  | present
  | failed
  | empty
  | setUp (streams : Nat) (success : Bool)
  deriving DecidableEq, Repr

/-- `waits` and `active` are of the first section, `checks` counts the wake ups of `waitForReady`,
and `proceeds` says that readout, compressor and sensor were waited for with success. -/
structure ConfigureOutcome where
  waits : Bool
  active : Bool
  fetch : Fetch
  checks : Nat
  proceeds : Bool
  buffers : Nat
  deriving DecidableEq, Repr

def waitForReady (checks : Nat) (next : Prog CameraMutex) : Prog CameraMutex :=
  sections (List.replicate checks .readoutInput) next

def configureNext (buffers : Nat) : Prog CameraMutex :=
  .locked .configureInternals
    (getStreamInfo buffers (sections [.readoutInput, .configureInput] .done)) .done

def configureRest (o : ConfigureOutcome) : Prog CameraMutex :=
  waitForReady o.checks (if o.proceeds = true then configureNext o.buffers else .done)

def fetchRequest (o : ConfigureOutcome) : Prog CameraMutex :=
  match o.fetch with
  | .present => configureRest o
  | .failed => .locked .configureInternals .done .done
  | .empty => .locked .configureInternals (sections [.configureInput] .done) .done
  | .setUp streams success =>
    .locked .configureInternals (sections [.configureInput] (getStreamInfo streams .done))
      (if success = true then configureRest o else .done)

/-- The first section is entered a second time when the wait in it ends. -/
def configureThreadLoop (o : ConfigureOutcome) : Prog CameraMutex :=
  sections (if o.waits = true then [.configureInput, .configureInput] else [.configureInput])
    (if o.active = true then fetchRequest o else .done)

/-- `takes` says that the first section takes a request from the ring, `proceeds` that there is
one and the sensor is done with it, and `finishes` that no step of the readout fails. -/
structure ReadoutOutcome where
  waits : Bool
  takes : Bool
  proceeds : Bool
  buffers : Nat
  finishes : Bool
  deriving DecidableEq, Repr

def readoutRequest (o : ReadoutOutcome) : Prog CameraMutex :=
  .locked .readoutInternals
    (if o.finishes = true then getStreamInfo o.buffers (sections [.readoutInput] .done)
      else .done) .done

def readoutThreadLoop (o : ReadoutOutcome) : Prog CameraMutex :=
  sections (if o.waits = true then [.readoutInput] else [])
    (.locked .readoutInput (if o.takes = true then sections [.readoutInternals] .done else .done)
      (if o.proceeds = true then readoutRequest o else .done))

inductive Allowed {ι : Type} : CameraThread ι → List CameraMutex → CameraMutex → Prop where
  | release (i : ι) : Allowed (.caller i) [] .mMutex
  | askConfigure (i : ι) : Allowed (.caller i) [.mMutex] .configureInternals
  | askReadout (i : ι) : Allowed (.caller i) [.mMutex] .readoutInternals
  | askReadoutInput (i : ι) : Allowed (.caller i) [.readoutInternals, .mMutex] .readoutInput
  | configureInput : Allowed .configure [] .configureInput
  | configureInternals : Allowed .configure [] .configureInternals
  | configureReady : Allowed .configure [] .readoutInput
  | configureStreamInfo : Allowed .configure [.configureInternals] .mMutex
  | configureCount : Allowed .configure [.configureInternals] .configureInput
  | configureHandOver : Allowed .configure [.configureInternals] .readoutInput
  | readoutInput : Allowed .readout [] .readoutInput
  | readoutInternals : Allowed .readout [] .readoutInternals
  | readoutTake : Allowed .readout [.readoutInput] .readoutInternals
  | readoutStreamInfo : Allowed .readout [.readoutInternals] .mMutex
  | readoutCount : Allowed .readout [.readoutInternals] .readoutInput

inductive LockAction (ι : Type) where
  | releaseStream (i : ι) (o : ReleaseOutcome)
  | configureThreadLoop (o : ConfigureOutcome)
  | readoutThreadLoop (o : ReadoutOutcome)
  | advance (t : CameraThread ι)

def LockAction.advances {ι : Type} : LockAction ι → Option (CameraThread ι)
  | .advance t => some t
  | _ => none

def lockMachine (ι : Type) [DecidableEq ι] :
    Machine (LockState (CameraThread ι) CameraMutex) (LockAction ι) Empty where
  step s a := (match a with
    | .releaseStream i o => s.begin (.caller i) (releaseStream o)
    | .configureThreadLoop o => s.begin .configure (configureThreadLoop o)
    | .readoutThreadLoop o => s.begin .readout (readoutThreadLoop o)
    | .advance t => s.advance t).map fun s' => (s', [])

/-- No mutex is acquired for a nesting that runs against one another thread is in. -/
def nestingsApart {ι : Type} (s : LockState (CameraThread ι) CameraMutex) (a : LockAction ι) :
    Prop :=
  ∀ t ∈ a.advances, AcquiresClear s t

instance {ι : Type} [DecidableEq ι] (s : LockState (CameraThread ι) CameraMutex)
    (a : LockAction ι) : Decidable (nestingsApart s a) :=
  inferInstanceAs (Decidable (∀ t ∈ a.advances, AcquiresClear s t))

section Programs
variable {ι : Type}

theorem conforms_getStreamInfo {D : List CameraMutex → CameraMutex → Prop} {h : List CameraMutex}
    (n : Nat) {next : Prog CameraMutex} (hD : D h .mMutex) (hnext : Conforms D h next) :
    Conforms D h (getStreamInfo n next) := by
  refine conforms_sections (fun m hm => ?_) hnext
  rw [List.eq_of_mem_replicate hm]
  exact hD

theorem conforms_releaseStream (i : ι) (o : ReleaseOutcome) :
    Conforms (Allowed (.caller i)) [] (releaseStream o) := by
  cases o with
  | unknownStream => exact ⟨.release i, trivial, trivial⟩
  | usedInConfigure => exact ⟨.release i, ⟨.askConfigure i, trivial, trivial⟩, trivial⟩
  | readoutAsked =>
    refine ⟨.release i, ⟨.askConfigure i, trivial, .askReadout i, ?_, trivial⟩, trivial⟩
    exact ⟨.askReadoutInput i, trivial, trivial⟩

theorem conforms_configureNext (buffers : Nat) :
    Conforms (Allowed (ι := ι) .configure) [] (configureNext buffers) := by
  refine ⟨.configureInternals, conforms_getStreamInfo buffers .configureStreamInfo ?_, trivial⟩
  exact ⟨.configureHandOver, trivial, .configureCount, trivial, trivial⟩

theorem conforms_configureRest (o : ConfigureOutcome) :
    Conforms (Allowed (ι := ι) .configure) [] (configureRest o) := by
  refine conforms_sections (fun m hm => ?_) ?_
  · rw [List.eq_of_mem_replicate hm]
    exact .configureReady
  · split_ifs with hproceeds
    · exact conforms_configureNext o.buffers
    · trivial

theorem conforms_fetchRequest (o : ConfigureOutcome) :
    Conforms (Allowed (ι := ι) .configure) [] (fetchRequest o) := by
  unfold fetchRequest
  split
  · exact conforms_configureRest o
  · exact ⟨.configureInternals, trivial, trivial⟩
  · exact ⟨.configureInternals, ⟨.configureCount, trivial, trivial⟩, trivial⟩
  · rename_i streams success hfetch
    refine ⟨.configureInternals, ⟨.configureCount, trivial, ?_⟩, ?_⟩
    · exact conforms_getStreamInfo streams .configureStreamInfo trivial
    · split_ifs with hsuccess
      · exact conforms_configureRest o
      · trivial

theorem conforms_configureThreadLoop (o : ConfigureOutcome) :
    Conforms (Allowed (ι := ι) .configure) [] (configureThreadLoop o) := by
  refine conforms_sections (fun m hm => ?_) ?_
  · have hinput : m = .configureInput := by
      split_ifs at hm with hwaits
      · simpa using hm
      · simpa using hm
    rw [hinput]
    exact .configureInput
  · split_ifs with hactive
    · exact conforms_fetchRequest o
    · trivial

theorem conforms_readoutRequest (o : ReadoutOutcome) :
    Conforms (Allowed (ι := ι) .readout) [] (readoutRequest o) := by
  refine ⟨.readoutInternals, ?_, trivial⟩
  split_ifs with hfinishes
  · exact conforms_getStreamInfo o.buffers .readoutStreamInfo ⟨.readoutCount, trivial, trivial⟩
  · trivial

theorem conforms_readoutThreadLoop (o : ReadoutOutcome) :
    Conforms (Allowed (ι := ι) .readout) [] (readoutThreadLoop o) := by
  refine conforms_sections (fun m hm => ?_) ⟨.readoutInput, ?_, ?_⟩
  · have hinput : m = .readoutInput := by
      split_ifs at hm with hwaits
      · simpa using hm
      · simp at hm
    rw [hinput]
    exact .readoutInput
  · split_ifs with htakes
    · exact ⟨.readoutTake, trivial, trivial⟩
    · trivial
  · split_ifs with hproceeds
    · exact conforms_readoutRequest o
    · trivial

end Programs

section Cycles
variable {ι : Type} {s : LockState (CameraThread ι) CameraMutex}

def HoldsWaiting : CameraThread ι → CameraMutex → Prop
  | .caller _, m => m = .mMutex ∨ m = .readoutInternals
  | .configure, m => m = .configureInternals
  | .readout, m => m = .readoutInput ∨ m = .readoutInternals

theorem holdsWaiting_of_cycle (inv : LockInv Allowed s) {t : CameraThread ι}
    (h : Relation.TransGen (WaitsFor s) t t) {m : CameraMutex} (hm : m ∈ (s.threads t).held) :
    HoldsWaiting t m := by
  obtain ⟨w, u, hallowed, hheld, -⟩ := inv.on_cycle h
  generalize (s.threads t).held = held at hallowed hheld hm
  cases hallowed with
  | release | configureInput | configureInternals | configureReady | readoutInput
    | readoutInternals => exact absurd rfl hheld
  | askConfigure | askReadout | readoutTake => exact .inl (List.mem_singleton.mp hm)
  | askReadoutInput =>
    simp only [List.mem_cons, List.not_mem_nil, or_false] at hm
    exact hm.symm
  | configureStreamInfo | configureCount | configureHandOver => exact List.mem_singleton.mp hm
  | readoutStreamInfo | readoutCount => exact .inr (List.mem_singleton.mp hm)

theorem caller_holds_mMutex (inv : LockInv Allowed s) {i : ι}
    (h : Relation.TransGen (WaitsFor s) (.caller i) (.caller i)) :
    .mMutex ∈ (s.threads (.caller i)).held := by
  obtain ⟨w, u, hallowed, hheld, -⟩ := inv.on_cycle h
  generalize (s.threads (.caller i)).held = held at hallowed hheld
  cases hallowed with
  | release => exact absurd rfl hheld
  | askConfigure | askReadout | askReadoutInput => simp

theorem caller_unique (inv : LockInv Allowed s) {i j : ι}
    (hi : Relation.TransGen (WaitsFor s) (.caller i) (.caller i))
    (hj : Relation.TransGen (WaitsFor s) (.caller j) (.caller j)) : i = j :=
  CameraThread.caller.inj
    (inv.holder_unique (caller_holds_mMutex inv hi) (caller_holds_mMutex inv hj))

theorem caller_waits (inv : LockInv Allowed s) {i : ι}
    (h : Relation.TransGen (WaitsFor s) (.caller i) (.caller i)) :
    (WaitsFor s (.caller i) .configure ∧ Relation.TransGen (WaitsFor s) .configure .configure ∧
        .readoutInternals ∉ (s.threads (.caller i)).held) ∨
      WaitsFor s (.caller i) .readout ∧ Relation.TransGen (WaitsFor s) .readout .readout := by
  obtain ⟨m, u, hallowed, -, hm, hwaits, hcycle⟩ := inv.on_cycle h
  cases u with
  | configure =>
    refine .inl ⟨hwaits, hcycle, ?_⟩
    have hholder : m = .configureInternals := holdsWaiting_of_cycle inv hcycle hm
    subst hholder
    generalize (s.threads (.caller i)).held = held at hallowed
    cases hallowed with
    | askConfigure => simp
  | readout => exact .inr ⟨hwaits, hcycle⟩
  | caller j =>
    rw [← caller_unique inv h hcycle] at hm
    generalize (s.threads (.caller i)).held = held at hallowed hm
    cases hallowed with
    | release | askConfigure | askReadout | askReadoutInput => simp at hm

theorem configure_waits (inv : LockInv Allowed s)
    (h : Relation.TransGen (WaitsFor s) (.configure : CameraThread ι) .configure) :
    (∃ i, WaitsFor s .configure (.caller i) ∧
        Relation.TransGen (WaitsFor s) (.caller i) (.caller i)) ∨
      .readoutInput ∈ (s.threads .readout).held ∧
        Relation.TransGen (WaitsFor s) (.readout : CameraThread ι) .readout := by
  obtain ⟨m, u, hallowed, hheld, hm, hwaits, hcycle⟩ := inv.on_cycle h
  have hholder := holdsWaiting_of_cycle inv hcycle hm
  cases u with
  | caller i => exact .inl ⟨i, hwaits, hcycle⟩
  | configure =>
    generalize (s.threads .configure).held = held at hallowed hheld
    cases hallowed with
    | configureInput | configureInternals | configureReady => exact absurd rfl hheld
    | configureStreamInfo | configureCount | configureHandOver => cases hholder
  | readout =>
    generalize (s.threads .configure).held = held at hallowed hheld
    cases hallowed with
    | configureInput | configureInternals | configureReady => exact absurd rfl hheld
    | configureStreamInfo | configureCount => simp [HoldsWaiting] at hholder
    | configureHandOver => exact .inr ⟨hm, hcycle⟩

theorem readout_waits (inv : LockInv Allowed s)
    (h : Relation.TransGen (WaitsFor s) (.readout : CameraThread ι) .readout) :
    ∃ i, WaitsFor s .readout (.caller i) ∧
      Relation.TransGen (WaitsFor s) (.caller i) (.caller i) ∧
      (.readoutInput ∈ (s.threads .readout).held →
        .readoutInternals ∈ (s.threads (.caller i)).held) := by
  obtain ⟨m, u, hallowed, hheld, hm, hwaits, hcycle⟩ := inv.on_cycle h
  have hholder := holdsWaiting_of_cycle inv hcycle hm
  cases u with
  | caller i =>
    refine ⟨i, hwaits, hcycle, fun hinput => ?_⟩
    generalize (s.threads .readout).held = held at hallowed hheld hinput
    cases hallowed with
    | readoutInput | readoutInternals => exact absurd rfl hheld
    | readoutTake => exact hm
    | readoutStreamInfo | readoutCount => simp at hinput
  | configure =>
    generalize (s.threads .readout).held = held at hallowed
    cases hallowed with
    | readoutInput | readoutInternals | readoutTake | readoutStreamInfo | readoutCount =>
      cases hholder
  | readout =>
    generalize (s.threads .readout).held = held at hallowed hheld hm
    cases hallowed with
    | readoutInput | readoutInternals => exact absurd rfl hheld
    | readoutTake | readoutStreamInfo | readoutCount => simp at hm

theorem readout_not_on_cycle (inv : LockInv Allowed s) :
    ¬ Relation.TransGen (WaitsFor s) (.readout : CameraThread ι) .readout := by
  intro h
  obtain ⟨i, hwaits, hcaller, hinput⟩ := readout_waits inv h
  rcases caller_waits inv hcaller with ⟨hback, hconfigure, hnot⟩ | ⟨hback, -⟩
  · rcases configure_waits inv hconfigure with ⟨j, hwaits', hcaller'⟩ | ⟨hheld, -⟩
    · rw [caller_unique inv hcaller' hcaller] at hwaits'
      exact inv.not_waits_back (by simp) hback hwaits'
    · exact hnot (hinput hheld)
  · exact inv.not_waits_back (by simp) hwaits hback

theorem configure_not_on_cycle (inv : LockInv Allowed s) :
    ¬ Relation.TransGen (WaitsFor s) (.configure : CameraThread ι) .configure := by
  intro h
  rcases configure_waits inv h with ⟨i, hwaits, hcaller⟩ | ⟨-, hreadout⟩
  · rcases caller_waits inv hcaller with ⟨hback, -, -⟩ | ⟨-, hreadout⟩
    · exact inv.not_waits_back (by simp) hwaits hback
    · exact readout_not_on_cycle inv hreadout
  · exact readout_not_on_cycle inv hreadout

theorem not_deadlocked (inv : LockInv Allowed s) : ¬ Deadlocked s := by
  intro hparts
  obtain ⟨t, h⟩ := hparts
  cases t with
  | caller i =>
    rcases caller_waits inv h with ⟨-, hconfigure, -⟩ | ⟨-, hreadout⟩
    · exact configure_not_on_cycle inv hconfigure
    · exact readout_not_on_cycle inv hreadout
  | configure => exact configure_not_on_cycle inv h
  | readout => exact readout_not_on_cycle inv h

end Cycles

section Runs
variable {ι : Type} [DecidableEq ι] {s s' : LockState (CameraThread ι) CameraMutex}
  {tr es : List Empty}

theorem lockInv_step {a : LockAction ι} (inv : LockInv Allowed s) (hok : nestingsApart s a)
    (h : (lockMachine ι).step s a = some (s', es)) : LockInv Allowed s' := by
  obtain ⟨next, hnext, heq⟩ := Option.map_eq_some_iff.mp h
  obtain ⟨rfl, -⟩ := Prod.mk.inj heq
  cases a with
  | releaseStream i o => exact inv.begin (conforms_releaseStream i o) hnext
  | configureThreadLoop o => exact inv.begin (conforms_configureThreadLoop o) hnext
  | readoutThreadLoop o => exact inv.begin (conforms_readoutThreadLoop o) hnext
  | advance t => exact inv.advance (hok t rfl) hnext

/-- Without nestings that run against each other no threads wait for each other in a cycle. -/
theorem camera_locks_acyclic
    (run : (lockMachine ι).Run nestingsApart LockState.unlocked tr s) : ¬ Deadlocked s := by
  refine not_deadlocked (run.invariant (P := fun _ s => LockInv Allowed s) ?_ ?_)
  · exact lockInv_unlocked Allowed
  · intro tr es s s' a inv hok h
    exact lockInv_step inv hok h

end Runs

def captureActions : List (LockAction Unit) :=
  .configureThreadLoop ⟨false, true, .setUp 1 true, 1, true, 1⟩ ::
    List.replicate 18 (.advance .configure)

theorem camera_locks_acyclic_waiting :
    ∃ tr s, (lockMachine Unit).Run nestingsApart LockState.unlocked tr s ∧
      WaitsFor s (.caller ()) .configure ∧ ¬ Deadlocked s := by
  obtain ⟨tr, s, run, hwaits⟩ := Machine.run_of_exec (lockMachine Unit) nestingsApart
    LockState.unlocked
    (captureActions ++ LockAction.configureThreadLoop ⟨false, true, .empty, 0, false, 0⟩ ::
      List.replicate 3 (LockAction.advance .configure) ++
      [LockAction.releaseStream () .readoutAsked, LockAction.advance (.caller ())])
    (fun s _ => s.blocker (.caller ()) = some .configure) (by decide +kernel)
  exact ⟨tr, s, run, hwaits, camera_locks_acyclic run⟩

/-- A caller in `ReadoutThread::isStreamInUse` and the readout thread in its first section wait
for each other. -/
theorem release_deadlocks_readout :
    ∃ tr s, (lockMachine Unit).Run (fun _ _ => True) LockState.unlocked tr s ∧ Deadlocked s := by
  obtain ⟨tr, s, run, hcaller, hreadout⟩ := Machine.run_of_exec (lockMachine Unit)
    (fun _ _ => True) LockState.unlocked
    (captureActions ++ [LockAction.releaseStream () .readoutAsked] ++
      List.replicate 4 (LockAction.advance (.caller ())) ++
      [LockAction.readoutThreadLoop ⟨false, true, true, 1, true⟩, LockAction.advance .readout])
    (fun s _ => s.blocker (.caller ()) = some .readout ∧
      s.blocker .readout = some (.caller ())) (by decide +kernel)
  have hcycle : Relation.TransGen (WaitsFor s) (.caller ()) (.caller ()) :=
    .tail (.single hcaller) hreadout
  exact ⟨tr, s, run, .caller (), hcycle⟩

end Rpi3Device.Camera2
