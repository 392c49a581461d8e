import Mathlib.Tactic
import Rpi3Device.TransitionSystem
import Rpi3Device.RingBuffer
import Rpi3Device.Camera3.StreamTable

/-!
# The request pipeline of the fake HAL2 camera

The framework queues requests and notifies the configure thread when the queue was
empty. The configure thread sets a request up, waits for the readout thread and the
JPEG compressor, dequeues and locks the buffers and hands the request over through
the in-flight ring. The readout thread takes it, waits for its frame and returns
the buffers. A step is a critical section, or a stretch of code that touches nothing
shared; the results of waits and of calls out of the HAL are arguments.
-/

namespace Rpi3Device.Camera2
open Camera3 TransitionSystem RingBuffer

inductive RequestType where
  | capture
  | reprocess
  | other (code : UInt8)
deriving DecidableEq

structure Request where
  address : Nat
  type : Option RequestType
deriving DecidableEq

/-- A positive id is an output stream, a negative one an input stream, and zero an auxiliary
buffer. Every buffer that is dequeued gets a name of its own; before that the field is not set. -/
structure StreamBuffer where
  streamId : Int
  format : PixelFormat
  buffer : Option Nat := none
deriving DecidableEq

structure InFlight where
  isCapture : Bool
  request : Request
  buffers : List StreamBuffer
deriving DecidableEq

def kInFlightQueueSize : Nat := 4

inductive PipelineEvent where
  | configured (e : InFlight)
  | dropped (e : InFlight)
  | taken (e : InFlight)
  | completed (e : InFlight)
  | dequeue (buffer : Nat)
  | cancel (buffer : Nat)
  | lock (buffer : Nat)
  | unlock (buffer : Option Nat)
  | enqueue (buffer : Option Nat)
  | enqueueFailed (buffer : Option Nat)
  | acquireInput (buffer : Nat)
  | lockInput (buffer : Nat)
  | unlockInput (buffer : Option Nat)
  | releaseInput (buffer : Option Nat)
deriving DecidableEq

inductive ConfigurePlace where
  | check
  | waiting
  | dequeue
  | goInactive
  | setup
  | waitReadout
  | waitJpeg
  | configure
  | handOver
  | exited
deriving DecidableEq

structure ConfigureThread where
  place : ConfigurePlace := .check
  mActive : Bool := false
  mRequest : Option Request := none
  mNextBuffers : List StreamBuffer := []
  mNextIsCapture : Bool
  mNextNeedsJpeg : Bool
  mWaitingForReadout : Bool
deriving DecidableEq

inductive ReadoutPlace where
  | check
  | waiting
  | frame
  | process
  | exited
deriving DecidableEq

structure ReadoutThread where
  place : ReadoutPlace := .check
  mActive : Bool := false
  ring : RingQueue InFlight := RingQueue.empty
  current : Option InFlight := none

structure PipelineState where
  queue : List Request := []
  notifying : Nat := 0
  configure : ConfigureThread
  readout : ReadoutThread := {}
  dropped : List InFlight := []
  mIsBusy : Bool := false
  compressing : Option (List StreamBuffer) := none
  nextBuffer : Nat := 0

structure GetOutcomes where
  dequeue : Nat → Bool := fun _ => true
  lock : Nat → Bool := fun _ => true

inductive PipelineAction where
  | enqueueRequest (r : Request)
  | newRequestAvailable
  | configureCheck
  | configureWake (res : StatusT)
  | dequeueRequest (res : StatusT)
  | goInactive
  | setup (streams : Option (List (Int × PixelFormat)))
  | waitForReady (done : Bool)
  | waitForDone (done : Bool)
  | getBuffers (vsync : Bool) (o : GetOutcomes)
  | setNextOperation
  | readoutCheck
  | readoutWake (res : StatusT)
  | waitForNewFrame (gotFrame : Bool)
  | readout (ok : Bool) (enqueued : Nat → Bool) (run : StatusT)
  | compress (jpegBuffer : StreamBuffer) (auxBuffer : Option StreamBuffer)
      (success enqueued : Bool)

def ConfigureThread.proceed (t : ConfigureThread) : ConfigureThread :=
  { t with place := if t.mRequest = none then .dequeue else .waitReadout }

def ConfigureThread.setup (t : ConfigureThread) (streams : Option (List (Int × PixelFormat))) :
    ConfigureThread :=
  match t.mRequest.bind Request.type, streams with
  | some .capture, some streams =>
    { t with
      place := .waitReadout
      mNextIsCapture := true
      mNextBuffers := streams.map fun stream => ⟨stream.1, stream.2, none⟩
      mNextNeedsJpeg := streams.any (fun stream => stream.2 = .blob)
      mWaitingForReadout := true }
  | some .reprocess, some streams =>
    { t with
      place := .waitReadout
      mNextIsCapture := false
      mNextBuffers := streams.map fun stream => ⟨stream.1, stream.2, none⟩
      mNextNeedsJpeg := true }
  | _, _ => { t with place := .exited }

theorem setup_place (t : ConfigureThread) (streams : Option (List (Int × PixelFormat))) :
    (t.setup streams).place = .waitReadout ∨ (t.setup streams).place = .exited := by
  unfold ConfigureThread.setup
  split
  · exact .inl rfl
  · exact .inl rfl
  · exact .inr rfl

/-- The buffers from index `i` on, the names used up and what was done; a failure leaves the rest
as it is, and the caller does not ask. -/
def getBuffers (o : GetOutcomes) : Nat → Nat → List StreamBuffer →
    List StreamBuffer × Nat × List PipelineEvent
  | _, nextBuffer, [] => ([], nextBuffer, [])
  | i, nextBuffer, b :: rest =>
    let b' := { b with buffer := some nextBuffer }
    if o.dequeue i = false then (b :: rest, nextBuffer, [])
    else if o.lock i = false then
      (b' :: rest, nextBuffer + 1,
        if b.streamId > 0 then [.dequeue nextBuffer, .cancel nextBuffer]
        else [.acquireInput nextBuffer, .releaseInput (some nextBuffer)])
    else
      let (rest, nextBuffer', es) := getBuffers o (i + 1) (nextBuffer + 1) rest
      (b' :: rest, nextBuffer',
        (if b.streamId > 0 then [.dequeue nextBuffer, .lock nextBuffer]
          else [.acquireInput nextBuffer, .lockInput nextBuffer]) ++ es)

def ReadoutThread.setNextOperation (t : ReadoutThread) (e : InFlight) : Option ReadoutThread :=
  if t.ring.hasRoom kInFlightQueueSize then
    some { t with ring := t.ring.push kInFlightQueueSize e, mActive := true }
  else none

def ReadoutThread.proceed (t : ReadoutThread) : ReadoutThread × List PipelineEvent :=
  if t.current ≠ none then ({ t with place := .frame }, [])
  else if t.ring.head = t.ring.tail then ({ t with mActive := false, place := .check }, [])
  else
    ({ t with
      current := t.ring.slots t.ring.head
      ring := t.ring.advance kInFlightQueueSize
      place := .frame },
      (t.ring.slots t.ring.head).toList.map .taken)

def StreamBuffer.isOutput (b : StreamBuffer) : Bool := b.streamId > 0

/-- A buffer goes back to its stream. A stream that refuses it is only logged. -/
def returnBuffer (enqueued : Bool) (b : StreamBuffer) : List PipelineEvent :=
  [.unlock b.buffer, if enqueued = true then .enqueue b.buffer else .enqueueFailed b.buffer]

def returnBuffers (enqueued : Nat → Bool) : Nat → List StreamBuffer → List PipelineEvent
  | _, [] => []
  | i, b :: rest =>
    (if b.isOutput = true ∧ b.format ≠ .blob then returnBuffer (enqueued i) b else []) ++
      returnBuffers enqueued (i + 1) rest

def needsCompression (buffers : List StreamBuffer) : Bool :=
  buffers.any fun b => b.isOutput && decide (b.format = .blob)

/-- `start` refuses a compressor that is not reserved. -/
def jpegStart (mIsBusy : Bool) (run : StatusT) : StatusT :=
  if mIsBusy = false then .invalidOperation else run

def onJpegDone (jpegBuffer : StreamBuffer) (auxBuffer : Option StreamBuffer)
    (success enqueued : Bool) : List PipelineEvent :=
  (if success = true then returnBuffer enqueued jpegBuffer else []) ++
    (auxBuffer.toList.filter fun b => b.streamId ≠ 0).flatMap fun b =>
      [.unlockInput b.buffer, .releaseInput b.buffer]

def pipelineMachine : Machine PipelineState PipelineAction PipelineEvent where
  step s
    | .enqueueRequest r =>
      some ({ s with
        queue := s.queue ++ [r]
        notifying := if s.queue = [] then s.notifying + 1 else s.notifying }, [])
    | .newRequestAvailable =>
      if s.notifying = 0 then none
      else some ({ s with
        notifying := s.notifying - 1
        configure := { s.configure with mActive := true } }, [])
    | .configureCheck =>
      if s.configure.place ≠ .check then none
      else if s.configure.mActive = true then some ({ s with configure := s.configure.proceed }, [])
      else some ({ s with configure := { s.configure with place := .waiting } }, [])
    | .configureWake res =>
      if s.configure.place ≠ .waiting then none
      else if res ≠ .ok ∧ res ≠ .timedOut then
        some ({ s with configure := { s.configure with place := .exited } }, [])
      else if s.configure.mActive = true then some ({ s with configure := s.configure.proceed }, [])
      else some ({ s with configure := { s.configure with place := .check } }, [])
    | .dequeueRequest res =>
      if s.configure.place ≠ .dequeue then none
      else if res ≠ .ok then
        some ({ s with configure := { s.configure with place := .exited } }, [])
      else
        match s.queue with
        | [] => some ({ s with configure := { s.configure with place := .goInactive } }, [])
        | r :: rest =>
          some ({ s with
            queue := rest
            configure := { s.configure with place := .setup, mRequest := some r } }, [])
    | .goInactive =>
      if s.configure.place ≠ .goInactive then none
      else some ({ s with
        configure := { s.configure with place := .check, mActive := false } }, [])
    | .setup streams =>
      if s.configure.place ≠ .setup then none
      else some ({ s with configure := s.configure.setup streams }, [])
    | .waitForReady done =>
      if s.configure.place ≠ .waitReadout then none
      else if s.configure.mWaitingForReadout = false then
        some ({ s with configure := { s.configure with place := .waitJpeg } }, [])
      else if done = false then
        some ({ s with configure := { s.configure with place := .check } }, [])
      else if s.readout.ring.hasRoom kInFlightQueueSize then
        some ({ s with
          configure := { s.configure with place := .waitJpeg, mWaitingForReadout := false } }, [])
      else none
    | .waitForDone done =>
      if s.configure.place ≠ .waitJpeg then none
      else if s.configure.mNextNeedsJpeg = false then
        some ({ s with configure := { s.configure with place := .configure } }, [])
      else if done = false then
        some ({ s with configure := { s.configure with place := .check } }, [])
      else if s.mIsBusy = false then
        some ({ s with
          configure := { s.configure with place := .configure, mNextNeedsJpeg := false } }, [])
      else none
    | .getBuffers vsync o =>
      if s.configure.place ≠ .configure then none
      else if s.configure.mNextIsCapture = true ∧ vsync = false then
        some ({ s with configure := { s.configure with place := .check } }, [])
      else
        let (buffers, nextBuffer, es) := getBuffers o 0 s.nextBuffer s.configure.mNextBuffers
        some ({ s with
          nextBuffer := nextBuffer
          configure := { s.configure with place := .handOver, mNextBuffers := buffers } }, es)
    | .setNextOperation =>
      match s.configure.place, s.configure.mRequest with
      | .handOver, some r =>
        let e : InFlight := ⟨s.configure.mNextIsCapture, r, s.configure.mNextBuffers⟩
        let configure := { s.configure with place := .check, mRequest := none, mNextBuffers := [] }
        match s.readout.setNextOperation e with
        | some readout =>
          some ({ s with configure := configure, readout := readout }, [.configured e])
        | none =>
          some ({ s with configure := configure, dropped := s.dropped ++ [e] },
            [.configured e, .dropped e])
      | _, _ => none
    | .readoutCheck =>
      if s.readout.place ≠ .check then none
      else if s.readout.mActive = true then
        some ({ s with readout := s.readout.proceed.1 }, s.readout.proceed.2)
      else some ({ s with readout := { s.readout with place := .waiting } }, [])
    | .readoutWake res =>
      if s.readout.place ≠ .waiting then none
      else if res ≠ .ok ∧ res ≠ .timedOut then
        some ({ s with readout := { s.readout with place := .exited } }, [])
      else if s.readout.mActive = true then
        some ({ s with readout := s.readout.proceed.1 }, s.readout.proceed.2)
      else some ({ s with readout := { s.readout with place := .check } }, [])
    | .waitForNewFrame gotFrame =>
      match s.readout.place, s.readout.current with
      | .frame, some e =>
        if e.isCapture = true ∧ gotFrame = false then
          some ({ s with readout := { s.readout with place := .check } }, [])
        else some ({ s with readout := { s.readout with place := .process } }, [])
      | _, _ => none
    | .readout ok enqueued run =>
      match s.readout.place, s.readout.current with
      | .process, some e =>
        if ok = false then some ({ s with readout := { s.readout with place := .exited } }, [])
        else
          some ({ s with
            readout := { s.readout with place := .check, current := none }
            compressing := if needsCompression e.buffers = true ∧ jpegStart s.mIsBusy run = .ok
              then some e.buffers else s.compressing },
            returnBuffers enqueued 0 e.buffers ++ [.completed e])
      | _, _ => none
    | .compress jpegBuffer auxBuffer success enqueued =>
      if s.compressing = none then none
      else some ({ s with compressing := none, mIsBusy := false },
        onJpegDone jpegBuffer auxBuffer success enqueued)

/-- The threads as their constructors and `readyToRun` leave them; the flags of the configure
thread are not set. -/
def pipelineStart (mNextIsCapture mNextNeedsJpeg mWaitingForReadout : Bool) : PipelineState where
  configure := {
    mNextIsCapture := mNextIsCapture
    mNextNeedsJpeg := mNextNeedsJpeg
    mWaitingForReadout := mWaitingForReadout }

/-- The steps by what they do. The actions that only move a thread from one place to another are
put together. -/
inductive PipelineStep (s : PipelineState) :
    PipelineAction → PipelineState → List PipelineEvent → Prop where
  | enqueueRequest (r : Request) :
      PipelineStep s (.enqueueRequest r) { s with
        queue := s.queue ++ [r]
        notifying := if s.queue = [] then s.notifying + 1 else s.notifying } []
  | newRequestAvailable (h : s.notifying ≠ 0) :
      PipelineStep s .newRequestAvailable { s with
        notifying := s.notifying - 1
        configure := { s.configure with mActive := true } } []
  | configureProceed {a : PipelineAction}
      (hplace : s.configure.place = .check ∨ s.configure.place = .waiting)
      (hactive : s.configure.mActive = true) :
      PipelineStep s a { s with configure := s.configure.proceed } []
  | configureWait (hplace : s.configure.place = .check) :
      PipelineStep s .configureCheck
        { s with configure := { s.configure with place := .waiting } } []
  | configureLoop {a : PipelineAction}
      (hplace : s.configure.place = .waiting ∨
        (s.configure.place = .waitReadout ∧ s.configure.mWaitingForReadout = true) ∨
        s.configure.place = .waitJpeg ∨ s.configure.place = .configure) :
      PipelineStep s a { s with configure := { s.configure with place := .check } } []
  | configureExit {a : PipelineAction}
      (hplace : s.configure.place = .waiting ∨ s.configure.place = .dequeue) :
      PipelineStep s a { s with configure := { s.configure with place := .exited } } []
  | dequeueEmpty {a : PipelineAction} (hplace : s.configure.place = .dequeue)
      (hqueue : s.queue = []) :
      PipelineStep s a { s with configure := { s.configure with place := .goInactive } } []
  | dequeueRequest {a : PipelineAction} (r : Request) (rest : List Request)
      (hplace : s.configure.place = .dequeue) (hqueue : s.queue = r :: rest) :
      PipelineStep s a { s with
        queue := rest
        configure := { s.configure with place := .setup, mRequest := some r } } []
  | goInactive (hplace : s.configure.place = .goInactive) :
      PipelineStep s .goInactive
        { s with configure := { s.configure with place := .check, mActive := false } } []
  | setup (streams : Option (List (Int × PixelFormat))) (hplace : s.configure.place = .setup) :
      PipelineStep s (.setup streams) { s with configure := s.configure.setup streams } []
  | passReadout {done : Bool} (hplace : s.configure.place = .waitReadout)
      (hwaiting : s.configure.mWaitingForReadout = false) :
      PipelineStep s (.waitForReady done)
        { s with configure := { s.configure with place := .waitJpeg } } []
  | readyReadout {done : Bool} (hplace : s.configure.place = .waitReadout)
      (hroom : s.readout.ring.hasRoom kInFlightQueueSize) :
      PipelineStep s (.waitForReady done) { s with
        configure := { s.configure with place := .waitJpeg, mWaitingForReadout := false } } []
  | passJpeg {done : Bool} (needsJpeg : Bool) (hplace : s.configure.place = .waitJpeg) :
      PipelineStep s (.waitForDone done) { s with
        configure := { s.configure with place := .configure, mNextNeedsJpeg := needsJpeg } } []
  | getBuffers {vsync : Bool} (o : GetOutcomes) (hplace : s.configure.place = .configure)
      (hvsync : ¬ (s.configure.mNextIsCapture = true ∧ vsync = false)) :
      PipelineStep s (.getBuffers vsync o) { s with
        nextBuffer := (getBuffers o 0 s.nextBuffer s.configure.mNextBuffers).2.1
        configure := { s.configure with
          place := .handOver
          mNextBuffers := (getBuffers o 0 s.nextBuffer s.configure.mNextBuffers).1 } }
        (getBuffers o 0 s.nextBuffer s.configure.mNextBuffers).2.2
  | handOver (r : Request) (hplace : s.configure.place = .handOver)
      (hroom : s.readout.ring.hasRoom kInFlightQueueSize) :
      PipelineStep s .setNextOperation { s with
        configure := { s.configure with place := .check, mRequest := none, mNextBuffers := [] }
        readout := { s.readout with
          ring := s.readout.ring.push kInFlightQueueSize
            ⟨s.configure.mNextIsCapture, r, s.configure.mNextBuffers⟩
          mActive := true } }
        [.configured ⟨s.configure.mNextIsCapture, r, s.configure.mNextBuffers⟩]
  | drop (r : Request) (hplace : s.configure.place = .handOver)
      (hroom : ¬ s.readout.ring.hasRoom kInFlightQueueSize) :
      PipelineStep s .setNextOperation { s with
        configure := { s.configure with place := .check, mRequest := none, mNextBuffers := [] }
        dropped := s.dropped ++ [⟨s.configure.mNextIsCapture, r, s.configure.mNextBuffers⟩] }
        [.configured ⟨s.configure.mNextIsCapture, r, s.configure.mNextBuffers⟩,
          .dropped ⟨s.configure.mNextIsCapture, r, s.configure.mNextBuffers⟩]
  | readoutProceed {a : PipelineAction} :
      PipelineStep s a { s with readout := s.readout.proceed.1 } s.readout.proceed.2
  | readoutMove {a : PipelineAction} (place : ReadoutPlace) :
      PipelineStep s a { s with readout := { s.readout with place := place } } []
  | complete (enqueued : Nat → Bool) {run : StatusT} (e : InFlight)
      (hcurrent : s.readout.current = some e) :
      PipelineStep s (.readout true enqueued run) { s with
        readout := { s.readout with place := .check, current := none }
        compressing := if needsCompression e.buffers = true ∧ jpegStart s.mIsBusy run = .ok
          then some e.buffers else s.compressing }
        (returnBuffers enqueued 0 e.buffers ++ [.completed e])
  | compress (jpegBuffer : StreamBuffer) (auxBuffer : Option StreamBuffer)
      (success enqueued : Bool) (h : s.compressing ≠ none) :
      PipelineStep s (.compress jpegBuffer auxBuffer success enqueued)
        { s with compressing := none, mIsBusy := false }
        (onJpegDone jpegBuffer auxBuffer success enqueued)

theorem pipelineStep_of_step {s s' : PipelineState} {a : PipelineAction}
    {es : List PipelineEvent} (h : pipelineMachine.step s a = some (s', es)) :
    PipelineStep s a s' es := by
  cases a with
  | enqueueRequest r =>
    cases h
    exact .enqueueRequest r
  | newRequestAvailable =>
    simp only [pipelineMachine] at h
    split_ifs at h with hnone
    cases h
    exact .newRequestAvailable hnone
  | configureCheck =>
    simp only [pipelineMachine, ne_eq] at h
    split_ifs at h with hplace hactive
    · cases h
      exact .configureProceed (.inl hplace) hactive
    · cases h
      exact .configureWait hplace
  | configureWake res =>
    simp only [pipelineMachine, ne_eq] at h
    split_ifs at h with hplace herror hactive
    · cases h
      exact .configureExit (.inl hplace)
    · cases h
      exact .configureProceed (.inr hplace) hactive
    · cases h
      exact .configureLoop (.inl hplace)
  | dequeueRequest res =>
    simp only [pipelineMachine, ne_eq] at h
    split_ifs at h with hplace herror
    · split at h
      · rename_i hqueue
        cases h
        exact .dequeueEmpty hplace hqueue
      · rename_i r rest hqueue
        cases h
        exact .dequeueRequest r rest hplace hqueue
    · cases h
      exact .configureExit (.inr hplace)
  | goInactive =>
    simp only [pipelineMachine, ne_eq] at h
    split_ifs at h with hplace
    cases h
    exact .goInactive hplace
  | setup streams =>
    simp only [pipelineMachine, ne_eq] at h
    split_ifs at h with hplace
    cases h
    exact .setup streams hplace
  | waitForReady done =>
    simp only [pipelineMachine, ne_eq] at h
    split_ifs at h with hplace hwaiting hdone hroom
    · cases h
      exact .passReadout hplace hwaiting
    · cases h
      exact .configureLoop (.inr (.inl ⟨hplace, by simpa using hwaiting⟩))
    · cases h
      exact .readyReadout hplace hroom
  | waitForDone done =>
    simp only [pipelineMachine, ne_eq] at h
    split_ifs at h with hplace hneeds hdone hbusy
    · cases h
      exact .passJpeg s.configure.mNextNeedsJpeg hplace
    · cases h
      exact .configureLoop (.inr (.inr (.inl hplace)))
    · cases h
      exact .passJpeg false hplace
  | getBuffers vsync o =>
    simp only [pipelineMachine, ne_eq] at h
    split_ifs at h with hplace hvsync
    · cases h
      exact .configureLoop (.inr (.inr (.inr hplace)))
    · cases h
      exact .getBuffers o hplace hvsync
  | setNextOperation =>
    simp only [pipelineMachine, ReadoutThread.setNextOperation] at h
    split at h
    · rename_i r hplace hrequest
      by_cases hroom : s.readout.ring.hasRoom kInFlightQueueSize
      · simp only [if_pos hroom] at h
        cases h
        exact .handOver r hplace hroom
      · simp only [if_neg hroom] at h
        cases h
        exact .drop r hplace hroom
    · cases h
  | readoutCheck =>
    simp only [pipelineMachine] at h
    split_ifs at h
    · cases h
      exact .readoutProceed
    · cases h
      exact .readoutMove .waiting
  | readoutWake res =>
    simp only [pipelineMachine] at h
    split_ifs at h
    · cases h
      exact .readoutMove .exited
    · cases h
      exact .readoutProceed
    · cases h
      exact .readoutMove .check
  | waitForNewFrame gotFrame =>
    simp only [pipelineMachine] at h
    split at h
    · split_ifs at h
      · cases h
        exact .readoutMove .check
      · cases h
        exact .readoutMove .process
    · cases h
  | readout ok enqueued run =>
    simp only [pipelineMachine] at h
    split at h
    · rename_i e hplace hcurrent
      cases ok with
      | false =>
        cases h
        exact .readoutMove .exited
      | true =>
        cases h
        exact .complete enqueued e hcurrent
    · cases h
  | compress jpegBuffer auxBuffer success enqueued =>
    simp only [pipelineMachine] at h
    split_ifs at h with hnone
    cases h
    exact .compress jpegBuffer auxBuffer success enqueued hnone

end Rpi3Device.Camera2
