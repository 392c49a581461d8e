import Mathlib.Tactic
import Rpi3Device.TransitionSystem

/-!
# The preview window of the HAL1 camera

A frame goes into a buffer that the window hands out and gets back. The window is told the
size of its buffers only when the size of the frames differs from the size it was told
last, and that size is noted before the window has accepted it. The outcomes of the
operations of the window and of gralloc, the size of the frame and the time of day are
arguments of a frame. An event of a run is the list of the window operations of one call.
-/

namespace Rpi3Device.Camera1
open TransitionSystem

structure PreviewWindow where
  /-- The window, by its number; `none` is NULL. -/
  mPreviewWindow : Option ℕ := none
  mLastPreviewed : UInt64 := 0
  mPreviewAfter : UInt32 := 0
  mPreviewFrameWidth : Int32 := 0
  mPreviewFrameHeight : Int32 := 0
  mPreviewEnabled : Bool := false

inductive WindowOp where
  | setBuffersGeometry (window : ℕ) (width height : Int32) (accepted : Bool)
  | dequeueBuffer (window buffer : ℕ)
  | writeFrame (window buffer : ℕ) (width height : Int32)
  | enqueueBuffer (window buffer : ℕ)
  | cancelBuffer (window buffer : ℕ)
deriving DecidableEq

structure PreviewFrame where
  width : Int32
  height : Int32
  curMks : UInt64
  setsGeometry : Bool
  dequeued : Option ℕ
  locksBuffer : Bool
  grallocLocks : Bool
  hasFrame : Bool

namespace PreviewWindow

def setPreviewWindow (p : PreviewWindow) (window : Option (ℕ × Bool)) (previewFps : Int32) :
    PreviewWindow :=
  let p := { p with
    mPreviewFrameWidth := 0
    mPreviewFrameHeight := 0
    mPreviewAfter := 0
    mLastPreviewed := 0 }
  match window with
  | some (window, true) =>
    { p with mPreviewAfter := (1000000 / previewFps).toUInt32, mPreviewWindow := some window }
  | _ => { p with mPreviewWindow := none }

def startPreview (p : PreviewWindow) : PreviewWindow := { p with mPreviewEnabled := true }

def stopPreview (p : PreviewWindow) : PreviewWindow := { p with mPreviewEnabled := false }

def isPreviewTime (p : PreviewWindow) (curMks : UInt64) : Bool × PreviewWindow :=
  if curMks - p.mLastPreviewed ≥ p.mPreviewAfter.toUInt64 then
    (true, { p with mLastPreviewed := curMks })
  else (false, p)

def adjustPreviewDimensions (p : PreviewWindow) (width height : Int32) : Bool × PreviewWindow :=
  if p.mPreviewFrameWidth = width ∧ p.mPreviewFrameHeight = height then (false, p)
  else (true, { p with mPreviewFrameWidth := width, mPreviewFrameHeight := height })

/-- `onNextFrameAvailable` from the dequeuing of the buffer on. -/
def pushFrame (window : ℕ) (f : PreviewFrame) : List WindowOp :=
  match f.dequeued with
  | none => []
  | some buffer =>
    .dequeueBuffer window buffer ::
      if f.locksBuffer = false then [.cancelBuffer window buffer]
      else if f.grallocLocks = false then [.cancelBuffer window buffer]
      else if f.hasFrame = true then
        [.writeFrame window buffer f.width f.height, .enqueueBuffer window buffer]
      else [.cancelBuffer window buffer]

def onNextFrameAvailable (p : PreviewWindow) (f : PreviewFrame) : PreviewWindow × List WindowOp :=
  if p.mPreviewEnabled = false then (p, [])
  else
    match p.mPreviewWindow with
    | none => (p, [])
    | some window =>
      let time := p.isPreviewTime f.curMks
      if time.1 = false then (time.2, [])
      else
        let adjust := time.2.adjustPreviewDimensions f.width f.height
        if adjust.1 = true then
          let call := WindowOp.setBuffersGeometry window f.width f.height f.setsGeometry
          if f.setsGeometry = true then (adjust.2, call :: pushFrame window f)
          else (adjust.2, [call])
        else (adjust.2, pushFrame window f)

end PreviewWindow

inductive WindowAction where
  | setPreviewWindow (window : Option (ℕ × Bool)) (previewFps : Int32)
  | startPreview
  | stopPreview
  | onNextFrameAvailable (f : PreviewFrame)

/-- The preview window, and whether the last `set_buffers_geometry` since the window was set has
succeeded. -/
structure WindowRun where
  preview : PreviewWindow := {}
  accepted : Bool := false

def geometryResult (ops : List WindowOp) : Option Bool :=
  match ops with
  | .setBuffersGeometry _ _ _ accepted :: _ => some accepted
  | _ => none

def windowMachine : Machine WindowRun WindowAction (List WindowOp) where
  step s
    | .setPreviewWindow window previewFps =>
      some (⟨s.preview.setPreviewWindow window previewFps, false⟩, [[]])
    | .startPreview => some ({ s with preview := s.preview.startPreview }, [[]])
    | .stopPreview => some ({ s with preview := s.preview.stopPreview }, [[]])
    | .onNextFrameAvailable f =>
      let res := s.preview.onNextFrameAvailable f
      some (⟨res.1, (geometryResult res.2).getD s.accepted⟩, [res.2])

def lastGeometry (window : ℕ) (ops : List WindowOp) : Option (Int32 × Int32) :=
  ops.foldl (fun size op => match op with
    | .setBuffersGeometry target width height true =>
      if target = window then some (width, height) else size
    | _ => size) none

def isBufferOp : WindowOp → Bool
  | .dequeueBuffer .. | .enqueueBuffer .. | .cancelBuffer .. => true
  | .setBuffersGeometry .. | .writeFrame .. => false

/-- A call dequeues no buffer, or it dequeues one and then enqueues or cancels it, once. -/
def HandsBack (call : List WindowOp) : Prop :=
  call.filter isBufferOp = [] ∨ ∃ window buffer,
    call.filter isBufferOp = [.dequeueBuffer window buffer, .enqueueBuffer window buffer] ∨
      call.filter isBufferOp = [.dequeueBuffer window buffer, .cancelBuffer window buffer]

/-- A frame is written into a buffer that was dequeued before, from a window whose buffers had
been set to the size of the frame. -/
def WritesFit (earlier : List WindowOp) (call : List WindowOp) : Prop :=
  ∀ window buffer width height, .writeFrame window buffer width height ∈ call →
    ∃ before after, call = before ++ .dequeueBuffer window buffer :: after ∧
      .writeFrame window buffer width height ∈ after ∧
        lastGeometry window (earlier ++ before) = some (width, height)

def Protocol (earlier : List (List WindowOp)) (call : List WindowOp) : Prop :=
  HandsBack call ∧ WritesFit earlier.flatten call

def Shows (f : PreviewFrame) : Prop :=
  f.dequeued ≠ none ∧ f.locksBuffer = true ∧ f.grallocLocks = true ∧ f.hasFrame = true

def Shown (p : PreviewWindow) (f : PreviewFrame) : Prop :=
  p.mPreviewEnabled = true ∧ p.mPreviewWindow ≠ none ∧ (p.isPreviewTime f.curMks).1 = true ∧
    Shows f

/-- A frame that is shown has not the size that was noted last, or that size was accepted by the
window. -/
def SizeAccepted (s : WindowRun) : WindowAction → Prop
  | .onNextFrameAvailable f =>
    Shown s.preview f → s.preview.mPreviewFrameWidth = f.width →
      s.preview.mPreviewFrameHeight = f.height → s.accepted = true
  | _ => True

section Frame
variable {p : PreviewWindow} {f : PreviewFrame} {window : ℕ}

structure Noted (p q : PreviewWindow) (width height : Int32) : Prop where
  window : q.mPreviewWindow = p.mPreviewWindow
  width : q.mPreviewFrameWidth = width
  height : q.mPreviewFrameHeight = height

def Adjusts (p : PreviewWindow) (f : PreviewFrame) (window : ℕ) : Prop :=
  ¬(p.mPreviewFrameWidth = f.width ∧ p.mPreviewFrameHeight = f.height) ∧
    Noted p (p.onNextFrameAvailable f).1 f.width f.height ∧
      (p.onNextFrameAvailable f).2 =
        .setBuffersGeometry window f.width f.height f.setsGeometry ::
          if f.setsGeometry = true then PreviewWindow.pushFrame window f else []

def Repeats (p : PreviewWindow) (f : PreviewFrame) (window : ℕ) : Prop :=
  (p.mPreviewFrameWidth = f.width ∧ p.mPreviewFrameHeight = f.height) ∧
    p.mPreviewEnabled = true ∧ (p.isPreviewTime f.curMks).1 = true ∧
      Noted p (p.onNextFrameAvailable f).1 f.width f.height ∧
        (p.onNextFrameAvailable f).2 = PreviewWindow.pushFrame window f

theorem isPreviewTime_noted (p : PreviewWindow) (curMks : UInt64) :
    Noted p (p.isPreviewTime curMks).2 p.mPreviewFrameWidth p.mPreviewFrameHeight := by
  unfold PreviewWindow.isPreviewTime
  split <;> exact ⟨rfl, rfl, rfl⟩

theorem onNextFrameAvailable_cases (p : PreviewWindow) (f : PreviewFrame) :
    ((p.onNextFrameAvailable f).2 = [] ∧
        Noted p (p.onNextFrameAvailable f).1 p.mPreviewFrameWidth p.mPreviewFrameHeight) ∨
      ∃ window, p.mPreviewWindow = some window ∧ (Adjusts p f window ∨ Repeats p f window) := by
  have htime := isPreviewTime_noted p f.curMks
  unfold Adjusts Repeats PreviewWindow.onNextFrameAvailable
  by_cases henabled : p.mPreviewEnabled = false
  · simp only [if_pos henabled]
    exact Or.inl ⟨trivial, rfl, rfl, rfl⟩
  · simp only [if_neg henabled]
    cases hwindow : p.mPreviewWindow with
    | none => exact Or.inl ⟨rfl, rfl, rfl, rfl⟩
    | some window =>
      simp only
      by_cases hdue : (p.isPreviewTime f.curMks).1 = false
      · simp only [if_pos hdue]
        exact Or.inl ⟨trivial, htime⟩
      · simp only [if_neg hdue]
        refine Or.inr ⟨window, rfl, ?_⟩
        unfold PreviewWindow.adjustPreviewDimensions
        rw [htime.width, htime.height]
        by_cases hsame : p.mPreviewFrameWidth = f.width ∧ p.mPreviewFrameHeight = f.height
        · simp only [if_pos hsame]
          refine Or.inr ⟨hsame, by simpa using henabled, by simpa using hdue, ⟨?_, ?_, ?_⟩, ?_⟩
          · exact htime.window
          · exact htime.width.trans hsame.1
          · exact htime.height.trans hsame.2
          · simp
        · simp only [if_neg hsame]
          refine Or.inl ⟨hsame, ?_, ?_⟩
          · cases f.setsGeometry <;> exact ⟨htime.window, rfl, rfl⟩
          · cases f.setsGeometry <;> rfl

theorem mem_pushFrame {w buffer : ℕ} {width height : Int32}
    (h : .writeFrame w buffer width height ∈ PreviewWindow.pushFrame window f) :
    (w = window ∧ width = f.width ∧ height = f.height) ∧
      Shows f ∧ PreviewWindow.pushFrame window f =
          [.dequeueBuffer window buffer, .writeFrame window buffer f.width f.height,
            .enqueueBuffer window buffer] := by
  unfold PreviewWindow.pushFrame at h ⊢
  cases hdequeued : f.dequeued with
  | none => simp [hdequeued] at h
  | some b =>
    simp only [hdequeued] at h ⊢
    by_cases hlock : f.locksBuffer = false
    · simp [hlock] at h
    · by_cases hgralloc : f.grallocLocks = false
      · simp [hlock, hgralloc] at h
      · by_cases hframe : f.hasFrame = true
        · simp only [if_neg hlock, if_neg hgralloc, if_pos hframe] at h ⊢
          simp only [List.mem_cons, WindowOp.writeFrame.injEq, reduceCtorEq, List.not_mem_nil,
            or_false, false_or] at h
          obtain ⟨rfl, rfl, rfl, rfl⟩ := h
          exact ⟨⟨rfl, rfl, rfl⟩, ⟨by simp [hdequeued], by simpa using hlock,
            by simpa using hgralloc, hframe⟩, rfl⟩
        · simp [hlock, hgralloc, hframe] at h

theorem handsBack_pushFrame (window : ℕ) (f : PreviewFrame) :
    HandsBack (PreviewWindow.pushFrame window f) := by
  unfold PreviewWindow.pushFrame
  cases f.dequeued with
  | none => exact Or.inl rfl
  | some buffer =>
    refine Or.inr ⟨window, buffer, ?_⟩
    simp only
    split
    · exact Or.inr rfl
    · split
      · exact Or.inr rfl
      · split
        · exact Or.inl rfl
        · exact Or.inr rfl

theorem HandsBack.cons_geometry {call : List WindowOp} (h : HandsBack call) (w : ℕ)
    (width height : Int32) (accepted : Bool) :
    HandsBack (.setBuffersGeometry w width height accepted :: call) := h

theorem lastGeometry_append (ops : List WindowOp) {call : List WindowOp}
    (h : ∀ op ∈ call, ∀ w width height accepted,
      op ≠ .setBuffersGeometry w width height accepted) :
    lastGeometry window (ops ++ call) = lastGeometry window ops := by
  unfold lastGeometry
  rw [List.foldl_append]
  generalize ops.foldl _ none = size
  induction call with
  | nil => rfl
  | cons op call ih =>
    rw [List.foldl_cons]
    have hop := h op (List.mem_cons_self ..)
    have hrest : ∀ op ∈ call, ∀ w width height accepted,
        op ≠ .setBuffersGeometry w width height accepted :=
      fun op hmem => h op (List.mem_cons_of_mem _ hmem)
    cases op with
    | setBuffersGeometry w width height accepted => exact absurd rfl (hop w width height accepted)
    | dequeueBuffer | writeFrame | enqueueBuffer | cancelBuffer => exact ih hrest

theorem pushFrame_no_geometry (window : ℕ) (f : PreviewFrame) :
    ∀ op ∈ PreviewWindow.pushFrame window f, ∀ w width height accepted,
      op ≠ .setBuffersGeometry w width height accepted := by
  intro op hop w width height accepted heq
  subst heq
  unfold PreviewWindow.pushFrame at hop
  cases hdequeued : f.dequeued with
  | none => simp [hdequeued] at hop
  | some buffer =>
    simp only [hdequeued] at hop
    split_ifs at hop <;> simp at hop

theorem lastGeometry_accepted (ops : List WindowOp) (width height : Int32) :
    lastGeometry window (ops ++ [.setBuffersGeometry window width height true]) =
      some (width, height) := by
  simp [lastGeometry]

end Frame

def SizeNoted (tr : List (List WindowOp)) (s : WindowRun) : Prop :=
  s.accepted = true → ∃ window, s.preview.mPreviewWindow = some window ∧
    lastGeometry window tr.flatten =
      some (s.preview.mPreviewFrameWidth, s.preview.mPreviewFrameHeight)

section Runs
variable {tr : List (List WindowOp)} {s : WindowRun}

theorem geometryResult_pushFrame (window : ℕ) (f : PreviewFrame) :
    geometryResult (PreviewWindow.pushFrame window f) = none := by
  unfold PreviewWindow.pushFrame
  cases f.dequeued <;> rfl

theorem HandsBack.none : HandsBack [] := Or.inl rfl

theorem protocol_nil (earlier : List (List WindowOp)) : Protocol earlier [] := by
  refine ⟨HandsBack.none, ?_⟩
  intro window buffer width height hmem
  simp at hmem

theorem writesFit_pushFrame {f : PreviewFrame} {window : ℕ} {earlier : List WindowOp}
    (ops : List WindowOp)
    (hops : ∀ op ∈ ops, ∀ w buffer width height, op ≠ .writeFrame w buffer width height)
    (hsize : Shows f → lastGeometry window (earlier ++ ops) = some (f.width, f.height)) :
    WritesFit earlier (ops ++ PreviewWindow.pushFrame window f) := by
  intro w buffer width height hmem
  rcases List.mem_append.mp hmem with hops' | hpush
  · exact absurd rfl (hops _ hops' w buffer width height)
  · obtain ⟨⟨rfl, rfl, rfl⟩, hshows, heq⟩ := mem_pushFrame hpush
    refine ⟨ops, [.writeFrame w buffer f.width f.height, .enqueueBuffer w buffer], ?_, ?_, ?_⟩
    · rw [heq]
    · exact List.mem_cons_self
    · exact hsize hshows

theorem adjusts_step {f : PreviewFrame} {window : ℕ} (hcase : Adjusts s.preview f window)
    (hwindow : s.preview.mPreviewWindow = some window) :
    let res := s.preview.onNextFrameAvailable f
    SizeNoted (tr ++ [res.2]) ⟨res.1, (geometryResult res.2).getD s.accepted⟩ ∧
      Protocol tr res.2 := by
  obtain ⟨-, hnoted, hops⟩ := hcase
  have hlast : f.setsGeometry = true →
      lastGeometry window (tr.flatten ++
        [.setBuffersGeometry window f.width f.height f.setsGeometry]) =
          some (f.width, f.height) := by
    intro haccepted
    rw [haccepted]
    exact lastGeometry_accepted tr.flatten f.width f.height
  simp only
  rw [hops]
  constructor
  · intro haccepted
    have hset : f.setsGeometry = true := by simpa [geometryResult] using haccepted
    refine ⟨window, hnoted.window.trans hwindow, ?_⟩
    simp only
    rw [hnoted.width, hnoted.height, if_pos hset, List.flatten_append, List.flatten_singleton,
      List.append_cons, lastGeometry_append _ (pushFrame_no_geometry window f)]
    exact hlast hset
  · cases hset : f.setsGeometry with
    | false =>
      refine ⟨HandsBack.none.cons_geometry .., ?_⟩
      intro w buffer width height hmem
      simp at hmem
    | true =>
      refine ⟨(handsBack_pushFrame window f).cons_geometry .., ?_⟩
      rw [hset] at hlast
      refine writesFit_pushFrame [_] ?_ fun _ => hlast rfl
      simp

theorem repeats_step {f : PreviewFrame} {window : ℕ} (hcase : Repeats s.preview f window)
    (hwindow : s.preview.mPreviewWindow = some window) (hinv : SizeNoted tr s)
    (hok : SizeAccepted s (.onNextFrameAvailable f)) :
    let res := s.preview.onNextFrameAvailable f
    SizeNoted (tr ++ [res.2]) ⟨res.1, (geometryResult res.2).getD s.accepted⟩ ∧
      Protocol tr res.2 := by
  obtain ⟨⟨hwidth, hheight⟩, henabled, hdue, hnoted, hops⟩ := hcase
  have hlast : s.accepted = true → lastGeometry window tr.flatten = some (f.width, f.height) := by
    intro haccepted
    obtain ⟨w, hw, hsize⟩ := hinv haccepted
    rw [hwindow, Option.some.injEq] at hw
    rw [← hwidth, ← hheight, hw]
    exact hsize
  simp only
  rw [hops, geometryResult_pushFrame]
  constructor
  · intro haccepted
    refine ⟨window, hnoted.window.trans hwindow, ?_⟩
    simp only
    rw [hnoted.width, hnoted.height, List.flatten_append, List.flatten_singleton,
      lastGeometry_append _ (pushFrame_no_geometry window f)]
    exact hlast haccepted
  · refine ⟨handsBack_pushFrame window f, ?_⟩
    refine writesFit_pushFrame [] (by simp) ?_
    intro hshows
    rw [List.append_nil]
    refine hlast (hok ⟨henabled, ?_, hdue, hshows⟩ hwidth hheight)
    simp [hwindow]

theorem frame_step {f : PreviewFrame} (hinv : SizeNoted tr s)
    (hok : SizeAccepted s (.onNextFrameAvailable f)) :
    let res := s.preview.onNextFrameAvailable f
    SizeNoted (tr ++ [res.2]) ⟨res.1, (geometryResult res.2).getD s.accepted⟩ ∧
      Protocol tr res.2 := by
  rcases onNextFrameAvailable_cases s.preview f with ⟨hnone, hnoted⟩ | ⟨window, hwindow, hcase⟩
  · simp only
    rw [hnone]
    refine ⟨?_, protocol_nil tr⟩
    intro haccepted
    obtain ⟨w, hw, hsize⟩ := hinv haccepted
    refine ⟨w, hnoted.window.trans hw, ?_⟩
    simp only
    rw [hnoted.width, hnoted.height, List.flatten_append, List.flatten_singleton, List.append_nil]
    exact hsize
  · rcases hcase with hadjusts | hrepeats
    · exact adjusts_step hadjusts hwindow
    · exact repeats_step hrepeats hwindow hinv hok

theorem window_step {i : WindowAction} {s' : WindowRun} {es : List (List WindowOp)}
    (hinv : SizeNoted tr s) (hok : SizeAccepted s i)
    (h : windowMachine.step s i = some (s', es)) :
    SizeNoted (tr ++ es) s' ∧ ∃ ops, es = [ops] ∧ Protocol tr ops := by
  cases i with
  | setPreviewWindow window previewFps =>
    obtain ⟨rfl, rfl⟩ := Prod.mk.inj (Option.some.inj h)
    refine ⟨?_, [], rfl, protocol_nil tr⟩
    intro haccepted
    simp at haccepted
  | startPreview =>
    obtain ⟨rfl, rfl⟩ := Prod.mk.inj (Option.some.inj h)
    exact ⟨by simpa [SizeNoted, PreviewWindow.startPreview] using hinv, [], rfl, protocol_nil tr⟩
  | stopPreview =>
    obtain ⟨rfl, rfl⟩ := Prod.mk.inj (Option.some.inj h)
    exact ⟨by simpa [SizeNoted, PreviewWindow.stopPreview] using hinv, [], rfl, protocol_nil tr⟩
  | onNextFrameAvailable f =>
    obtain ⟨rfl, rfl⟩ := Prod.mk.inj (Option.some.inj h)
    obtain ⟨hnoted, hprotocol⟩ := frame_step hinv hok
    exact ⟨hnoted, _, rfl, hprotocol⟩

/-- In every run in which no frame is shown at a size that the window has not accepted, frames are
written into buffers of their own size, and every buffer is handed back. -/
theorem preview_protocol :
    windowMachine.Run SizeAccepted {} tr s → Justified Protocol tr := by
  intro run
  have hboth : SizeNoted tr s ∧ Justified Protocol tr := by
    refine run.invariant (P := fun tr s => SizeNoted tr s ∧ Justified Protocol tr) ?_ ?_
    · exact ⟨fun haccepted => by simp at haccepted, justified_nil _⟩
    · intro tr es s s' i hinv hok h
      obtain ⟨hnoted, hjustified⟩ := hinv
      obtain ⟨hnext, ops, rfl, hprotocol⟩ := window_step hnoted hok h
      exact ⟨hnext, justified_snoc.mpr ⟨hjustified, hprotocol⟩⟩
  exact hboth.2

def vgaFrame (curMks : UInt64) (setsGeometry : Bool) : PreviewFrame where
  width := 640
  height := 480
  curMks := curMks
  setsGeometry := setsGeometry
  dequeued := some 7
  locksBuffer := true
  grallocLocks := true
  hasFrame := true

def vgaPreview (setsGeometry : Bool) : List WindowAction :=
  [.setPreviewWindow (some (0, true)) 24, .startPreview,
    .onNextFrameAvailable (vgaFrame 1000000 setsGeometry),
    .onNextFrameAvailable (vgaFrame 2000000 setsGeometry)]

instance (f : PreviewFrame) : Decidable (Shows f) :=
  inferInstanceAs (Decidable (_ ∧ _))

instance (p : PreviewWindow) (f : PreviewFrame) : Decidable (Shown p f) :=
  inferInstanceAs (Decidable (_ ∧ _))

instance (s : WindowRun) (i : WindowAction) : Decidable (SizeAccepted s i) :=
  match i with
  | .onNextFrameAvailable f =>
    inferInstanceAs (Decidable (Shown s.preview f → s.preview.mPreviewFrameWidth = f.width →
      s.preview.mPreviewFrameHeight = f.height → s.accepted = true))
  | .setPreviewWindow .. | .startPreview | .stopPreview => isTrue trivial

theorem preview_protocol_vga :
    ∃ tr s, windowMachine.Run SizeAccepted {} tr s ∧
      tr.getLast? = some (PreviewWindow.pushFrame 0 (vgaFrame 2000000 true)) ∧
        Justified Protocol tr := by
  obtain ⟨tr, s, run, hlast⟩ := Machine.run_of_exec windowMachine SizeAccepted {}
    (vgaPreview true)
    (fun _ tr => tr.getLast? = some (PreviewWindow.pushFrame 0 (vgaFrame 2000000 true)))
    (by decide)
  exact ⟨tr, s, run, hlast, preview_protocol run⟩

/-- The window refuses the geometry with the first frame; the second one is written all the same. -/
theorem frame_written_after_refusal :
    ¬∀ tr s, windowMachine.Run (fun _ _ => True) {} tr s → Justified Protocol tr := by
  intro hall
  obtain ⟨tr, s, run, htr⟩ := Machine.run_of_exec windowMachine (fun _ _ => True) {}
    (vgaPreview false)
    (fun _ tr => tr = [[], [], [.setBuffersGeometry 0 640 480 false],
      [.dequeueBuffer 0 7, .writeFrame 0 7 640 480, .enqueueBuffer 0 7]])
    (by decide)
  subst htr
  have hcall := hall _ s run [[], [], [.setBuffersGeometry 0 640 480 false]] _ [] rfl
  obtain ⟨before, after, heq, -, hsize⟩ := hcall.2 0 7 640 480 (by decide)
  have hbefore : ∀ op ∈ before, ∀ w width height accepted,
      op ≠ .setBuffersGeometry w width height accepted := by
    intro op hop w width height accepted hset
    have hmem := List.mem_append_left (.dequeueBuffer 0 7 :: after) hop
    rw [← heq, hset] at hmem
    simp at hmem
  rw [lastGeometry_append _ hbefore] at hsize
  exact absurd hsize (by decide)

end Runs
end Rpi3Device.Camera1
