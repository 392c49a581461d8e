import Mathlib.Tactic
import Rpi3Device.TransitionSystem
import Rpi3Device.Camera1.FakeDevice
import Rpi3Device.Camera1.Parameters

/-!
# Preview, picture and recording calls after the parameters have been set

The calls of the application take frame size, pixel format and frame rates from the
parameters as they are. The worker thread paces itself with the frame rate that the device
was started with, and is joined before the device is stopped. Each step reports the
divisors of the divisions it makes.

The getters of the parameters, the allocation of the framebuffer, the start of the thread
and the usage bits of the preview window belong to the framework; their outcomes are
arguments.
-/

namespace Rpi3Device.Camera1
open TransitionSystem

/-- The getters that read more than one number. -/
structure PreviewParameters extends CameraParameters where
  getVideoSize : ParameterMap → Int32 × Int32
  getPictureSize : ParameterMap → Int32 × Int32
  getPreviewFpsRange : ParameterMap → Int32 × Int32

def keyVideoSize : String := "video-size"
def keyVideoFrameFormat : String := "video-frame-format"
def keyPreviewFormat : String := "preview-format"
def keyPictureFormat : String := "picture-format"
def keyPreviewFrameRate : String := "preview-frame-rate"
def recordingHintKey : String := "recording-hint"

def pixelFormatYuv420p : String := "yuv420p"
def pixelFormatYuv420sp : String := "yuv420sp"
def pixelFormatRgba8888 : String := "rgba8888"
def pixelFormatJpeg : String := "jpeg"

def rgb32Format : V4l2Format := .other 0x34424752

/-- `worker` is the running thread, if there is one, and whether it stops after one round. -/
structure Controller where
  mParameters : ParameterMap
  device : FakeDevice
  mPreviewEnabled : Bool
  worker : Option Bool

/-- What the environment answers when a device is started: the address of the framebuffer, or
0, and whether the thread starts. -/
structure StartOutcome where
  frame : ℕ
  threadStarts : Bool

section Settings
variable (lib : PreviewParameters) (params : ParameterMap)

def previewFrameRate : Int32 := lib.getInt params keyPreviewFrameRate

def maxFpsRate : Int32 := (lib.getPreviewFpsRange params).2

def previewFrameSize : Int32 × Int32 :=
  if params keyVideoSize ≠ none then lib.getVideoSize params else lib.getPreviewSize params

def previewPixelFormat : Option String :=
  let video :=
    if (params recordingHintKey).getD "false" = "true" then params keyVideoFrameFormat else none
  video.orElse fun _ => params keyPreviewFormat

def previewV4l2Format (pixFmt : String) : Option V4l2Format :=
  if pixFmt = pixelFormatYuv420p then some .yuv420
  else if pixFmt = pixelFormatRgba8888 then some rgb32Format
  else if pixFmt = pixelFormatYuv420sp then some .nv21
  else none

def pictureV4l2Format (pixFmt : String) : Option V4l2Format :=
  if pixFmt = pixelFormatYuv420p then some .yuv420
  else if pixFmt = pixelFormatRgba8888 then some rgb32Format
  else if pixFmt = pixelFormatYuv420sp then some .nv21
  else if pixFmt = pixelFormatJpeg then some .nv21
  else none

end Settings

namespace Controller
variable (lib : PreviewParameters) (c : Controller)

/-- `stopDeliveringFrames` joins the thread; then the device is stopped. -/
def stopRunning : Controller :=
  if c.device.isStarted = true then { c with worker := none, device := c.device.stopDevice }
  else c

def doStopPreview : Controller :=
  if c.mPreviewEnabled = true then { c.stopRunning with mPreviewEnabled := false } else c

def connect : Controller × DeviceStatus :=
  if c.device.isConnected = true then (c, .noError)
  else ({ c with device := c.device.connectDevice.1 }, c.device.connectDevice.2)

def startPreviewDevice (o : StartOutcome) : Controller × DeviceStatus :=
  match (previewPixelFormat c.mParameters).bind previewV4l2Format with
  | none => ({ c with mPreviewEnabled := false }, .einval)
  | some orgFmt =>
    let size := previewFrameSize lib c.mParameters
    let res := c.device.startDevice size.1 size.2 orgFmt (maxFpsRate lib c.mParameters) o.frame
    if res.2 ≠ .noError then ({ c with device := res.1, mPreviewEnabled := false }, res.2)
    else if o.threadStarts = true then ({ c with device := res.1, worker := some false }, .noError)
    else ({ c with device := res.1.stopDevice, mPreviewEnabled := false }, .einval)

def doStartPreview (o : StartOutcome) : Controller × DeviceStatus :=
  let conn := { c.stopRunning with mPreviewEnabled := true }.connect
  if conn.2 ≠ .noError then ({ conn.1 with mPreviewEnabled := false }, conn.2)
  else conn.1.startPreviewDevice lib o

def startPictureDevice (orgFmt : V4l2Format) (previewOn : Bool) (o retry : StartOutcome) :
    Controller × DeviceStatus :=
  let again := fun c : Controller =>
    if previewOn = true then (c.doStartPreview lib retry).1 else c
  let size := lib.getPictureSize c.mParameters
  let res := c.device.startDevice size.1 size.2 orgFmt (maxFpsRate lib c.mParameters) o.frame
  if res.2 ≠ .noError then (again { c with device := res.1 }, res.2)
  else if o.threadStarts = true then ({ c with device := res.1, worker := some true }, .noError)
  else (again { c with device := res.1 }, .einval)

/-- Undefined when there is no picture format to compare. `retry` is the outcome of starting the
preview again. -/
def takePicture (o retry : StartOutcome) : Option (Controller × DeviceStatus) := do
  let pixFmt ← c.mParameters keyPictureFormat
  match pictureV4l2Format pixFmt with
  | none => return (c, .einval)
  | some orgFmt =>
    return c.doStopPreview.stopRunning.startPictureDevice lib orgFmt c.mPreviewEnabled o retry

end Controller

inductive ControllerAction where
  | startPreview (o : StartOutcome)
  | stopPreview
  | takePicture (o retry : StartOutcome)
  | startRecording
  | stopRecording
  /-- The window, if it is not NULL, and whether it accepts its usage bits. -/
  | setPreviewWindow (window : Option Bool)
  /-- One round of the worker thread: whether it is told to exit, and whether a frame is due. -/
  | inWorkerThread (exit redraw : Bool)

def roundDivisors (d : FakeDevice) (exit redraw : Bool) : List Int32 :=
  let pace := d.mTargetFps / 1000
  pace :: if exit = false ∧ redraw = true then d.drawDivisors ++ [pace] else []

def controllerMachine (lib : PreviewParameters) : Machine Controller ControllerAction Int32 where
  step c
    | .startPreview o => some ((c.doStartPreview lib o).1, [])
    | .stopPreview => some (c.doStopPreview, [])
    | .takePicture o retry => (c.takePicture lib o retry).map fun res => (res.1, [])
    | .startRecording => some (c, [previewFrameRate lib c.mParameters])
    | .stopRecording => some (c, [])
    | .setPreviewWindow window =>
      some (c, if window = some true then [previewFrameRate lib c.mParameters] else [])
    | .inWorkerThread exit redraw =>
      match c.worker with
      | none => none
      | some oneBurst =>
        let worker := if exit = true ∨ oneBurst = true then none else some oneBurst
        some ({ c with worker := worker }, roundDivisors c.device exit redraw)

def Startable (pixFmt : Option V4l2Format) (size : Int32 × Int32) : Prop :=
  ∃ f ∈ framebufferFormats, pixFmt = some f ∧ 0 ≤ frameBufferSize size.1 size.2

def CanStart (lib : PreviewParameters) (params : ParameterMap) : Prop :=
  Startable ((previewPixelFormat params).bind previewV4l2Format) (previewFrameSize lib params) ∨
    Startable ((params keyPictureFormat).bind pictureV4l2Format) (lib.getPictureSize params)

structure Idle (params : ParameterMap) (c : Controller) : Prop where
  parameters : c.mParameters = params
  stopped : c.device.isStarted = false
  worker : c.worker = none

/-- A started device has a target that can be divided by, and the thread runs only with a
started device. -/
structure Paced (params : ParameterMap) (c : Controller) : Prop where
  parameters : c.mParameters = params
  target : c.device.isStarted = true → c.device.mTargetFps / 1000 ≠ 0
  worker : c.worker ≠ none → c.device.isStarted = true

/-- No divisor is zero: the frame rate is not, and neither is the target of the worker thread in
thousandths, unless the device cannot be started. -/
def RatesOk (lib : PreviewParameters) (params : ParameterMap) : Prop :=
  previewFrameRate lib params ≠ 0 ∧
    (maxFpsRate lib params / 1000 ≠ 0 ∨ ¬CanStart lib params)

section Pace
variable {lib : PreviewParameters} {params : ParameterMap} {c : Controller}

theorem RatesOk.pace (h : RatesOk lib params) (hcan : CanStart lib params) :
    maxFpsRate lib params / 1000 ≠ 0 := h.2.resolve_right (not_not.mpr hcan)

theorem Idle.paced (h : Idle params c) : Paced params c where
  parameters := h.parameters
  target := fun hstarted => by simp [h.stopped] at hstarted
  worker := fun hworker => absurd h.worker hworker

theorem Idle.preview (h : Idle params c) (b : Bool) :
    Idle params { c with mPreviewEnabled := b } := ⟨h.parameters, h.stopped, h.worker⟩

theorem Idle.device {d : FakeDevice} (h : Idle params c) (hd : d.isStarted = false) :
    Idle params { c with device := d } := ⟨h.parameters, hd, h.worker⟩

theorem Paced.stopRunning (h : Paced params c) : Idle params c.stopRunning := by
  unfold Controller.stopRunning
  split
  · exact ⟨h.parameters, FakeDevice.stopDevice_isStarted _, rfl⟩
  · next hstopped =>
    have hworker : c.worker = none := by
      by_contra hworker
      exact hstopped (h.worker hworker)
    exact ⟨h.parameters, by simpa using hstopped, hworker⟩

theorem Paced.doStopPreview (h : Paced params c) : Paced params c.doStopPreview := by
  unfold Controller.doStopPreview
  split
  · exact (h.stopRunning.preview false).paced
  · exact h

theorem Idle.started {size : Int32 × Int32} {pixFmt : V4l2Format} {frame : ℕ}
    (h : Idle params c)
    (hpace : Startable (some pixFmt) size → maxFpsRate lib params / 1000 ≠ 0)
    (hok : (c.device.startDevice size.1 size.2 pixFmt (maxFpsRate lib params) frame).2 = .noError)
    (worker : Option Bool) :
    Paced params { c with
      device := (c.device.startDevice size.1 size.2 pixFmt (maxFpsRate lib params) frame).1
      worker := worker } := by
  obtain ⟨hformat, hsize, -, d', hplanes, hdevice⟩ := FakeDevice.startDevice_noError hok
  obtain ⟨U, V, step, hd'⟩ := FakeDevice.setPlanes_eq hplanes
  rw [hdevice, hd']
  exact ⟨h.parameters, fun _ => hpace ⟨pixFmt, hformat, rfl, hsize⟩, fun _ => rfl⟩

theorem connectDevice_isStarted {d : FakeDevice} (h : d.isStarted = false) :
    d.connectDevice.1.isStarted = false := by
  unfold FakeDevice.connectDevice
  split
  · exact h
  · split
    · exact h
    · rfl

theorem Idle.connect (h : Idle params c) : Idle params c.connect.1 := by
  unfold Controller.connect
  split
  · exact h
  · exact h.device (connectDevice_isStarted h.stopped)

theorem Idle.startPreviewDevice (h : Idle params c) (hrates : RatesOk lib params)
    (o : StartOutcome) :
    Paced params (c.startPreviewDevice lib o).1 := by
  have hparams := h.parameters
  subst hparams
  unfold Controller.startPreviewDevice
  split
  · exact (h.preview false).paced
  · next orgFmt hformat =>
    have hpace : Startable (some orgFmt) (previewFrameSize lib c.mParameters) →
        maxFpsRate lib c.mParameters / 1000 ≠ 0 :=
      fun hstart => hrates.pace (Or.inl (hformat ▸ hstart))
    simp only
    split
    · next hfailed =>
      exact ((h.device (FakeDevice.startDevice_failed h.stopped hfailed)).preview false).paced
    · next hok =>
      split
      · exact h.started hpace (not_not.mp hok) (some false)
      · exact ((h.device (FakeDevice.stopDevice_isStarted _)).preview false).paced

theorem Paced.doStartPreview (h : Paced params c) (hrates : RatesOk lib params)
    (o : StartOutcome) :
    Paced params (c.doStartPreview lib o).1 := by
  have hidle := (h.stopRunning.preview true).connect
  unfold Controller.doStartPreview
  simp only
  split
  · exact (hidle.preview false).paced
  · exact hidle.startPreviewDevice hrates o

theorem Idle.startPictureDevice (h : Idle params c) (hrates : RatesOk lib params)
    {orgFmt : V4l2Format}
    (hformat : (params keyPictureFormat).bind pictureV4l2Format = some orgFmt) (previewOn : Bool)
    (o retry : StartOutcome) :
    Paced params (c.startPictureDevice lib orgFmt previewOn o retry).1 := by
  have hparams := h.parameters
  subst hparams
  have hagain {e : Controller} (he : Paced c.mParameters e) :
      Paced c.mParameters (if previewOn = true then (e.doStartPreview lib retry).1 else e) := by
    split
    · exact he.doStartPreview hrates retry
    · exact he
  have hpace : Startable (some orgFmt) (lib.getPictureSize c.mParameters) →
      maxFpsRate lib c.mParameters / 1000 ≠ 0 :=
    fun hstart => hrates.pace (Or.inr (hformat ▸ hstart))
  unfold Controller.startPictureDevice
  simp only
  split
  · next hfailed =>
    exact hagain (h.device (FakeDevice.startDevice_failed h.stopped hfailed)).paced
  · next hok =>
    have hstarted := h.started hpace (not_not.mp hok)
    split
    · exact hstarted (some true)
    · exact hagain (hstarted c.worker)

theorem Paced.takePicture (h : Paced params c) (hrates : RatesOk lib params)
    {o retry : StartOutcome} {res : Controller × DeviceStatus}
    (hres : c.takePicture lib o retry = some res) :
    Paced params res.1 := by
  have hparams := h.parameters
  subst hparams
  unfold Controller.takePicture at hres
  cases htext : c.mParameters keyPictureFormat with
  | none => simp [htext] at hres
  | some pixFmt =>
    rw [htext, Option.bind_eq_bind, Option.bind_some] at hres
    split at hres
    · cases hres
      exact h
    · next orgFmt hformat =>
      cases hres
      exact h.doStopPreview.stopRunning.startPictureDevice hrates (by rw [htext]; exact hformat)
        _ _ _

theorem drawDivisors_ne_zero (d : FakeDevice) : ∀ n ∈ d.drawDivisors, n ≠ 0 := by
  intro n hn
  simp only [FakeDevice.drawDivisors] at hn
  split at hn
  · cases hn
  · next hsize =>
    have heq : n = d.mFrameWidth / 10 := by simpa using hn
    rwa [heq]

theorem roundDivisors_ne_zero (hpaced : Paced params c) (hworker : c.worker ≠ none)
    (exit redraw : Bool) : ∀ n ∈ roundDivisors c.device exit redraw, n ≠ 0 := by
  have hpace := hpaced.target (hpaced.worker hworker)
  intro n hn
  rcases List.mem_cons.mp hn with rfl | hn
  · exact hpace
  · split at hn
    · rcases List.mem_append.mp hn with hdraw | hlast
      · exact drawDivisors_ne_zero _ n hdraw
      · rwa [List.mem_singleton.mp hlast]
    · cases hn

theorem controller_step {c' : Controller} {a : ControllerAction} {ns : List Int32}
    (h : RatesOk lib params) (hpaced : Paced params c)
    (hstep : (controllerMachine lib).step c a = some (c', ns)) :
    Paced params c' ∧ ∀ n ∈ ns, n ≠ 0 := by
  cases a with
  | startPreview o =>
    cases hstep
    exact ⟨hpaced.doStartPreview h o, by simp⟩
  | stopPreview =>
    cases hstep
    exact ⟨hpaced.doStopPreview, by simp⟩
  | takePicture o retry =>
    obtain ⟨res, hres, heq⟩ := Option.map_eq_some_iff.mp hstep
    cases heq
    exact ⟨hpaced.takePicture h hres, by simp⟩
  | startRecording =>
    cases hstep
    exact ⟨hpaced, by simpa [hpaced.parameters] using h.1⟩
  | stopRecording =>
    cases hstep
    exact ⟨hpaced, by simp⟩
  | setPreviewWindow window =>
    cases hstep
    refine ⟨hpaced, ?_⟩
    split
    · simpa [hpaced.parameters] using h.1
    · simp
  | inWorkerThread exit redraw =>
    cases hworker : c.worker with
    | none => simp [controllerMachine, hworker] at hstep
    | some oneBurst =>
      have hrunning : c.worker ≠ none := by simp [hworker]
      simp only [controllerMachine, hworker, Option.some.injEq, Prod.mk.injEq] at hstep
      obtain ⟨rfl, rfl⟩ := hstep
      exact ⟨⟨hpaced.parameters, hpaced.target, fun _ => hpaced.worker hrunning⟩,
        roundDivisors_ne_zero hpaced hrunning exit redraw⟩

theorem stopRunning_connected (h : c.device.isConnected = true) :
    c.stopRunning.device.mState = .connected ∧ c.stopRunning.mParameters = c.mParameters := by
  unfold Controller.stopRunning
  split
  · next hstarted =>
    refine ⟨?_, rfl⟩
    simp only [FakeDevice.stopDevice, if_pos hstarted]
  · next hstopped =>
    refine ⟨?_, rfl⟩
    have hstate : c.device.mState = .connected ∨ c.device.mState = .started := by
      simpa [FakeDevice.isConnected] using h
    exact hstate.resolve_right (by simpa [FakeDevice.isStarted] using hstopped)

theorem stopRunning_of_connected (h : c.device.mState = .connected) : c.stopRunning = c := by
  have hstopped : c.device.isStarted ≠ true := by simp [FakeDevice.isStarted, h]
  rw [Controller.stopRunning, if_neg hstopped]

theorem startDevice_target {size : Int32 × Int32} {pixFmt : V4l2Format}
    (h : c.device.mState = .connected) (hstart : Startable (some pixFmt) size) (fps : Int32) :
    let res := c.device.startDevice size.1 size.2 pixFmt fps 1
    res.2 = .noError ∧ res.1.mTargetFps = fps := by
  obtain ⟨f, hformat, hsome, hsize⟩ := hstart
  cases hsome
  have hok : (c.device.startDevice size.1 size.2 pixFmt fps 1).2 = .noError :=
    FakeDevice.startDevice_ok h hformat hsize one_ne_zero
  obtain ⟨-, -, -, d', hplanes, hdevice⟩ := FakeDevice.startDevice_noError hok
  obtain ⟨U, V, step, hd'⟩ := FakeDevice.setPlanes_eq hplanes
  exact ⟨hok, by rw [hdevice, hd']; rfl⟩

theorem preview_starts (h : c.device.isConnected = true)
    (hstart : Startable ((previewPixelFormat c.mParameters).bind previewV4l2Format)
      (previewFrameSize lib c.mParameters)) :
    let c' := (c.doStartPreview lib ⟨1, true⟩).1
    c'.worker = some false ∧ c'.device.mTargetFps = maxFpsRate lib c.mParameters := by
  obtain ⟨hstate, hparams⟩ := stopRunning_connected h
  obtain ⟨orgFmt, hformat, hsome, hsize⟩ := hstart
  obtain ⟨hok, htarget⟩ := startDevice_target hstate ⟨orgFmt, hformat, rfl, hsize⟩
    (maxFpsRate lib c.mParameters)
  simp [Controller.doStartPreview, Controller.connect, FakeDevice.isConnected, hstate, hparams,
    Controller.startPreviewDevice, hsome, hok, htarget]

theorem doStopPreview_connected (h : c.device.isConnected = true) :
    c.doStopPreview.stopRunning.device.mState = .connected ∧
      c.doStopPreview.stopRunning.mParameters = c.mParameters := by
  unfold Controller.doStopPreview
  split
  · obtain ⟨hstate, hparams⟩ := stopRunning_connected h
    have hagain : { c.stopRunning with mPreviewEnabled := false }.stopRunning =
        { c.stopRunning with mPreviewEnabled := false } := stopRunning_of_connected hstate
    rw [hagain]
    exact ⟨hstate, hparams⟩
  · exact stopRunning_connected h

theorem picture_starts (h : c.device.isConnected = true) (retry : StartOutcome)
    (hstart : Startable ((c.mParameters keyPictureFormat).bind pictureV4l2Format)
      (lib.getPictureSize c.mParameters)) :
    ∃ res, c.takePicture lib ⟨1, true⟩ retry = some res ∧ res.1.worker = some true ∧
      res.1.device.mTargetFps = maxFpsRate lib c.mParameters := by
  obtain ⟨hstate, hparams⟩ := doStopPreview_connected h
  obtain ⟨orgFmt, hformat, hsome, hsize⟩ := hstart
  obtain ⟨text, htext, horg⟩ := Option.bind_eq_some_iff.mp hsome
  obtain ⟨hok, htarget⟩ := startDevice_target hstate ⟨orgFmt, hformat, rfl, hsize⟩
    (maxFpsRate lib c.mParameters)
  have htake : c.takePicture lib ⟨1, true⟩ retry =
      some (c.doStopPreview.stopRunning.startPictureDevice lib orgFmt c.mPreviewEnabled
        ⟨1, true⟩ retry) := by
    simp [Controller.takePicture, htext, horg]
  refine ⟨_, htake, ?_⟩
  simp [Controller.startPictureDevice, hparams, hok, htarget]

theorem bad_round (lib : PreviewParameters) (hworker : c.worker ≠ none)
    (htarget : c.device.mTargetFps = maxFpsRate lib params)
    (hpace : maxFpsRate lib params / 1000 = 0) :
    ∃ c' ns, (controllerMachine lib).step c (.inWorkerThread false false) = some (c', ns) ∧
      0 ∈ ns := by
  obtain ⟨oneBurst, hsome⟩ := Option.ne_none_iff_exists'.mp hworker
  have hstep : (controllerMachine lib).step c (.inWorkerThread false false) =
      some ({ c with worker := if oneBurst = true then none else some oneBurst },
        roundDivisors c.device false false) := by
    simp [controllerMachine, hsome]
  exact ⟨_, _, hstep, by simp [roundDivisors, htarget, hpace]⟩

/-- No division of a run of the camera is by zero. -/
def NeverDividesByZero (lib : PreviewParameters) (c : Controller) : Prop :=
  ∀ ns c', (controllerMachine lib).Run (fun _ _ => True) c ns c' → ∀ n ∈ ns, n ≠ 0

theorem neverDividesByZero_of_ratesOk (hrates : RatesOk lib params) (hpaced : Paced params c) :
    NeverDividesByZero lib c := by
  intro ns c' run
  have hinv : Paced params c' ∧ ∀ n ∈ ns, n ≠ 0 := by
    induction run with
    | nil => exact ⟨hpaced, by simp⟩
    | snoc _ _ hstep ih =>
      obtain ⟨hpaced, hns⟩ := ih
      obtain ⟨hpaced', hes⟩ := controller_step hrates hpaced hstep
      refine ⟨hpaced', fun n hn => ?_⟩
      rcases List.mem_append.mp hn with hold | hnew
      · exact hns n hold
      · exact hes n hnew
  exact hinv.2

theorem ratesOk_of_neverDividesByZero (hnever : NeverDividesByZero lib c)
    (hopen : c.device.isConnected = true) : RatesOk lib c.mParameters := by
  have hone {a : ControllerAction} {c' : Controller} {ns : List Int32}
      (hstep : (controllerMachine lib).step c a = some (c', ns)) :
      (controllerMachine lib).Run (fun _ _ => True) c ns c' := by
    simpa using Machine.Run.snoc .nil trivial hstep
  constructor
  · have hstep : (controllerMachine lib).step c .startRecording =
        some (c, [previewFrameRate lib c.mParameters]) := rfl
    exact hnever _ _ (hone hstep) _ (by simp)
  · by_contra hbad
    push Not at hbad
    obtain ⟨hpace, hcan⟩ := hbad
    have hround {c' : Controller} (hrun : (controllerMachine lib).Run (fun _ _ => True) c [] c')
        (hworker : c'.worker ≠ none)
        (htarget : c'.device.mTargetFps = maxFpsRate lib c.mParameters) : False := by
      obtain ⟨c'', ns, hstep, hzero⟩ := bad_round lib hworker htarget hpace
      exact hnever _ _ (hrun.snoc trivial hstep) 0 (by simpa using hzero) rfl
    rcases hcan with hpreview | hpicture
    · obtain ⟨hworker, htarget⟩ := preview_starts hopen hpreview
      have hstep : (controllerMachine lib).step c (.startPreview ⟨1, true⟩) =
          some ((c.doStartPreview lib ⟨1, true⟩).1, []) := rfl
      exact hround (hone hstep) (by simp [hworker]) htarget
    · obtain ⟨res, hres, hworker, htarget⟩ := picture_starts hopen ⟨0, false⟩ hpicture
      have hstep : (controllerMachine lib).step c (.takePicture ⟨1, true⟩ ⟨0, false⟩) =
          some (res.1, []) := by simp [controllerMachine, hres]
      exact hround (hone hstep) (by simp [hworker]) htarget

theorem setParameters_params {lib : CameraParameters} {camera camera' : EmulatedCamera}
    {parms : String} (h : camera.setParameters lib parms = some (noError, camera')) :
    camera'.mParameters = lib.unflatten parms := by
  have hdefined := EmulatedCamera.setParameters_defined (by rw [h]; rfl)
  by_cases haccepts : Accepts lib (lib.unflatten parms)
  · rw [EmulatedCamera.setParameters_accepted haccepts] at h
    cases h
    rfl
  · rw [EmulatedCamera.setParameters_rejected hdefined.1 hdefined.2 haccepts] at h
    cases h

/-- The runs that follow an accepted string, in an opened camera. If the device runs already, it
was started with a target that can be divided by. -/
theorem neverDividesByZero_iff (lib : PreviewParameters) (camera camera' : EmulatedCamera)
    (parms : String)
    (haccept : camera.setParameters lib.toCameraParameters parms = some (noError, camera'))
    (c : Controller) (hopen : c.device.isConnected = true)
    (hpaced : Paced camera'.mParameters c) :
    NeverDividesByZero lib c ↔ RatesOk lib (lib.unflatten parms) := by
  rw [← setParameters_params haccept]
  constructor
  · intro hnever
    rw [← hpaced.parameters]
    exact ratesOk_of_neverDividesByZero hnever hopen
  · intro hrates
    exact neverDividesByZero_of_ratesOk hrates hpaced

end Pace

def pairOfNumbers (separator : Char) (value : Option String) : Int32 × Int32 :=
  match value.map fun value => value.toList.splitOn separator with
  | some [first, second] => (strtol first, strtol second)
  | _ => (-1, -1)

def previewFramework : PreviewParameters where
  toCameraParameters := framework
  getVideoSize params := pairOfNumbers 'x' (params "video-size")
  getPictureSize params := pairOfNumbers 'x' (params "picture-size")
  getPreviewFpsRange params := pairOfNumbers ',' (params "preview-fps-range")

def previewString (size rate : String) : String :=
  "flash-mode=off;focus-mode=fixed;preview-size=" ++ size ++
    ";preview-format=yuv420sp;preview-fps-range=5000,24000;preview-frame-rate=" ++ rate

def previewParams (size rate : String) : ParameterMap :=
  previewFramework.unflatten (previewString size rate)

def previewPairs (size rate : String) : List (String × String) :=
  [("preview-frame-rate", rate), ("preview-fps-range", "5000,24000"),
    ("preview-format", "yuv420sp"), ("preview-size", size), ("focus-mode", "fixed"),
    ("flash-mode", "off")]

def previewExamples : List (String × String) :=
  [("640x480", "24"), ("640x480", "0"), ("641x480", "24")]

section Examples
variable {size rate : String}

theorem previewString_get (h : (size, rate) ∈ previewExamples) :
    previewParams size rate = fun key => (previewPairs size rate).lookup key := by
  have hpairs : (parameterPairs (previewString size rate)).reverse = previewPairs size rate := by
    simp only [previewExamples, List.mem_cons, Prod.mk.injEq, List.not_mem_nil, or_false] at h
    rcases h with ⟨rfl, rfl⟩ | ⟨rfl, rfl⟩ | ⟨rfl, rfl⟩ <;> decide +kernel
  simp only [previewParams, previewFramework, framework, hpairs]

theorem previewString_accepted (h : (size, rate) ∈ previewExamples) :
    EmulatedCamera.initialized.setParameters previewFramework.toCameraParameters
        (previewString size rate) =
      some (noError, EmulatedCamera.initialized.accept previewFramework.toCameraParameters
        (previewParams size rate)) := by
  apply EmulatedCamera.setParameters_accepted
  change Accepts _ (previewParams size rate)
  rw [previewString_get h]
  refine ⟨⟨"off", rfl, by decide +kernel⟩, rfl, ?_⟩
  simp only [previewExamples, List.mem_cons, Prod.mk.injEq, List.not_mem_nil, or_false] at h
  rcases h with ⟨rfl, rfl⟩ | ⟨rfl, rfl⟩ | ⟨rfl, rfl⟩ <;> decide +kernel

end Examples

def openedCamera (params : ParameterMap) : Controller where
  mParameters := params
  device := ⟨.connected, 0, 0, .other 0, 0, 0, 0, 0, 0, 0, 0, 0, 0, 0, 0⟩
  mPreviewEnabled := false
  worker := none

@[simp] theorem openedCamera_params (params : ParameterMap) :
    (openedCamera params).mParameters = params := rfl

theorem openedCamera_accept (lib : CameraParameters) (camera : EmulatedCamera)
    (params : ParameterMap) :
    (openedCamera params).mParameters = (camera.accept lib params).mParameters := rfl

theorem openedCamera_paced (lib : CameraParameters) (camera : EmulatedCamera)
    (params : ParameterMap) :
    Paced (camera.accept lib params).mParameters (openedCamera params) where
  parameters := openedCamera_accept lib camera params
  target := fun h => by cases h
  worker := fun h => absurd rfl h

theorem openedCamera_connected (params : ParameterMap) :
    (openedCamera params).device.isConnected = true := by
  simp [openedCamera, FakeDevice.isConnected]

theorem neverDividesByZero_24 :
    RatesOk previewFramework (previewParams "640x480" "24") ∧
      NeverDividesByZero previewFramework
        (openedCamera (previewParams "640x480" "24")) := by
  have hrates : RatesOk previewFramework (previewParams "640x480" "24") := by
    rw [previewString_get (by decide)]
    exact ⟨by decide +kernel, Or.inl (by decide +kernel)⟩
  exact ⟨hrates, (neverDividesByZero_iff previewFramework .initialized _
    (previewString "640x480" "24") (previewString_accepted (by decide)) _
    (openedCamera_connected _) (openedCamera_paced _ _ _)).mpr hrates⟩

theorem divides_by_zero_rate {lib : PreviewParameters} {params : ParameterMap}
    (h : previewFrameRate lib params = 0) : ¬NeverDividesByZero lib (openedCamera params) := by
  intro hnever
  exact (ratesOk_of_neverDividesByZero hnever (openedCamera_connected params)).1 h

/-- The string with the frame rate 0 is accepted. -/
theorem divides_by_zero :
    EmulatedCamera.initialized.setParameters previewFramework.toCameraParameters
        (previewString "640x480" "0") =
      some (noError, EmulatedCamera.initialized.accept previewFramework.toCameraParameters
        (previewParams "640x480" "0")) ∧
      ¬NeverDividesByZero previewFramework
        (openedCamera (previewParams "640x480" "0")) := by
  refine ⟨previewString_accepted (by decide), divides_by_zero_rate ?_⟩
  rw [previewString_get (by decide)]
  decide +kernel

end Rpi3Device.Camera1
