import Mathlib.Tactic
import Rpi3Device.Camera3.StreamTable

/-!
# Preparing one capture request

The part of `processCaptureRequest` that runs in the calling thread alone:
validation, the choice of the settings, the sensor parameters and the loop that
waits for the fences of the output buffers and locks them. What the 3A emulation
returns and writes, and the outcomes of the fences and of gralloc, are arguments.
-/

namespace Rpi3Device.Camera3

inductive BufferStatus where
  | ok
  | error
deriving DecidableEq

structure HalBuffer where
  stream : Nat
  buffer : Option Nat
  status : BufferStatus
  acquireFence : Int
  releaseFence : Int
deriving DecidableEq

structure CaptureRequest where
  frameNumber : UInt32
  settings : Option CameraMetadata
  inputBuffer : Option HalBuffer
  outputBuffers : Option (List HalBuffer)
deriving DecidableEq

def CaptureRequest.outputs (r : CaptureRequest) : List HalBuffer := r.outputBuffers.getD []

def checkBuffer (t : StreamTable) (b : HalBuffer) : Prop :=
  isAlive t b.stream = true ∧ b.status = .ok ∧ b.releaseFence = -1 ∧ b.buffer ≠ none

instance (t : StreamTable) (b : HalBuffer) : Decidable (checkBuffer t b) :=
  inferInstanceAs (Decidable (_ ∧ _ ∧ _ ∧ _))

def CameraStatus.takesRequests : CameraStatus → Bool
  | .ready => true
  | .active => true
  | _ => false

def validateRequest (t : StreamTable) (mStatus : CameraStatus) : Option CaptureRequest → StatusT
  | none => if mStatus.takesRequests = false then .invalidOperation else .badValue
  | some r =>
    if mStatus.takesRequests = false then .invalidOperation
    else if r.settings = none ∧ t.mPrevSettings = [] then .badValue
    else if ∃ b ∈ r.inputBuffer, t.mInputStream ≠ some b.stream then .badValue
    else if r.outputs = [] then .badValue
    else if ∀ b ∈ r.inputBuffer.toList ++ r.outputs, checkBuffer t b then .ok
    else .badValue

def CameraMetadata.find (settings : CameraMetadata) (tag : MetadataTag) : Option Int64 :=
  settings.lookup tag

def CameraMetadata.update (settings : CameraMetadata) (tag : MetadataTag) (value : Int64) :
    CameraMetadata :=
  (tag, value) :: settings.filter (fun entry => entry.1 ≠ tag)

structure Fake3A where
  res : StatusT := .ok
  updates : List (MetadataTag × Int64) := []
deriving DecidableEq

def process3A (fake : Fake3A) (settings : CameraMetadata) : StatusT × CameraMetadata :=
  if settings.find .controlMode = none then (.badValue, settings)
  else if fake.res = .ok then
    (.ok, fake.updates.foldl (fun s entry => s.update entry.1 entry.2) settings)
  else (fake.res, settings)

def kExposureTimeMin : Int64 := 1000
def kFrameDurationMin : Int64 := 33331760
def kSensitivityMin : UInt32 := 100
def kMinVerticalBlank : Int64 := 10000

structure SensorSettings where
  exposureTime : Int64
  frameDuration : Int64
  sensitivity : UInt32
deriving DecidableEq

def sensorSettings (settings : CameraMetadata) : SensorSettings × CameraMetadata :=
  let exposureTime := (settings.find .sensorExposureTime).getD kExposureTimeMin
  let frameDuration := (settings.find .sensorFrameDuration).getD kFrameDurationMin
  let sensitivity := ((settings.find .sensorSensitivity).map
    fun v => v.toInt32.toUInt32).getD kSensitivityMin
  if exposureTime > frameDuration then
    let frameDuration := exposureTime + kMinVerticalBlank
    (⟨exposureTime, frameDuration, sensitivity⟩,
      settings.update .sensorFrameDuration frameDuration)
  else (⟨exposureTime, frameDuration, sensitivity⟩, settings)

structure SensorBuffer where
  streamId : Int
  width : UInt32
  height : UInt32
  format : PixelFormat
  stride : UInt32
  dataSpace : DataSpace
  buffer : Option Nat
deriving DecidableEq

def kGenericStreamId : Int := 1

def destBuf (stream : Stream) (b : HalBuffer) : SensorBuffer where
  streamId := kGenericStreamId
  width := stream.width
  height := stream.height
  format := if stream.format = .implementationDefined then .rgba8888 else stream.format
  stride := stream.width
  dataSpace := stream.dataSpace
  buffer := b.buffer

inductive GrallocOp where
  | lock (buffer : Option Nat)
  | unlock (buffer : Option Nat)
deriving DecidableEq

structure BufferOutcomes where
  fence : Nat → StatusT := fun _ => .ok
  lock : Nat → StatusT := fun _ => .ok

def BufferOutcomes.result (o : BufferOutcomes) (i : Nat) : StatusT :=
  if o.fence i = .ok then o.lock i else o.fence i

/-- The buffer loop from index `i` on. The unlock loop of a failure names the failing buffer `i`
times over. -/
def lockOutputBuffers (streams : Nat → Stream) (o : BufferOutcomes) :
    Nat → List HalBuffer → List GrallocOp × Option (List SensorBuffer)
  | _, [] => ([], some [])
  | i, b :: rest =>
    if o.result i = .ok then
      let (ops, sensorBuffers) := lockOutputBuffers streams o (i + 1) rest
      (.lock b.buffer :: ops, sensorBuffers.map (destBuf (streams b.stream) b :: ·))
    else (List.replicate i (.unlock b.buffer), none)

theorem CameraMetadata.update_ne_nil (settings : CameraMetadata) (tag : MetadataTag)
    (value : Int64) : settings.update tag value ≠ [] :=
  List.cons_ne_nil _ _

theorem process3A_settings_ne_nil {fake : Fake3A} {settings : CameraMetadata}
    (h : (process3A fake settings).1 = .ok) : (process3A fake settings).2 ≠ [] := by
  have hfold : ∀ (updates : List (MetadataTag × Int64)) (s : CameraMetadata), s ≠ [] →
      updates.foldl (fun s entry => s.update entry.1 entry.2) s ≠ [] := by
    intro updates
    induction updates with
    | nil => exact fun _ hs => hs
    | cons entry updates ih => exact fun s _ => ih _ (s.update_ne_nil entry.1 entry.2)
  unfold process3A at h ⊢
  split_ifs with hmode hres
  · simp [hmode] at h
  · refine hfold _ _ ?_
    intro heq
    obtain rfl := heq
    exact hmode rfl
  · simp [hmode, hres] at h

theorem sensorSettings_ne_nil {settings : CameraMetadata} (h : settings ≠ []) :
    (sensorSettings settings).2 ≠ [] := by
  simp only [sensorSettings]
  split_ifs
  · exact settings.update_ne_nil _ _
  · exact h

structure PreparedRequest where
  frameNumber : UInt32
  settings : CameraMetadata
  settings_ne_nil : settings ≠ []
  sensor : SensorSettings
  buffers : List HalBuffer
  sensorBuffers : List SensorBuffer
deriving DecidableEq

def PreparedRequest.needJpeg (r : PreparedRequest) : Bool :=
  r.sensorBuffers.any (fun b => b.format = .blob)

/-- The call up to its first wait: the fields it leaves, the gralloc operations it made, whether
it came to allocate its two lists, and the request it prepared. -/
structure Begun where
  mStatus : CameraStatus
  table : StreamTable
  ops : List GrallocOp
  allocated : Bool
  result : Except StatusT PreparedRequest

/-- The settings of a request without any are the cached ones, which it takes over. -/
def takeSettings (t : StreamTable) (r : CaptureRequest) : CameraMetadata × StreamTable :=
  match r.settings with
  | some settings => (settings, t)
  | none => (t.mPrevSettings, { t with mPrevSettings := [] })

def startRequest (t : StreamTable) (r : CaptureRequest) (fake : Fake3A) (o : BufferOutcomes) :
    Begun :=
  let (settings, t) := takeSettings t r
  if h3A : (process3A fake settings).1 = .ok then
    let sensor := sensorSettings (process3A fake settings).2
    match lockOutputBuffers t.streams o 0 r.outputs with
    | (ops, some sensorBuffers) =>
      ⟨.active, t, ops, true, .ok ⟨r.frameNumber, sensor.2,
        sensorSettings_ne_nil (process3A_settings_ne_nil h3A), sensor.1, r.outputs,
        sensorBuffers⟩⟩
    | (ops, none) => ⟨.active, t, ops, true, .error .noInit⟩
  else ⟨.active, t, [], false, .error (process3A fake settings).1⟩

def beginRequest (t : StreamTable) (mStatus : CameraStatus) (request : Option CaptureRequest)
    (fake : Fake3A) (o : BufferOutcomes) : Begun :=
  match request with
  | none => ⟨mStatus, t, [], false, .error (validateRequest t mStatus none)⟩
  | some r =>
    if validateRequest t mStatus (some r) = .ok then startRequest t r fake o
    else ⟨mStatus, t, [], false, .error (validateRequest t mStatus (some r))⟩

structure WaitOutcomes where
  jpegDone : Bool := true
  reserve : StatusT := .ok
  readout : StatusT := .ok
  vsync : Bool := true

def waitForSensor (needJpeg : Bool) (w : WaitOutcomes) : StatusT :=
  if needJpeg = true ∧ w.jpegDone = false then .noInit
  else if needJpeg = true ∧ w.reserve ≠ .ok then .noInit
  else if w.readout ≠ .ok then .noInit
  else if w.vsync = false then .noInit
  else .ok

def processCaptureRequest (t : StreamTable) (mStatus : CameraStatus)
    (request : Option CaptureRequest) (fake : Fake3A) (o : BufferOutcomes) (w : WaitOutcomes) :
    StatusT × List GrallocOp :=
  let b := beginRequest t mStatus request fake o
  match b.result with
  | .error res => (res, b.ops)
  | .ok r => (waitForSensor r.needJpeg w, b.ops)

def lockChange (ops : List GrallocOp) (buffer : Option Nat) : Int :=
  ops.count (.lock buffer) - ops.count (.unlock buffer)

theorem lockChange_append (ops ops' : List GrallocOp) (buffer : Option Nat) :
    lockChange (ops ++ ops') buffer = lockChange ops buffer + lockChange ops' buffer := by
  simp only [lockChange, List.count_append, Nat.cast_add]
  ring

def lockAll (bs : List HalBuffer) : List GrallocOp := bs.map fun b => .lock b.buffer

theorem lockChange_lockAll (bs : List HalBuffer) (buffer : Option Nat) :
    lockChange (lockAll bs) buffer = bs.countP (fun b => b.buffer = buffer) := by
  induction bs with
  | nil => rfl
  | cons b bs ih =>
    have hcons : lockAll (b :: bs) = [.lock b.buffer] ++ lockAll bs := rfl
    rw [hcons, lockChange_append, ih, List.countP_cons]
    by_cases h : b.buffer = buffer
    · simp [lockChange, h]
      ring
    · simp [lockChange, h]

theorem lockChange_unlocks (n : Nat) (b buffer : Option Nat) :
    lockChange (List.replicate n (.unlock b)) buffer = if b = buffer then -(n : Int) else 0 := by
  by_cases h : b = buffer
  · simp [lockChange, h, List.count_replicate]
  · simp [lockChange, h, List.count_replicate]

theorem lockOutputBuffers_cases (streams : Nat → Stream) (o : BufferOutcomes) (i : Nat)
    (bs : List HalBuffer) :
    (∀ j < bs.length, o.result (i + j) = .ok) ∧
      lockOutputBuffers streams o i bs =
        (lockAll bs, some (bs.map fun b => destBuf (streams b.stream) b)) ∨
    ∃ pre b post, bs = pre ++ b :: post ∧ (∀ j < pre.length, o.result (i + j) = .ok) ∧
      o.result (i + pre.length) ≠ .ok ∧
      lockOutputBuffers streams o i bs =
        (lockAll pre ++ List.replicate (i + pre.length) (.unlock b.buffer), none) := by
  induction bs generalizing i with
  | nil => exact .inl ⟨by simp, rfl⟩
  | cons b bs ih =>
    by_cases hb : o.result i = .ok
    · rcases ih (i + 1) with ⟨hall, heq⟩ | ⟨pre, b', post, rfl, hpre, hfail, heq⟩
      · refine .inl ⟨fun j hj => ?_, ?_⟩
        · cases j with
          | zero => exact hb
          | succ j =>
            have h := hall j (by simpa using hj)
            rwa [Nat.add_assoc, Nat.add_comm 1 j] at h
        · simp only [lockOutputBuffers, hb, ↓reduceIte, heq, Option.map_some, List.map_cons]
          rfl
      · refine .inr ⟨b :: pre, b', post, rfl, fun j hj => ?_, ?_, ?_⟩
        · cases j with
          | zero => exact hb
          | succ j =>
            have h := hpre j (by simpa using hj)
            rwa [Nat.add_assoc, Nat.add_comm 1 j] at h
        · rwa [List.length_cons, Nat.add_comm pre.length 1, ← Nat.add_assoc]
        · simp only [lockOutputBuffers, hb, ↓reduceIte, heq, Option.map_none, List.length_cons]
          rw [Nat.add_comm pre.length 1, ← Nat.add_assoc]
          rfl
    · exact .inr ⟨[], b, bs, rfl, by simp, hb, by simp [lockOutputBuffers, hb, lockAll]⟩

theorem failed_locks_restored_iff (pre post : List HalBuffer) (b : HalBuffer) :
    (∀ c ∈ pre ++ b :: post,
      lockChange (lockAll pre ++ List.replicate pre.length (.unlock b.buffer)) c.buffer = 0) ↔
    ∀ b' ∈ pre, b'.buffer = b.buffer := by
  have hchange : ∀ buffer,
      lockChange (lockAll pre ++ List.replicate pre.length (.unlock b.buffer)) buffer =
        (pre.countP (fun c => c.buffer = buffer) : Int) -
          if b.buffer = buffer then (pre.length : Int) else 0 := by
    intro buffer
    rw [lockChange_append, lockChange_lockAll, lockChange_unlocks]
    split <;> ring
  constructor
  · intro h b' hb'
    have hb := h b (by simp)
    rw [hchange, if_pos rfl] at hb
    have hcount : pre.countP (fun c => c.buffer = b.buffer) = pre.length := by omega
    simpa using List.countP_eq_length.mp hcount b' hb'
  · intro h c _
    rw [hchange]
    by_cases hc : b.buffer = c.buffer
    · have hcount : pre.countP (fun b' => b'.buffer = c.buffer) = pre.length :=
        List.countP_eq_length.mpr fun b' hb' => by simpa [← hc] using h b' hb'
      simp [hc, hcount]
    · have hcount : pre.countP (fun b' => b'.buffer = c.buffer) = 0 :=
        List.countP_eq_zero.mpr fun b' hb' => by simpa [h b' hb'] using hc
      simp [hc, hcount]

theorem locked_not_restored {bs : List HalBuffer} (hne : bs ≠ []) :
    ¬ ∀ b ∈ bs, lockChange (lockAll bs) b.buffer = 0 := by
  obtain ⟨b, hb⟩ := List.exists_mem_of_ne_nil bs hne
  intro h
  have hzero := h b hb
  rw [lockChange_lockAll] at hzero
  have hpos : 0 < bs.countP (fun c => c.buffer = b.buffer) :=
    List.countP_pos_iff.mpr ⟨b, hb, by simp⟩
  omega

theorem waitForSensor_ok_iff (needJpeg : Bool) (w : WaitOutcomes) :
    waitForSensor needJpeg w = .ok ↔
      (needJpeg = true → w.jpegDone = true ∧ w.reserve = .ok) ∧ w.readout = .ok ∧
        w.vsync = true := by
  unfold waitForSensor
  constructor
  · intro h
    split_ifs at h with h₁ h₂ h₃ h₄
    refine ⟨fun hn => ⟨?_, ?_⟩, not_not.mp h₃, by simpa using h₄⟩
    · simpa [hn] using h₁
    · simpa [hn] using h₂
  · intro hparts
    obtain ⟨hj, hr, hv⟩ := hparts
    cases needJpeg with
    | false => simp [hr, hv]
    | true => simp [hj rfl, hr, hv]

theorem prepared_needJpeg (streams : Nat → Stream) (bs : List HalBuffer) :
    (bs.map fun b => destBuf (streams b.stream) b).any (fun b => b.format = .blob) = true ↔
      ∃ b ∈ bs, (streams b.stream).format = .blob := by
  simp only [List.any_map, List.any_eq_true, Function.comp_apply, decide_eq_true_eq]
  refine exists_congr fun b => and_congr_right fun _ => ?_
  simp only [destBuf]
  split
  · rename_i h
    simp [h]
  · exact Iff.rfl

/-- A buffer whose fence or lock fails comes after buffers with its own handle only, and once all
are locked the JPEG, readout and VSync waits succeed. -/
structure LocksRestored (t : StreamTable) (bs : List HalBuffer) (o : BufferOutcomes)
    (w : WaitOutcomes) : Prop where
  earlier : ∀ pre b post, bs = pre ++ b :: post → (∀ j < pre.length, o.result j = .ok) →
    o.result pre.length ≠ .ok → ∀ b' ∈ pre, b'.buffer = b.buffer
  later : (∀ j < bs.length, o.result j = .ok) →
    ((∃ b ∈ bs, (t.streams b.stream).format = .blob) → w.jpegDone = true ∧ w.reserve = .ok) ∧
      w.readout = .ok ∧ w.vsync = true

theorem takeSettings_streams (t : StreamTable) (r : CaptureRequest) :
    (takeSettings t r).2.streams = t.streams := by
  unfold takeSettings
  split <;> rfl

theorem validateRequest_outputs {t : StreamTable} {mStatus : CameraStatus} {r : CaptureRequest}
    (h : validateRequest t mStatus (some r) = .ok) : r.outputs ≠ [] := by
  intro hnil
  simp only [validateRequest, hnil, ↓reduceIte] at h
  split_ifs at h

theorem locksRestored_of_all {t : StreamTable} {bs : List HalBuffer} {o : BufferOutcomes}
    {w : WaitOutcomes} (hall : ∀ j < bs.length, o.result j = .ok) :
    LocksRestored t bs o w ↔
      ((∃ b ∈ bs, (t.streams b.stream).format = .blob) → w.jpegDone = true ∧ w.reserve = .ok) ∧
        w.readout = .ok ∧ w.vsync = true := by
  refine ⟨fun h => h.later hall, fun h => ⟨?_, fun _ => h⟩⟩
  intro pre b post hbs _ hfail
  exact absurd (hall pre.length (by simp [hbs])) hfail

theorem locksRestored_of_failed {t : StreamTable} {pre post : List HalBuffer} {b : HalBuffer}
    {o : BufferOutcomes} {w : WaitOutcomes} (hpre : ∀ j < pre.length, o.result j = .ok)
    (hfail : o.result pre.length ≠ .ok) :
    LocksRestored t (pre ++ b :: post) o w ↔ ∀ b' ∈ pre, b'.buffer = b.buffer := by
  refine ⟨fun h => h.earlier pre b post rfl hpre hfail, fun h => ⟨?_, ?_⟩⟩
  · intro pre' b' post' heq hpre' hfail'
    have hlen : pre.length = pre'.length := by
      rcases Nat.lt_trichotomy pre.length pre'.length with hlt | hlen | hlt
      · exact absurd (hpre' _ hlt) hfail
      · exact hlen
      · exact absurd (hpre _ hlt) hfail'
    obtain ⟨rfl, htail⟩ := List.append_inj heq hlen
    cases htail
    exact h
  · intro hall
    exact absurd (hall pre.length (by simp)) hfail

/-- On an error each output buffer is locked as often as before, exactly when the request fails
before the buffer loop or the outcomes of the loop and of the waits are restored. -/
theorem locks_restored_iff (t : StreamTable) (mStatus : CameraStatus) (r : CaptureRequest)
    (fake : Fake3A) (o : BufferOutcomes) (w : WaitOutcomes) :
    ((processCaptureRequest t mStatus (some r) fake o w).1 ≠ .ok →
      ∀ b ∈ r.outputs,
        lockChange (processCaptureRequest t mStatus (some r) fake o w).2 b.buffer = 0) ↔
    (validateRequest t mStatus (some r) = .ok →
      (process3A fake (takeSettings t r).1).1 = .ok → LocksRestored t r.outputs o w) := by
  by_cases hvalid : validateRequest t mStatus (some r) = .ok
  · by_cases h3A : (process3A fake (takeSettings t r).1).1 = .ok
    · rw [forall_prop_of_true hvalid, forall_prop_of_true h3A]
      rcases lockOutputBuffers_cases t.streams o 0 r.outputs with
        ⟨hall, hloop⟩ | ⟨pre, b, post, hbs, hpre, hfail, hloop⟩
      · simp only [Nat.zero_add] at hall
        rw [locksRestored_of_all hall, ← prepared_needJpeg, ← waitForSensor_ok_iff]
        simp only [processCaptureRequest, beginRequest, hvalid, ↓reduceIte, startRequest, h3A,
          ↓reduceDIte, takeSettings_streams, hloop, PreparedRequest.needJpeg]
        have hnot := locked_not_restored (validateRequest_outputs hvalid)
        exact ⟨fun h => by_contra fun hres => hnot (h hres), fun h hres => absurd h hres⟩
      · simp only [Nat.zero_add] at hpre hfail hloop
        rw [hbs, locksRestored_of_failed hpre hfail, ← failed_locks_restored_iff pre post b]
        rw [hbs] at hloop
        simp only [processCaptureRequest, beginRequest, hvalid, ↓reduceIte, startRequest, h3A,
          ↓reduceDIte, takeSettings_streams, hbs, hloop]
        exact ⟨fun h => h (by simp), fun h _ => h⟩
    · simp [processCaptureRequest, beginRequest, startRequest, hvalid, h3A, lockChange]
  · simp [processCaptureRequest, beginRequest, hvalid, lockChange]

def previewTable : StreamTable :=
  (configureStreams connectedTable .ready (some ⟨some [some 0]⟩)).1

def previewBuffer (buffer : Nat) : HalBuffer := ⟨0, some buffer, .ok, -1, -1⟩

def twoBufferRequest : CaptureRequest where
  frameNumber := 1
  settings := some [(.controlMode, 1)]
  inputBuffer := none
  outputBuffers := some [previewBuffer 10, previewBuffer 11]

/-- When the lock of buffer 11 fails, buffer 10 stays locked and 11 is unlocked instead. -/
theorem failed_lock_unlocks_wrong_buffer :
    ¬ ∀ (t : StreamTable) (mStatus : CameraStatus) (r : CaptureRequest) (fake : Fake3A)
        (o : BufferOutcomes) (w : WaitOutcomes),
      (processCaptureRequest t mStatus (some r) fake o w).1 ≠ .ok →
      ∀ b ∈ r.outputs,
        lockChange (processCaptureRequest t mStatus (some r) fake o w).2 b.buffer = 0 := by
  intro h
  have hten := h previewTable .ready twoBufferRequest {}
    { lock := fun i => if i = 1 then .badValue else .ok } {} (by decide +kernel) (previewBuffer 10)
    (by decide)
  exact absurd hten (by decide +kernel)

end Rpi3Device.Camera3
