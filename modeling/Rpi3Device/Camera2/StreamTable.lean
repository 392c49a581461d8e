import Mathlib.Tactic
import Rpi3Device.KeyedTable
import Rpi3Device.TransitionSystem

/-!
# The stream tables of the fake HAL2 camera

Streams are kept in keyed vectors under ids issued by a counter, and counted a
second time by kind. `connectCamera` starts the id counters again but keeps the
tables, and a keyed vector replaces the value of a key it knows. The results of the
sensor, of the threads and of the in-use test are arguments of the calls.
-/

namespace Rpi3Device.Camera2
open TransitionSystem KeyedTable

inductive HalStatus where
  | noError
  | badValue
  | invalidOperation
  | cameraNotPresent
  | noDevice
  | failed (code : Int)
deriving DecidableEq

inductive StreamFormat where
  | raw16
  | blob
  | implementationDefined
  | rgba8888
  | yv12
  | yCrCb420Sp
  | zsl
  | other (code : Int)
deriving DecidableEq

def kAvailableFormats : List StreamFormat := [.raw16, .blob, .rgba8888, .yCrCb420Sp]

def kMaxBufferCount : UInt32 := 4
def GRALLOC_USAGE_HW_CAMERA_WRITE : UInt32 := 0x00020000

inductive StreamKind where
  | raw
  | jpeg
  | processed
deriving DecidableEq

def StreamFormat.kind : StreamFormat → StreamKind
  | .raw16 => .raw
  | .blob => .jpeg
  | _ => .processed

def StreamKind.maxStreamCount : StreamKind → UInt32
  | .raw => 1
  | .jpeg => 1
  | .processed => 3

def kMaxReprocessStreamCount : UInt32 := 2

structure Stream where
  ops : Nat
  width : UInt32
  height : UInt32
  format : StreamFormat
  stride : UInt32
deriving DecidableEq

structure ReprocessStream where
  ops : Nat
  width : UInt32
  height : UInt32
  format : StreamFormat
  stride : UInt32
  sourceStreamId : Int32
deriving DecidableEq

structure StreamCamera where
  mStatusPresent : Bool := true
  mIsConnected : Bool := false
  mNextStreamId : UInt32 := 1
  mRawStreamCount : UInt32 := 0
  mJpegStreamCount : UInt32 := 0
  mProcessedStreamCount : UInt32 := 0
  mNextReprocessStreamId : UInt32 := 1
  mReprocessStreamCount : UInt32 := 0
  mAvailableRawSizes : List UInt32
  mAvailableJpegSizes : List UInt32
  mAvailableProcessedSizes : List UInt32
  mStreams : KeyedVector UInt32 Stream := ∅
  mReprocessStreams : KeyedVector UInt32 ReprocessStream := ∅

namespace StreamCamera

def streamCount (c : StreamCamera) : StreamKind → UInt32
  | .raw => c.mRawStreamCount
  | .jpeg => c.mJpegStreamCount
  | .processed => c.mProcessedStreamCount

def setStreamCount (c : StreamCamera) (n : UInt32) : StreamKind → StreamCamera
  | .raw => { c with mRawStreamCount := n }
  | .jpeg => { c with mJpegStreamCount := n }
  | .processed => { c with mProcessedStreamCount := n }

/-- The sizes for the format; the `switch` knows a format that `kAvailableFormats` does not. -/
def availableSizes (c : StreamCamera) : StreamFormat → Option (List UInt32)
  | .raw16 => some c.mAvailableRawSizes
  | .blob => some c.mAvailableJpegSizes
  | .implementationDefined => some c.mAvailableProcessedSizes
  | .rgba8888 => some c.mAvailableProcessedSizes
  | .yv12 => some c.mAvailableProcessedSizes
  | .yCrCb420Sp => some c.mAvailableProcessedSizes
  | _ => none

end StreamCamera

/-- The search from `resIdx` on, with the indices it reads. The height is read only when the
width matches. -/
def sizeSearch (sizes : List UInt32) (beyond : ℕ → UInt32) (width height : UInt32) :
    ℕ → ℕ → Bool × List ℕ
  | _, 0 => (false, [])
  | resIdx, left + 1 =>
    if sizes.getD (resIdx * 2) (beyond (resIdx * 2)) = width then
      if sizes.getD (resIdx * 2 + 1) (beyond (resIdx * 2 + 1)) = height then
        (true, [resIdx * 2, resIdx * 2 + 1])
      else
        let r := sizeSearch sizes beyond width height (resIdx + 1) left
        (r.1, resIdx * 2 :: (resIdx * 2 + 1) :: r.2)
    else
      let r := sizeSearch sizes beyond width height (resIdx + 1) left
      (r.1, resIdx * 2 :: r.2)

/-- The loop takes the number of entries for the number of pairs; `beyond` is what it reads behind
the vector. -/
def supportsResolution (sizes : List UInt32) (beyond : ℕ → UInt32) (width height : UInt32) :
    Bool × List ℕ :=
  sizeSearch sizes beyond width height 0 sizes.length

inductive Output where
  | nothing
  | stream (streamId : UInt32) (formatActual : StreamFormat) (usage maxBuffers : UInt32)
  | reprocessStream (streamId : UInt32)
deriving DecidableEq

structure CallResult where
  camera : StreamCamera
  status : HalStatus
  output : Output := .nothing

structure ConnectResults where
  startUp : HalStatus
  configureRun : HalStatus
  readoutRun : HalStatus
  controlRun : HalStatus
deriving DecidableEq

namespace StreamCamera

def connectCamera (c : StreamCamera) (r : ConnectResults) : CallResult :=
  if c.mStatusPresent = false then ⟨c, .noDevice, .nothing⟩
  else
    let c := { c with mNextStreamId := 1, mNextReprocessStreamId := 1 }
    if r.startUp ≠ .noError then ⟨c, r.startUp, .nothing⟩
    else if r.configureRun ≠ .noError then ⟨c, r.configureRun, .nothing⟩
    else if r.readoutRun ≠ .noError then ⟨c, r.readoutRun, .nothing⟩
    else if r.controlRun ≠ .noError then ⟨c, r.controlRun, .nothing⟩
    else ⟨{ c with mIsConnected := true }, .noError, .nothing⟩

def closeCamera (c : StreamCamera) (shutDown : HalStatus) : CallResult :=
  if c.mIsConnected = false then ⟨c, .noError, .nothing⟩
  else if shutDown ≠ .noError then ⟨c, shutDown, .nothing⟩
  else ⟨{ c with mIsConnected := false }, .noError, .nothing⟩

def plugCamera (c : StreamCamera) : CallResult :=
  ⟨{ c with mStatusPresent := true }, .noError, .nothing⟩

def unplugCamera (c : StreamCamera) (shutDown : HalStatus) : CallResult :=
  closeCamera { c with mStatusPresent := false } shutDown

def triggerDisconnect (c : StreamCamera) : CallResult :=
  ⟨{ c with mStatusPresent := false }, .cameraNotPresent, .nothing⟩

def allocateFormat (c : StreamCamera) (width height : UInt32) (format : StreamFormat) (ops : Nat)
    (beyond : Nat → UInt32) : CallResult :=
  if format ≠ .implementationDefined ∧ format ∉ kAvailableFormats then ⟨c, .badValue, .nothing⟩
  else match c.availableSizes format with
    | none => ⟨c, .badValue, .nothing⟩
    | some sizes =>
      if (supportsResolution sizes beyond width height).1 = false then ⟨c, .badValue, .nothing⟩
      else if c.streamCount format.kind ≥ format.kind.maxStreamCount then
        ⟨c, .invalidOperation, .nothing⟩
      else
        let c := c.setStreamCount (c.streamCount format.kind + 1) format.kind
        ⟨{ c with
            mStreams := c.mStreams.insert c.mNextStreamId ⟨ops, width, height, format, width⟩
            mNextStreamId := c.mNextStreamId + 1 },
          .noError,
          .stream c.mNextStreamId format GRALLOC_USAGE_HW_CAMERA_WRITE kMaxBufferCount⟩

def allocateStream (c : StreamCamera) (width height : UInt32) (format : StreamFormat) (ops : Nat)
    (beyond : Nat → UInt32) : CallResult :=
  if c.mStatusPresent = false then ⟨c, .cameraNotPresent, .nothing⟩
  else c.allocateFormat width height
    (if format = .zsl then .implementationDefined else format) ops beyond

def registerStreamBuffers (c : StreamCamera) (streamId : UInt32) (numBuffers : Int32) :
    CallResult :=
  if c.mStatusPresent = false then ⟨c, .cameraNotPresent, .nothing⟩
  else if numBuffers < 1 then ⟨c, .badValue, .nothing⟩
  else match c.mStreams.lookup streamId with
    | none => ⟨c, .badValue, .nothing⟩
    | some stream =>
      let finalFormat :=
        if stream.format = .implementationDefined then .rgba8888 else stream.format
      ⟨{ c with mStreams := c.mStreams.insert streamId { stream with format := finalFormat } },
        .noError, .nothing⟩

def releaseStream (c : StreamCamera) (streamId : UInt32) (inUse : Bool) : CallResult :=
  match c.mStreams.lookup streamId with
  | none => ⟨c, .badValue, .nothing⟩
  | some stream =>
    if inUse = true then ⟨c, .badValue, .nothing⟩
    else
      let c := c.setStreamCount (c.streamCount stream.format.kind - 1) stream.format.kind
      ⟨{ c with mStreams := c.mStreams.erase streamId }, .noError, .nothing⟩

def allocateReprocessStreamFromStream (c : StreamCamera) (outputStreamId : UInt32) (ops : Nat) :
    CallResult :=
  if c.mStatusPresent = false then ⟨c, .cameraNotPresent, .nothing⟩
  else match c.mStreams.lookup outputStreamId with
    | none => ⟨c, .badValue, .nothing⟩
    | some base =>
      if c.mReprocessStreamCount ≥ kMaxReprocessStreamCount then ⟨c, .invalidOperation, .nothing⟩
      else
        ⟨{ c with
            mReprocessStreamCount := c.mReprocessStreamCount + 1
            mReprocessStreams := c.mReprocessStreams.insert c.mNextReprocessStreamId
              ⟨ops, base.width, base.height, base.format, base.stride, outputStreamId.toInt32⟩
            mNextReprocessStreamId := c.mNextReprocessStreamId + 1 },
          .noError, .reprocessStream c.mNextReprocessStreamId⟩

/-- `isReprocessStreamInUse` is not implemented and always false. -/
def releaseReprocessStream (c : StreamCamera) (streamId : UInt32) : CallResult :=
  match c.mReprocessStreams.lookup streamId with
  | none => ⟨c, .badValue, .nothing⟩
  | some _ =>
    ⟨{ c with
        mReprocessStreamCount := c.mReprocessStreamCount - 1
        mReprocessStreams := c.mReprocessStreams.erase streamId }, .noError, .nothing⟩

end StreamCamera

inductive StreamCall where
  | connectCamera (r : ConnectResults)
  | closeCamera (shutDown : HalStatus)
  | plugCamera
  | unplugCamera (shutDown : HalStatus)
  | triggerDisconnect
  | allocateStream (width height : UInt32) (format : StreamFormat) (ops : Nat)
      (beyond : Nat → UInt32)
  | registerStreamBuffers (streamId : UInt32) (numBuffers : Int32)
  | releaseStream (streamId : UInt32) (inUse : Bool)
  | allocateReprocessStreamFromStream (outputStreamId : UInt32) (ops : Nat)
  | releaseReprocessStream (streamId : UInt32)

def StreamCall.result (c : StreamCamera) : StreamCall → CallResult
  | .connectCamera r => c.connectCamera r
  | .closeCamera shutDown => c.closeCamera shutDown
  | .plugCamera => c.plugCamera
  | .unplugCamera shutDown => c.unplugCamera shutDown
  | .triggerDisconnect => c.triggerDisconnect
  | .allocateStream width height format ops beyond =>
    c.allocateStream width height format ops beyond
  | .registerStreamBuffers streamId numBuffers => c.registerStreamBuffers streamId numBuffers
  | .releaseStream streamId inUse => c.releaseStream streamId inUse
  | .allocateReprocessStreamFromStream outputStreamId ops =>
    c.allocateReprocessStreamFromStream outputStreamId ops
  | .releaseReprocessStream streamId => c.releaseReprocessStream streamId

structure StreamReport where
  before : StreamCamera
  result : CallResult

def streamMachine : Machine StreamCamera StreamCall StreamReport where
  step c call := some ((call.result c).camera, [⟨c, call.result c⟩])

def StreamCamera.initial (raw jpeg processed : List UInt32) : StreamCamera where
  mAvailableRawSizes := raw
  mAvailableJpegSizes := jpeg
  mAvailableProcessedSizes := processed

/-- The id counters start again only while the tables are empty, and do not wrap. -/
def idsKept (c : StreamCamera) : StreamCall → Prop
  | .connectCamera _ =>
    c.mStatusPresent = true → c.mStreams.keys = [] ∧ c.mReprocessStreams.keys = []
  | .allocateStream .. => c.mNextStreamId.toNat + 1 < UInt32.size
  | .allocateReprocessStreamFromStream .. => c.mNextReprocessStreamId.toNat + 1 < UInt32.size
  | _ => True

instance (c : StreamCamera) : (call : StreamCall) → Decidable (idsKept c call)
  | .connectCamera _ => inferInstanceAs (Decidable (_ → _ ∧ _))
  | .allocateStream .. => inferInstanceAs (Decidable (_ < _))
  | .allocateReprocessStreamFromStream .. => inferInstanceAs (Decidable (_ < _))
  | .closeCamera _ | .plugCamera | .unplugCamera _ | .triggerDisconnect
  | .registerStreamBuffers .. | .releaseStream .. | .releaseReprocessStream _ =>
    inferInstanceAs (Decidable True)

structure StreamsCounted (c : StreamCamera) : Prop where
  streams : ∀ kind,
    (c.streamCount kind).toNat = countValues (fun s => s.format.kind = kind) c.mStreams
  reprocess : c.mReprocessStreamCount.toNat = c.mReprocessStreams.keys.length

structure SameTables (c c' : StreamCamera) : Prop where
  streams : c'.mStreams = c.mStreams
  counts : ∀ kind, c'.streamCount kind = c.streamCount kind
  reprocess : c'.mReprocessStreams = c.mReprocessStreams
  reprocessCount : c'.mReprocessStreamCount = c.mReprocessStreamCount

def reprocessOf (c : StreamCamera) : UInt32 × UInt32 × KeyedVector UInt32 ReprocessStream :=
  (c.mReprocessStreamCount, c.mNextReprocessStreamId, c.mReprocessStreams)

section Fields
variable (c : StreamCamera) (n : UInt32) (kind kind' : StreamKind)

theorem streamCount_setStreamCount :
    (c.setStreamCount n kind).streamCount kind' =
      if kind' = kind then n else c.streamCount kind' := by
  cases kind with
  | raw => cases kind' with
    | raw | jpeg | processed => rfl
  | jpeg => cases kind' with
    | raw | jpeg | processed => rfl
  | processed => cases kind' with
    | raw | jpeg | processed => rfl

theorem setStreamCount_mStreams : (c.setStreamCount n kind).mStreams = c.mStreams := by
  cases kind with
  | raw | jpeg | processed => rfl

theorem setStreamCount_mNextStreamId :
    (c.setStreamCount n kind).mNextStreamId = c.mNextStreamId := by
  cases kind with
  | raw | jpeg | processed => rfl

theorem reprocessOf_setStreamCount : reprocessOf (c.setStreamCount n kind) = reprocessOf c := by
  cases kind with
  | raw | jpeg | processed => rfl

end Fields

inductive CallEffect (c : StreamCamera) : StreamCall → CallResult → Prop where
  | keeps {call : StreamCall} {r : CallResult} (tables : SameTables c r.camera)
      (ids : r.camera.mNextStreamId = c.mNextStreamId ∧
        r.camera.mNextReprocessStreamId = c.mNextReprocessStreamId)
      (output : r.output = .nothing) : CallEffect c call r
  | restarts {results : ConnectResults} {r : CallResult} (present : c.mStatusPresent = true)
      (tables : SameTables c r.camera) (output : r.output = .nothing) :
      CallEffect c (.connectCamera results) r
  | adds {width height : UInt32} {format actual : StreamFormat} {ops : Nat}
      {beyond : Nat → UInt32} {usage maxBuffers : UInt32} {c' : StreamCamera} (stream : Stream)
      (room : c.streamCount stream.format.kind < stream.format.kind.maxStreamCount)
      (streams : c'.mStreams = c.mStreams.insert c.mNextStreamId stream)
      (counts : ∀ kind, c'.streamCount kind =
        if kind = stream.format.kind then c.streamCount stream.format.kind + 1
        else c.streamCount kind)
      (next : c'.mNextStreamId = c.mNextStreamId + 1) (rest : reprocessOf c' = reprocessOf c) :
      CallEffect c (.allocateStream width height format ops beyond)
        ⟨c', .noError, .stream c.mNextStreamId actual usage maxBuffers⟩
  | edits {id : UInt32} {numBuffers : Int32} (stream final : Stream)
      (found : c.mStreams.lookup id = some stream)
      (kind : final.format.kind = stream.format.kind) :
      CallEffect c (.registerStreamBuffers id numBuffers)
        ⟨{ c with mStreams := c.mStreams.insert id final }, .noError, .nothing⟩
  | removes {id : UInt32} {inUse : Bool} {c' : StreamCamera} (stream : Stream)
      (found : c.mStreams.lookup id = some stream)
      (streams : c'.mStreams = c.mStreams.erase id)
      (counts : ∀ kind, c'.streamCount kind =
        if kind = stream.format.kind then c.streamCount stream.format.kind - 1
        else c.streamCount kind)
      (next : c'.mNextStreamId = c.mNextStreamId) (rest : reprocessOf c' = reprocessOf c) :
      CallEffect c (.releaseStream id inUse) ⟨c', .noError, .nothing⟩
  | addsReprocess {id : UInt32} {ops : Nat} (stream : ReprocessStream)
      (room : c.mReprocessStreamCount < kMaxReprocessStreamCount) :
      CallEffect c (.allocateReprocessStreamFromStream id ops)
        ⟨{ c with
            mReprocessStreamCount := c.mReprocessStreamCount + 1
            mReprocessStreams := c.mReprocessStreams.insert c.mNextReprocessStreamId stream
            mNextReprocessStreamId := c.mNextReprocessStreamId + 1 },
          .noError, .reprocessStream c.mNextReprocessStreamId⟩
  | removesReprocess {id : UInt32} (stream : ReprocessStream)
      (found : c.mReprocessStreams.lookup id = some stream) :
      CallEffect c (.releaseReprocessStream id)
        ⟨{ c with
            mReprocessStreamCount := c.mReprocessStreamCount - 1
            mReprocessStreams := c.mReprocessStreams.erase id }, .noError, .nothing⟩

section Effects
variable {c c' : StreamCamera}

theorem SameTables.refl (c : StreamCamera) : SameTables c c := ⟨rfl, fun _ => rfl, rfl, rfl⟩

theorem effect_unchanged (call : StreamCall) (status : HalStatus) :
    CallEffect c call ⟨c, status, .nothing⟩ :=
  .keeps (.refl c) ⟨rfl, rfl⟩ rfl

theorem effect_connectCamera (r : ConnectResults) :
    CallEffect c (.connectCamera r) (c.connectCamera r) := by
  unfold StreamCamera.connectCamera
  by_cases hpresent : c.mStatusPresent = false
  · rw [if_pos hpresent]
    exact effect_unchanged _ .noDevice
  · have hrestart : ∀ status connected, CallEffect c (.connectCamera r)
        ⟨{ c with mNextStreamId := 1, mNextReprocessStreamId := 1, mIsConnected := connected },
          status, .nothing⟩ := by
      intro status connected
      refine .restarts (Bool.eq_true_of_not_eq_false hpresent) ⟨rfl, fun kind => ?_, rfl, rfl⟩ rfl
      cases kind with
      | raw | jpeg | processed => rfl
    rw [if_neg hpresent]
    simp only
    split_ifs with hsensor hconfigure hreadout hcontrol
    · exact hrestart r.startUp c.mIsConnected
    · exact hrestart r.configureRun c.mIsConnected
    · exact hrestart r.readoutRun c.mIsConnected
    · exact hrestart r.controlRun c.mIsConnected
    · exact hrestart .noError true

theorem effect_flags (call : StreamCall) (present connected : Bool) (status : HalStatus) :
    CallEffect c call
      ⟨{ c with mStatusPresent := present, mIsConnected := connected }, status, .nothing⟩ := by
  refine .keeps ⟨rfl, fun kind => ?_, rfl, rfl⟩ ⟨rfl, rfl⟩ rfl
  cases kind with
  | raw | jpeg | processed => rfl

theorem effect_closeCamera (call : StreamCall) (present : Bool) (shutDown : HalStatus) :
    CallEffect c call
      (({ c with mStatusPresent := present } : StreamCamera).closeCamera shutDown) := by
  unfold StreamCamera.closeCamera
  split_ifs with hconnected hshutDown
  · exact effect_flags call present c.mIsConnected .noError
  · exact effect_flags call present c.mIsConnected shutDown
  · exact effect_flags call present false .noError

theorem effect_allocateFormat (width height : UInt32) (format actual : StreamFormat) (ops : Nat)
    (beyond : Nat → UInt32) :
    CallEffect c (.allocateStream width height format ops beyond)
      (c.allocateFormat width height actual ops beyond) := by
  unfold StreamCamera.allocateFormat
  by_cases hformat : actual ≠ .implementationDefined ∧ actual ∉ kAvailableFormats
  · rw [if_pos hformat]
    exact effect_unchanged _ .badValue
  · rw [if_neg hformat]
    cases c.availableSizes actual with
    | none => exact effect_unchanged _ .badValue
    | some sizes =>
      simp only
      split_ifs with hsize hcount
      · exact effect_unchanged _ .badValue
      · exact effect_unchanged _ .invalidOperation
      · rw [setStreamCount_mStreams, setStreamCount_mNextStreamId]
        refine .adds ⟨ops, width, height, actual, width⟩ (UInt32.not_le.mp hcount) rfl ?_ rfl ?_
        · exact streamCount_setStreamCount c _ actual.kind
        · exact reprocessOf_setStreamCount c _ actual.kind

theorem effect_allocateStream (width height : UInt32) (format : StreamFormat) (ops : Nat)
    (beyond : Nat → UInt32) :
    CallEffect c (.allocateStream width height format ops beyond)
      (c.allocateStream width height format ops beyond) := by
  by_cases hpresent : c.mStatusPresent = false
  · rw [StreamCamera.allocateStream, if_pos hpresent]
    exact effect_unchanged _ .cameraNotPresent
  · rw [StreamCamera.allocateStream, if_neg hpresent]
    exact effect_allocateFormat width height format _ ops beyond

theorem effect_registerStreamBuffers (id : UInt32) (numBuffers : Int32) :
    CallEffect c (.registerStreamBuffers id numBuffers)
      (c.registerStreamBuffers id numBuffers) := by
  unfold StreamCamera.registerStreamBuffers
  split_ifs with hpresent hbuffers
  · exact effect_unchanged _ .cameraNotPresent
  · exact effect_unchanged _ .badValue
  · split
    · exact effect_unchanged _ .badValue
    · rename_i stream hfound
      refine .edits stream _ hfound ?_
      split_ifs with hformat
      · rw [hformat]
        rfl
      · rfl

theorem effect_releaseStream (id : UInt32) (inUse : Bool) :
    CallEffect c (.releaseStream id inUse) (c.releaseStream id inUse) := by
  unfold StreamCamera.releaseStream
  split
  · exact effect_unchanged _ .badValue
  · rename_i stream hfound
    split_ifs with hinUse
    · exact effect_unchanged _ .badValue
    · simp only [setStreamCount_mStreams]
      refine .removes stream hfound rfl ?_ ?_ ?_
      · exact streamCount_setStreamCount c _ stream.format.kind
      · exact setStreamCount_mNextStreamId c _ stream.format.kind
      · exact reprocessOf_setStreamCount c _ stream.format.kind

theorem effect_allocateReprocessStream (id : UInt32) (ops : Nat) :
    CallEffect c (.allocateReprocessStreamFromStream id ops)
      (c.allocateReprocessStreamFromStream id ops) := by
  unfold StreamCamera.allocateReprocessStreamFromStream
  by_cases hpresent : c.mStatusPresent = false
  · rw [if_pos hpresent]
    exact effect_unchanged _ .cameraNotPresent
  · rw [if_neg hpresent]
    cases c.mStreams.lookup id with
    | none => exact effect_unchanged _ .badValue
    | some base =>
      simp only
      split_ifs with hcount
      · exact effect_unchanged _ .invalidOperation
      · exact .addsReprocess _ (UInt32.not_le.mp hcount)

theorem effect_releaseReprocessStream (id : UInt32) :
    CallEffect c (.releaseReprocessStream id) (c.releaseReprocessStream id) := by
  unfold StreamCamera.releaseReprocessStream
  split
  · exact effect_unchanged _ .badValue
  · rename_i stream hfound
    exact .removesReprocess stream hfound

theorem call_effect (c : StreamCamera) (call : StreamCall) :
    CallEffect c call (call.result c) := by
  cases call with
  | connectCamera r => exact effect_connectCamera r
  | closeCamera shutDown => exact effect_closeCamera _ c.mStatusPresent shutDown
  | plugCamera => exact effect_flags _ true c.mIsConnected .noError
  | unplugCamera shutDown => exact effect_closeCamera _ false shutDown
  | triggerDisconnect => exact effect_flags _ false c.mIsConnected .cameraNotPresent
  | allocateStream width height format ops beyond =>
    exact effect_allocateStream width height format ops beyond
  | registerStreamBuffers id numBuffers => exact effect_registerStreamBuffers id numBuffers
  | releaseStream id inUse => exact effect_releaseStream id inUse
  | allocateReprocessStreamFromStream id ops => exact effect_allocateReprocessStream id ops
  | releaseReprocessStream id => exact effect_releaseReprocessStream id

end Effects

structure TableInv (c : StreamCamera) : Prop extends StreamsCounted c where
  issued : IssuedBefore UInt32.toNat c.mNextStreamId.toNat c.mStreams
  issuedReprocess :
    IssuedBefore UInt32.toNat c.mNextReprocessStreamId.toNat c.mReprocessStreams

theorem tableInv_initial (raw jpeg processed : List UInt32) :
    TableInv (.initial raw jpeg processed) := by
  refine ⟨⟨fun kind => ?_, rfl⟩, issuedBefore_of_keys_nil rfl _, issuedBefore_of_keys_nil rfl _⟩
  cases kind with
  | raw | jpeg | processed => rfl

section Invariant
variable {c : StreamCamera} {call : StreamCall} {r : CallResult}

theorem StreamsCounted.of_same {c' : StreamCamera} (h : StreamsCounted c) (same : SameTables c c') :
    StreamsCounted c' := by
  refine ⟨fun kind => ?_, ?_⟩
  · rw [same.counts, same.streams]
    exact h.streams kind
  · rw [same.reprocessCount, same.reprocess]
    exact h.reprocess

theorem toNat_succ {n : UInt32} (h : n.toNat + 1 < UInt32.size) : (n + 1).toNat = n.toNat + 1 := by
  rw [UInt32.toNat_add]
  exact Nat.mod_eq_of_lt h

theorem toNat_pred {n : UInt32} (h : 0 < n.toNat) : (n - 1).toNat = n.toNat - 1 := by
  apply UInt32.toNat_sub_of_le
  exact UInt32.le_iff_toNat_le.mpr h

theorem maxStreamCount_le (kind : StreamKind) : kind.maxStreamCount.toNat ≤ 3 := by
  cases kind with
  | raw | jpeg | processed => decide

theorem StreamsCounted.add {c' : StreamCamera} (h : StreamsCounted c) {id : UInt32}
    {stream : Stream} (hnew : id ∉ c.mStreams)
    (room : c.streamCount stream.format.kind < stream.format.kind.maxStreamCount)
    (streams : c'.mStreams = c.mStreams.insert id stream)
    (counts : ∀ kind, c'.streamCount kind =
      if kind = stream.format.kind then c.streamCount stream.format.kind + 1
      else c.streamCount kind) (kind : StreamKind) :
    (c'.streamCount kind).toNat = countValues (fun s => s.format.kind = kind) c'.mStreams := by
  rw [counts, streams, countValues_insert_of_notMem hnew, ← h.streams]
  by_cases hkind : kind = stream.format.kind
  · subst hkind
    have hmax := maxStreamCount_le stream.format.kind
    have hlt := UInt32.lt_iff_toNat_lt.mp room
    have hsize : (c.streamCount stream.format.kind).toNat + 1 < UInt32.size := by
      simp only [UInt32.size]
      omega
    rw [if_pos rfl, toNat_succ hsize]
    simp
  · simp [hkind, Ne.symm hkind]

theorem StreamsCounted.remove {c' : StreamCamera} (h : StreamsCounted c) {id : UInt32}
    {stream : Stream} (found : c.mStreams.lookup id = some stream)
    (streams : c'.mStreams = c.mStreams.erase id)
    (counts : ∀ kind, c'.streamCount kind =
      if kind = stream.format.kind then c.streamCount stream.format.kind - 1
      else c.streamCount kind) (kind : StreamKind) :
    (c'.streamCount kind).toNat = countValues (fun s => s.format.kind = kind) c'.mStreams := by
  have hcount := h.streams kind
  rw [countValues_erase found] at hcount
  rw [counts, streams]
  by_cases hkind : kind = stream.format.kind
  · subst hkind
    simp only [decide_true, ↓reduceIte] at hcount
    rw [if_pos rfl, toNat_pred (by omega), hcount, Nat.add_sub_cancel]
  · simpa [hkind, Ne.symm hkind] using hcount

theorem tableInv_of_effect (inv : TableInv c) (hok : idsKept c call) (h : CallEffect c call r) :
    TableInv r.camera := by
  cases h with
  | keeps tables ids output =>
    refine ⟨inv.toStreamsCounted.of_same tables, ?_, ?_⟩
    · rw [ids.1, tables.streams]
      exact inv.issued
    · rw [ids.2, tables.reprocess]
      exact inv.issuedReprocess
  | restarts present tables output =>
    obtain ⟨hstreams, hreprocess⟩ := hok present
    refine ⟨inv.toStreamsCounted.of_same tables, ?_, ?_⟩
    · rw [tables.streams]
      exact issuedBefore_of_keys_nil hstreams _
    · rw [tables.reprocess]
      exact issuedBefore_of_keys_nil hreprocess _
  | adds stream room streams counts next rest =>
    obtain ⟨hcount, hnext, htable⟩ : _ ∧ _ ∧ _ := by simpa [reprocessOf] using rest
    refine ⟨⟨inv.toStreamsCounted.add inv.issued.notMem room streams counts, ?_⟩, ?_, ?_⟩
    · rw [hcount, htable]
      exact inv.reprocess
    · rw [streams, next, toNat_succ hok]
      exact inv.issued.insert (Nat.lt_succ_self _)
    · rw [hnext, htable]
      exact inv.issuedReprocess
  | edits stream final found kind =>
    refine ⟨⟨fun kind' => ?_, inv.reprocess⟩, ?_, inv.issuedReprocess⟩
    · rw [countValues_insert_same found (by simp [kind])]
      exact inv.streams kind'
    · exact inv.issued.insert_same (AList.lookup_isSome.mp (by simp [found]))
  | removes stream found streams counts next rest =>
    obtain ⟨hcount, hnext, htable⟩ : _ ∧ _ ∧ _ := by simpa [reprocessOf] using rest
    refine ⟨⟨inv.toStreamsCounted.remove found streams counts, ?_⟩, ?_, ?_⟩
    · rw [hcount, htable]
      exact inv.reprocess
    · rw [streams, next]
      exact inv.issued.erase
    · rw [hnext, htable]
      exact inv.issuedReprocess
  | addsReprocess stream room =>
    have hlt : c.mReprocessStreamCount.toNat < 2 := UInt32.lt_iff_toNat_lt.mp room
    have hsize : c.mReprocessStreamCount.toNat + 1 < UInt32.size := by
      simp only [UInt32.size]
      omega
    refine ⟨⟨inv.streams, ?_⟩, inv.issued, ?_⟩
    · rw [toNat_succ hsize, inv.reprocess, length_keys_insert inv.issuedReprocess.notMem]
    · rw [toNat_succ hok]
      exact inv.issuedReprocess.insert (Nat.lt_succ_self _)
  | @removesReprocess id stream found =>
    have hmem : id ∈ c.mReprocessStreams.keys := AList.lookup_isSome.mp (by simp [found])
    have hpos : 0 < c.mReprocessStreamCount.toNat := by
      rw [inv.reprocess]
      exact List.length_pos_of_mem hmem
    refine ⟨⟨inv.streams, ?_⟩, inv.issued, inv.issuedReprocess.erase⟩
    rw [toNat_pred hpos, inv.reprocess, AList.keys_erase, List.length_erase_of_mem hmem]

/-- What one call owes: a failure changes no table, and an allocated id is new. -/
structure CallSound (e : StreamReport) : Prop where
  failing : e.result.status ≠ .noError → SameTables e.before e.result.camera
  fresh : ∀ id format usage maxBuffers,
    e.result.output = .stream id format usage maxBuffers → id ∉ e.before.mStreams

theorem callSound_of_effect (inv : TableInv c) (h : CallEffect c call r) : CallSound ⟨c, r⟩ := by
  cases h with
  | keeps tables ids output => exact ⟨fun _ => tables, fun _ _ _ _ hout => by simp [output] at hout⟩
  | restarts present tables output =>
    exact ⟨fun _ => tables, fun _ _ _ _ hout => by simp [output] at hout⟩
  | adds stream room streams counts next rest =>
    refine ⟨fun hfail => absurd rfl hfail, fun id _ _ _ hout => ?_⟩
    cases hout
    exact inv.issued.notMem
  | edits | removes | addsReprocess | removesReprocess =>
    exact ⟨fun hfail => absurd rfl hfail, fun _ _ _ _ hout => by cases hout⟩

end Invariant

/-- The counters, the ids and the failing calls, over every sequence of calls. -/
theorem stream_tables_counted {raw jpeg processed : List UInt32} {tr : List StreamReport}
    {c : StreamCamera} (run : streamMachine.Run idsKept (.initial raw jpeg processed) tr c) :
    StreamsCounted c ∧ ∀ e ∈ tr, CallSound e := by
  have hinv : TableInv c ∧ ∀ e ∈ tr, CallSound e := by
    refine run.invariant (P := fun tr c => TableInv c ∧ ∀ e ∈ tr, CallSound e) ?_ ?_
    · exact ⟨tableInv_initial raw jpeg processed, by simp⟩
    · intro tr es c c' call h hok hstep
      obtain ⟨inv, hsound⟩ := h
      simp only [streamMachine, Option.some.injEq, Prod.mk.injEq] at hstep
      obtain ⟨rfl, rfl⟩ := hstep
      have heffect := call_effect c call
      refine ⟨tableInv_of_effect inv hok heffect, fun e he => ?_⟩
      rcases List.mem_append.mp he with hold | hnew
      · exact hsound e hold
      · rw [List.mem_singleton.mp hnew]
        exact callSound_of_effect inv heffect
  exact ⟨hinv.1.toStreamsCounted, hinv.2⟩

def connected : ConnectResults := ⟨.noError, .noError, .noError, .noError⟩

theorem stream_tables_counted_session :
    ∃ tr c, streamMachine.Run idsKept (.initial [640, 480] [640, 480] [640, 480]) tr c ∧
      (c.mProcessedStreamCount = 1 ∧ c.mReprocessStreamCount = 1 ∧ c.mJpegStreamCount = 0) ∧
      StreamsCounted c ∧ ∀ e ∈ tr, CallSound e := by
  obtain ⟨tr, c, run, hcounts⟩ := Machine.run_of_exec streamMachine idsKept
    (.initial [640, 480] [640, 480] [640, 480])
    [.connectCamera connected, .allocateStream 640 480 .zsl 7 (fun _ => 0),
      .registerStreamBuffers 1 4, .allocateStream 640 480 .blob 8 (fun _ => 0),
      .allocateStream 640 480 .blob 9 (fun _ => 0), .allocateReprocessStreamFromStream 1 3,
      .releaseStream 2 false]
    (fun c _ => c.mProcessedStreamCount = 1 ∧ c.mReprocessStreamCount = 1 ∧
      c.mJpegStreamCount = 0) (by decide +kernel)
  exact ⟨tr, c, run, hcounts, stream_tables_counted run⟩

def StreamReport.reissues (e : StreamReport) : Bool :=
  match e.result.output with
  | .stream id _ _ _ => id ∈ e.before.mStreams
  | _ => false

/-- The stream of the second session takes the id and the place of the first one's. -/
theorem reconnect_reissues_id :
    ∃ tr c, streamMachine.Run (fun _ _ => True) (.initial [640, 480] [640, 480] [640, 480]) tr c ∧
      ¬ StreamsCounted c ∧ ∃ e ∈ tr, ¬ CallSound e := by
  obtain ⟨tr, c, run, ⟨hcount, hnone⟩, hreissues⟩ := Machine.run_of_exec streamMachine
    (fun _ _ => True) (.initial [640, 480] [640, 480] [640, 480])
    [.connectCamera connected, .allocateStream 640 480 .blob 7 (fun _ => 0),
      .closeCamera .noError, .connectCamera connected,
      .allocateStream 640 480 .rgba8888 8 (fun _ => 0)]
    (fun c tr => (c.mJpegStreamCount = 1 ∧
      countValues (fun s => s.format.kind = .jpeg) c.mStreams = 0) ∧ tr.any (·.reissues) = true)
    (by decide +kernel)
  refine ⟨tr, c, run, fun h => ?_, ?_⟩
  · have hjpeg := h.streams .jpeg
    rw [hnone] at hjpeg
    simp [StreamCamera.streamCount, hcount] at hjpeg
  · obtain ⟨e, he, hid⟩ := List.any_eq_true.mp hreissues
    refine ⟨e, he, fun hsound => ?_⟩
    unfold StreamReport.reissues at hid
    split at hid
    · rename_i id format usage maxBuffers hout
      exact hsound.fresh id format usage maxBuffers hout (of_decide_eq_true hid)
    · cases hid

end Rpi3Device.Camera2
