import Rpi3Device.ByteMemory
import Rpi3Device.Camera2.StreamTable

/-!
# Decoding the streams of a request

The configure thread of the fake HAL2 camera turns the stream ids of a request into
buffers. A metadata entry is a block of bytes with several views: `data.i32[i]` is the
i-th little-endian word and `data.u8[i]` the i-th byte of the same block. `setupCapture`
uses the words. `setupReprocess` looks the output streams up by the words, but takes
the ids of their buffers from the bytes.
-/

namespace Rpi3Device.Camera2.RequestDecoding
open ByteMemory KeyedTable

structure Metadata where
  inputStreams : Option (List Int32)
  outputStreams : Option (List Int32)
  frameCount : Option Int32
  exposureTime : Option Int64
  frameDuration : Option Int64
  sensitivity : Option Int32

structure StreamBuffer where
  streamId : Int32
  width : UInt32
  height : UInt32
  format : StreamFormat
  stride : UInt32
deriving DecidableEq

structure ConfigureThread where
  mNextNeedsJpeg : Bool
  mNextIsCapture : Bool
  mNextFrameNumber : Int32
  mNextExposureTime : Int64
  mNextFrameDuration : Int64
  mNextSensitivity : Int32
  mNextBuffers : List StreamBuffer
  mWaitingForReadout : Bool
  signalled : Bool

/-- A setup function returns false, or the lookup of a stream that is not in the table aborts
the process. -/
inductive SetupError
  | failed
  | aborted
deriving DecidableEq

def entryData (ids : List Int32) : Memory := ofBytes (ids.flatMap fun id => bytes32 id.toUInt32)

def dataI32 (ids : List Int32) (i : ℕ) : Int32 := (load32 (entryData ids) (4 * i)).toInt32

def dataU8 (ids : List Int32) (i : ℕ) : UInt8 := entryData ids i

/-- `HAL_PIXEL_FORMAT_RGB_888`, which no list of formats of the camera has. -/
def rgb888 : StreamFormat := .other 3

def kMinVerticalBlank : Int64 := 10000

def captureBuffer (camera : StreamCamera) (ids : List Int32) (i : ℕ) :
    Except SetupError StreamBuffer :=
  let streamId := dataI32 ids i
  match camera.mStreams.lookup streamId.toUInt32 with
  | none => .error .aborted
  | some s =>
    if s.format = .implementationDefined then .error .failed
    else .ok ⟨streamId, s.width, s.height, s.format, s.stride⟩

def reprocessInputBuffer (camera : StreamCamera) (ids : List Int32) (i : ℕ) :
    Except SetupError StreamBuffer :=
  let streamId := dataI32 ids i
  match camera.mReprocessStreams.lookup streamId.toUInt32 with
  | none => .error .aborted
  | some s =>
    if s.format ≠ rgb888 then .error .failed
    else .ok ⟨-streamId, s.width, s.height, s.format, s.stride⟩

def reprocessOutputBuffer (camera : StreamCamera) (ids : List Int32) (i : ℕ) :
    Except SetupError StreamBuffer :=
  let streamId := dataI32 ids i
  match camera.mStreams.lookup streamId.toUInt32 with
  | none => .error .aborted
  | some s =>
    if s.format ≠ .blob then .error .failed
    else .ok ⟨Int32.ofInt (dataU8 ids i).toNat, s.width, s.height, s.format, s.stride⟩

def pushBuffers (round : ℕ → Except SetupError StreamBuffer) :
    List ℕ → List StreamBuffer → List StreamBuffer × Option SetupError
  | [], buffers => (buffers, none)
  | i :: is, buffers =>
    match round i with
    | .error r => (buffers, some r)
    | .ok b => pushBuffers round is (buffers ++ [b])

def ConfigureThread.error (t : ConfigureThread) : ConfigureThread × Option SetupError :=
  ({ t with signalled := true }, some .failed)

def captureSettings (request : Metadata) (t : ConfigureThread) :
    ConfigureThread × Option SetupError :=
  match request.frameCount with
  | none => t.error
  | some frameCount =>
    let t := { t with mNextFrameNumber := frameCount }
    match request.exposureTime with
    | none => t.error
    | some exposureTime =>
      let t := { t with mNextExposureTime := exposureTime }
      match request.frameDuration with
      | none => t.error
      | some frameDuration =>
        let t := { t with
          mNextFrameDuration := if frameDuration < exposureTime + kMinVerticalBlank then
            exposureTime + kMinVerticalBlank else frameDuration }
        match request.sensitivity with
        | none => t.error
        | some sensitivity =>
          ({ t with mNextSensitivity := sensitivity, mWaitingForReadout := true }, none)

def setupCapture (camera : StreamCamera) (request : Metadata) (t : ConfigureThread) :
    ConfigureThread × Option SetupError :=
  let t := { t with mNextIsCapture := true }
  match request.outputStreams with
  | none => t.error
  | some ids =>
    match pushBuffers (captureBuffer camera ids) (List.range ids.length) [] with
    | (buffers, some r) =>
      ({ t with
        mNextBuffers := buffers, mNextNeedsJpeg := buffers.any (·.format = .blob)
        signalled := true }, some r)
    | (buffers, none) => captureSettings request { t with
        mNextBuffers := buffers, mNextNeedsJpeg := buffers.any (·.format = .blob) }

def setupReprocess (camera : StreamCamera) (request : Metadata) (t : ConfigureThread) :
    ConfigureThread × Option SetupError :=
  let t := { t with mNextNeedsJpeg := true, mNextIsCapture := false }
  match request.inputStreams with
  | none => t.error
  | some inputs =>
    match pushBuffers (reprocessInputBuffer camera inputs) (List.range inputs.length) [] with
    | (buffers, some r) => ({ t with mNextBuffers := buffers, signalled := true }, some r)
    | (buffers, none) =>
      match request.outputStreams with
      | none => { t with mNextBuffers := buffers }.error
      | some ids =>
        match pushBuffers (reprocessOutputBuffer camera ids) (List.range ids.length) buffers with
        | (buffers, some r) => ({ t with mNextBuffers := buffers, signalled := true }, some r)
        | (buffers, none) =>
          match request.frameCount with
          | none => { t with mNextBuffers := buffers }.error
          | some frameCount =>
            ({ t with mNextBuffers := buffers, mNextFrameNumber := frameCount }, none)

inductive Kind
  | capture
  | reprocess
deriving DecidableEq

def setup : Kind → StreamCamera → Metadata → ConfigureThread → ConfigureThread × Option SetupError
  | .capture => setupCapture
  | .reprocess => setupReprocess

def OutputBuffer (camera : StreamCamera) (id : Int32) (b : StreamBuffer) : Prop :=
  ∃ s, camera.mStreams.lookup id.toUInt32 = some s ∧
    b = ⟨id, s.width, s.height, s.format, s.stride⟩

def InputBuffer (camera : StreamCamera) (id : Int32) (b : StreamBuffer) : Prop :=
  ∃ s, camera.mReprocessStreams.lookup id.toUInt32 = some s ∧
    b = ⟨-id, s.width, s.height, s.format, s.stride⟩

def Kind.inputs (request : Metadata) : Kind → List Int32
  | .capture => []
  | .reprocess => request.inputStreams.getD []

/-- One buffer for each input stream of a reprocess, under the negated id, and then one for each
output stream, in order. -/
def Decoded (kind : Kind) (camera : StreamCamera) (request : Metadata)
    (buffers : List StreamBuffer) : Prop :=
  ∃ ins outs, buffers = ins ++ outs ∧
    List.Forall₂ (InputBuffer camera) (kind.inputs request) ins ∧
    List.Forall₂ (OutputBuffer camera) (request.outputStreams.getD []) outs

def BytesAreIds : List Int32 → Prop
  | [] => True
  | id :: ids => 0 ≤ id.toInt ∧ id.toInt ≤ 255 ∧ ∀ id' ∈ ids, id' = 0

theorem flatMap_bytes32_length (ids : List Int32) :
    (ids.flatMap fun id => bytes32 id.toUInt32).length = 4 * ids.length := by
  induction ids with
  | nil => rfl
  | cons id ids ih =>
    rw [List.flatMap_cons, List.length_append, bytes32_length, ih, List.length_cons]
    omega

theorem entryData_holdsAt {ids : List Int32} {i : ℕ} (hi : i < ids.length) :
    HoldsAt (entryData ids) (4 * i) (bytes32 ids[i].toUInt32) := by
  have hbytes : (ids.flatMap fun id => bytes32 id.toUInt32) =
      ((ids.take i).flatMap fun id => bytes32 id.toUInt32) ++ (bytes32 ids[i].toUInt32 ++
        (ids.drop (i + 1)).flatMap fun id => bytes32 id.toUInt32) := by
    conv_lhs => rw [← List.take_append_drop i ids, List.drop_eq_getElem_cons hi]
    rw [List.flatMap_append, List.flatMap_cons]
  have hwhole : HoldsAt (entryData ids) 0 (ids.flatMap fun id => bytes32 id.toUInt32) :=
    holdsAt_ofBytes _
  rw [hbytes, holdsAt_append, holdsAt_append, flatMap_bytes32_length, List.length_take,
    Nat.min_eq_left hi.le, Nat.zero_add] at hwhole
  exact hwhole.2.1

theorem dataI32_eq {ids : List Int32} {i : ℕ} (hi : i < ids.length) : dataI32 ids i = ids[i] := by
  rw [dataI32, load32_of_holdsAt (entryData_holdsAt hi)]
  rfl

theorem map_dataI32 (ids : List Int32) : (List.range ids.length).map (dataI32 ids) = ids := by
  apply List.ext_getElem (by simp)
  intro i hi hi'
  rw [List.getElem_map, List.getElem_range, dataI32_eq hi']

theorem bytes32_getElem? (x : UInt32) {r : ℕ} (hr : r < 4) :
    ((bytes32 x)[r]?).map UInt8.toNat = some (x.toNat / 256 ^ r % 256) := by
  interval_cases r <;> simp [bytes32]

theorem dataU8_eq {ids : List Int32} {i : ℕ} (hi : i < 4 * ids.length) :
    (dataU8 ids i).toNat = ids[i / 4].toUInt32.toNat / 256 ^ (i % 4) % 256 := by
  have hword := entryData_holdsAt (show i / 4 < ids.length by omega)
  have hbyte := hword (i % 4) (by rw [bytes32_length]; omega)
  rw [Nat.div_add_mod] at hbyte
  have hpart := bytes32_getElem? ids[i / 4].toUInt32 (Nat.mod_lt i (by omega : 0 < 4))
  rw [List.getElem?_eq_getElem (by rw [bytes32_length]; omega), Option.map_some,
    Option.some.injEq] at hpart
  rw [dataU8, hbyte, hpart]

theorem toInt_eq_toNat {id : Int32} (h : 0 ≤ id.toInt) : id.toInt = id.toUInt32.toNat := by
  have hbmod : id.toInt = (id.toUInt32.toNat : ℤ).bmod (2 ^ 32) :=
    id.toBitVec.toInt_eq_toNat_bmod
  have hlt := id.toUInt32.toNat_lt
  rw [Int.bmod_def] at hbmod
  split at hbmod <;> omega

theorem ofInt_byte_eq_iff (b : UInt8) (id : Int32) :
    Int32.ofInt b.toNat = id ↔ (b.toNat : ℤ) = id.toInt := by
  have hb := b.toNat_lt
  have htoInt : (Int32.ofInt b.toNat).toInt = b.toNat :=
    Int32.toInt_ofInt_of_le (by omega) (by omega)
  rw [← Int32.toInt_inj, htoInt]

theorem dataU8_eq_zero {ids : List Int32} {i : ℕ} (hi : i < ids.length) (hpos : 0 < i)
    (hlow : 0 ≤ ids[0].toInt ∧ ids[0].toInt ≤ 255)
    (hzero : ∀ j (hj : j < i), 0 < j → ids[j] = 0) : (dataU8 ids i).toNat = 0 := by
  rw [dataU8_eq (by omega)]
  rcases Nat.eq_zero_or_pos (i / 4) with hfirst | hlater
  · have hnat := toInt_eq_toNat hlow.1
    have hsmall : ids[0].toUInt32.toNat < 256 := by omega
    have hpow : 256 ^ 1 ≤ 256 ^ (i % 4) := Nat.pow_le_pow_right (by omega) (by omega)
    simp only [hfirst]
    rw [Nat.div_eq_of_lt (by omega), Nat.zero_mod]
  · have hnone : (0 : Int32).toUInt32.toNat = 0 := by decide
    rw [hzero (i / 4) (by omega) hlater, hnone, Nat.zero_div, Nat.zero_mod]

theorem bytesAreIds_iff (ids : List Int32) :
    (∀ i (hi : i < ids.length), Int32.ofInt (dataU8 ids i).toNat = ids[i]) ↔ BytesAreIds ids := by
  cases ids with
  | nil => simp [BytesAreIds]
  | cons id ids =>
    have hfirst : (dataU8 (id :: ids) 0).toNat = id.toUInt32.toNat % 256 := by
      rw [dataU8_eq (by simp)]
      simp
    constructor
    · intro h
      have hid := (ofInt_byte_eq_iff _ _).mp (h 0 (by simp))
      rw [hfirst, List.getElem_cons_zero] at hid
      have hlow : 0 ≤ id.toInt ∧ id.toInt ≤ 255 := by omega
      have hzero : ∀ i (hi : i < (id :: ids).length), 0 < i → (id :: ids)[i] = 0 := by
        intro i
        induction i using Nat.strong_induction_on with
        | _ i ih =>
          intro hi hpos
          rw [← h i hi, dataU8_eq_zero hi hpos hlow fun j hj hjpos => ih j hj (by omega) hjpos]
          rfl
      refine ⟨hlow.1, hlow.2, fun id' hmem => ?_⟩
      obtain ⟨j, hj, rfl⟩ := List.mem_iff_getElem.mp hmem
      exact hzero (j + 1) (by simpa using hj) (by omega)
    · intro hparts i hi
      obtain ⟨hlo, hhi, hrest⟩ := hparts
      rcases Nat.eq_zero_or_pos i with rfl | hpos
      · have hnat := toInt_eq_toNat hlo
        rw [ofInt_byte_eq_iff, hfirst, List.getElem_cons_zero]
        omega
      · have hzero : ∀ j (hj : j < (id :: ids).length), 0 < j → (id :: ids)[j] = 0 := by
          intro j hj hjpos
          obtain ⟨k, rfl⟩ := Nat.exists_eq_add_of_lt hjpos
          simp only [Nat.zero_add, List.getElem_cons_succ]
          exact hrest _ (List.getElem_mem _)
        rw [hzero i hi hpos,
          dataU8_eq_zero hi hpos ⟨hlo, hhi⟩ fun j hj hjpos => hzero j (by omega) hjpos]
        rfl

theorem pushBuffers_none {round : ℕ → Except SetupError StreamBuffer} {is : List ℕ}
    {buffers buffers' : List StreamBuffer}
    (h : pushBuffers round is buffers = (buffers', none)) :
    ∃ bs, buffers' = buffers ++ bs ∧ List.Forall₂ (fun i b => round i = .ok b) is bs := by
  induction is generalizing buffers with
  | nil =>
    obtain ⟨rfl, -⟩ := Prod.mk.inj h
    exact ⟨[], by simp, .nil⟩
  | cons i is ih =>
    cases hround : round i with
    | error r => simp [pushBuffers, hround] at h
    | ok b =>
      simp only [pushBuffers, hround] at h
      obtain ⟨bs, rfl, hall⟩ := ih h
      exact ⟨b :: bs, by simp, .cons hround hall⟩

theorem forall₂_rounds {ids : List Int32} {bs : List StreamBuffer}
    {round : ℕ → Except SetupError StreamBuffer} {R : Int32 → StreamBuffer → Prop}
    (hround : ∀ i b, round i = .ok b → R (dataI32 ids i) b)
    (h : List.Forall₂ (fun i b => round i = .ok b) (List.range ids.length) bs) :
    List.Forall₂ R ids bs := by
  have hmap : List.Forall₂ R ((List.range ids.length).map (dataI32 ids)) bs :=
    List.forall₂_map_left_iff.mpr (h.imp hround)
  rwa [map_dataI32] at hmap

theorem captureBuffer_ok {camera : StreamCamera} {ids : List Int32} {i : ℕ} {b : StreamBuffer}
    (h : captureBuffer camera ids i = .ok b) : OutputBuffer camera (dataI32 ids i) b := by
  unfold captureBuffer at h
  cases hs : camera.mStreams.lookup (dataI32 ids i).toUInt32 with
  | none => simp [hs] at h
  | some s =>
    simp only [hs] at h
    split at h
    · simp at h
    · exact ⟨s, hs, (Except.ok.inj h).symm⟩

theorem reprocessInputBuffer_ok {camera : StreamCamera} {ids : List Int32} {i : ℕ}
    {b : StreamBuffer} (h : reprocessInputBuffer camera ids i = .ok b) :
    InputBuffer camera (dataI32 ids i) b := by
  unfold reprocessInputBuffer at h
  cases hs : camera.mReprocessStreams.lookup (dataI32 ids i).toUInt32 with
  | none => simp [hs] at h
  | some s =>
    simp only [hs] at h
    split at h
    · simp at h
    · exact ⟨s, hs, (Except.ok.inj h).symm⟩

theorem reprocessOutputBuffer_ok {camera : StreamCamera} {ids : List Int32} {i : ℕ}
    {b : StreamBuffer} (h : reprocessOutputBuffer camera ids i = .ok b) :
    OutputBuffer camera (dataI32 ids i) b ↔
      Int32.ofInt (dataU8 ids i).toNat = dataI32 ids i := by
  unfold reprocessOutputBuffer at h
  cases hs : camera.mStreams.lookup (dataI32 ids i).toUInt32 with
  | none => simp [hs] at h
  | some s =>
    simp only [hs] at h
    split at h
    · simp at h
    · rw [← Except.ok.inj h]
      constructor
      · intro hparts
        obtain ⟨s', -, hb⟩ := hparts
        exact (StreamBuffer.mk.inj hb).1
      · intro hid
        exact ⟨s, hs, by rw [hid]⟩

theorem reprocess_outputs_iff {camera : StreamCamera} {ids : List Int32} {bs : List StreamBuffer}
    (h : List.Forall₂ (fun i b => reprocessOutputBuffer camera ids i = .ok b)
      (List.range ids.length) bs) :
    List.Forall₂ (OutputBuffer camera) ids bs ↔ BytesAreIds ids := by
  rw [← bytesAreIds_iff]
  constructor
  · intro hall i hi
    obtain ⟨hlen, hget⟩ := List.forall₂_iff_get.mp h
    have hround := hget i (by simpa using hi) (by rw [← hlen]; simpa using hi)
    have hout := (List.forall₂_iff_get.mp hall).2 i hi (by rw [← hlen]; simpa using hi)
    simp only [List.get_eq_getElem, List.getElem_range] at hround hout
    rw [← dataI32_eq hi] at hout ⊢
    exact (reprocessOutputBuffer_ok hround).mp hout
  · intro hall
    have hmap :
        List.Forall₂ (OutputBuffer camera) ((List.range ids.length).map (dataI32 ids)) bs := by
      rw [List.forall₂_map_left_iff]
      have hin : List.Forall₂ (fun i b => i ∈ List.range ids.length ∧
          reprocessOutputBuffer camera ids i = .ok b) (List.range ids.length) bs :=
        (List.forall₂_and_left ..).mpr ⟨fun i hi => hi, h⟩
      refine hin.imp fun i b hib => ?_
      have hi := List.mem_range.mp hib.1
      apply (reprocessOutputBuffer_ok hib.2).mpr
      rw [dataI32_eq hi]
      exact hall i hi
    rwa [map_dataI32] at hmap

theorem captureSettings_buffers (request : Metadata) (t : ConfigureThread) :
    (captureSettings request t).1.mNextBuffers = t.mNextBuffers := by
  rw [captureSettings]
  cases request.frameCount with
  | none => rfl
  | some _ =>
    cases request.exposureTime with
    | none => rfl
    | some _ =>
      cases request.frameDuration with
      | none => rfl
      | some _ =>
        cases request.sensitivity with
        | none => rfl
        | some _ => rfl

theorem setupCapture_success {camera : StreamCamera} {request : Metadata} {t : ConfigureThread}
    (h : (setupCapture camera request t).2 = none) : ∃ ids, request.outputStreams = some ids ∧
      List.Forall₂ (OutputBuffer camera) ids (setupCapture camera request t).1.mNextBuffers := by
  unfold setupCapture at h ⊢
  cases hids : request.outputStreams with
  | none => simp [hids, ConfigureThread.error] at h
  | some ids =>
    simp only [hids] at h ⊢
    cases hpush : pushBuffers (captureBuffer camera ids) (List.range ids.length) [] with
    | mk buffers result =>
      cases result with
      | some r => simp [hpush] at h
      | none =>
        obtain ⟨bs, rfl, hall⟩ := pushBuffers_none hpush
        refine ⟨ids, rfl, ?_⟩
        rw [captureSettings_buffers]
        exact forall₂_rounds (fun i b => captureBuffer_ok) hall

theorem setupReprocess_success {camera : StreamCamera} {request : Metadata} {t : ConfigureThread}
    (h : (setupReprocess camera request t).2 = none) : ∃ inputs ids ins outs,
      request.inputStreams = some inputs ∧ request.outputStreams = some ids ∧
      (setupReprocess camera request t).1.mNextBuffers = ins ++ outs ∧
      List.Forall₂ (InputBuffer camera) inputs ins ∧
      List.Forall₂ (fun i b => reprocessOutputBuffer camera ids i = .ok b)
        (List.range ids.length) outs := by
  unfold setupReprocess at h ⊢
  cases hinputs : request.inputStreams with
  | none => simp [hinputs, ConfigureThread.error] at h
  | some inputs =>
    simp only [hinputs] at h ⊢
    cases hin : pushBuffers (reprocessInputBuffer camera inputs) (List.range inputs.length) [] with
    | mk ins result =>
      cases result with
      | some r => simp [hin] at h
      | none =>
        cases hids : request.outputStreams with
        | none => simp [hin, hids, ConfigureThread.error] at h
        | some ids =>
          simp only [hin, hids] at h ⊢
          cases hout : pushBuffers (reprocessOutputBuffer camera ids) (List.range ids.length)
              ins with
          | mk buffers result =>
            cases result with
            | some r => simp [hout] at h
            | none =>
              cases hframe : request.frameCount with
              | none => simp [hout, hframe, ConfigureThread.error] at h
              | some frameCount =>
                obtain ⟨outs, rfl, houts⟩ := pushBuffers_none hout
                obtain ⟨_, rfl, hins⟩ := pushBuffers_none hin
                exact ⟨inputs, ids, _, outs, rfl, rfl, rfl,
                  forall₂_rounds (fun i b => reprocessInputBuffer_ok) hins, houts⟩

/-- A request that is set up is decoded as it should be if it is a capture, and otherwise
exactly when the output ids can be read off the bytes of their entry. -/
theorem setup_decoded_iff {kind : Kind} {camera : StreamCamera} {request : Metadata}
    {t : ConfigureThread} (h : (setup kind camera request t).2 = none) :
    Decoded kind camera request (setup kind camera request t).1.mNextBuffers ↔
      kind = .capture ∨ BytesAreIds (request.outputStreams.getD []) := by
  cases kind with
  | capture =>
    obtain ⟨ids, hids, hall⟩ := setupCapture_success h
    refine iff_of_true ?_ (.inl rfl)
    refine ⟨[], _, rfl, .nil, ?_⟩
    rw [hids]
    exact hall
  | reprocess =>
    obtain ⟨inputs, ids, ins, outs, hinputs, hids, hbuffers, hins, houts⟩ :=
      setupReprocess_success h
    simp only [Decoded, Kind.inputs, setup, hinputs, hids, hbuffers, Option.getD_some]
    rw [← reprocess_outputs_iff houts]
    constructor
    · intro hparts
      obtain ⟨ins', outs', happ, hins', houts'⟩ := hparts
      have hlen : ins.length = ins'.length := hins.length_eq.symm.trans hins'.length_eq
      obtain ⟨-, rfl⟩ := List.append_inj happ hlen
      exact .inr houts'
    · intro hcases
      rcases hcases with hkind | hout
      · simp at hkind
      · exact ⟨ins, outs, rfl, hins, hout⟩

def jpegStream (id : UInt32) : StreamCamera where
  mNextStreamId := id + 1
  mJpegStreamCount := 1
  mAvailableRawSizes := []
  mAvailableJpegSizes := []
  mAvailableProcessedSizes := []
  mStreams := (∅ : KeyedVector UInt32 Stream).insert id ⟨0, 640, 480, .blob, 640⟩

def reprocessRequest (outputs : List Int32) : Metadata :=
  ⟨some [], some outputs, some 7, none, none, none⟩

def idleThread : ConfigureThread := ⟨false, false, 0, 0, 0, 0, [], false, false⟩

theorem setup_decoded_single :
    Decoded .reprocess (jpegStream 5) (reprocessRequest [5])
      (setup .reprocess (jpegStream 5) (reprocessRequest [5]) idleThread).1.mNextBuffers := by
  apply (setup_decoded_iff (by decide +kernel)).mpr
  exact .inr ⟨by decide, by decide, by simp⟩

/-- The 256th stream: its buffer gets the id 0, which is that of an auxiliary buffer. -/
theorem setup_not_decoded :
    (setup .reprocess (jpegStream 256) (reprocessRequest [256]) idleThread).2 = none ∧
      (setup .reprocess (jpegStream 256) (reprocessRequest [256]) idleThread).1.mNextBuffers =
        [⟨0, 640, 480, .blob, 640⟩] ∧
      ¬ Decoded .reprocess (jpegStream 256) (reprocessRequest [256])
        (setup .reprocess (jpegStream 256) (reprocessRequest [256])
          idleThread).1.mNextBuffers := by
  have hbuffers : (setup .reprocess (jpegStream 256) (reprocessRequest [256])
      idleThread).1.mNextBuffers = [⟨0, 640, 480, .blob, 640⟩] := by decide +kernel
  refine ⟨by decide +kernel, hbuffers, ?_⟩
  rw [hbuffers]
  intro h
  obtain ⟨ins, outs, happ, hins, houts⟩ := h
  obtain rfl : ins = [] := List.forall₂_nil_left_iff.mp hins
  rw [List.nil_append] at happ
  subst happ
  cases houts with
  | cons hfirst _ =>
    obtain ⟨s, -, hb⟩ := hfirst
    have hid := (StreamBuffer.mk.inj hb).1
    revert hid
    decide

end Rpi3Device.Camera2.RequestDecoding
