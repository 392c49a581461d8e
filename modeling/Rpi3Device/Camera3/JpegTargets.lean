import Rpi3Device.TransitionSystem
import Rpi3Device.Camera3.StreamTable

/-!
# The buffers of a JPEG compression

`JpegCompressor::compress` searches the list of a compression for its destination, a
BLOB, and its source, an auxiliary or reprocess buffer. The destination and the flag that
one was found are members that keep their values between compressions. The flag for the
source is a local variable with the name of a member; `cleanUp` reads the member, which no
function writes and the constructor does not initialise.
-/

namespace Rpi3Device.Camera3.JpegTargets
open TransitionSystem

structure StreamBuffer where
  streamId : ℤ
  width : UInt32
  height : UInt32
  format : PixelFormat
  dataSpace : DataSpace
  stride : UInt32
  buffer : ℕ
  img : ℕ
deriving DecidableEq

inductive Status
  | ok
  | badValue
  | noInit
  | timedOut
deriving DecidableEq

inductive Encoding
  | ok
  | noInit
  | timedOut
deriving DecidableEq

def Encoding.status : Encoding → Status
  | .ok => .ok
  | .noInit => .noInit
  | .timedOut => .timedOut

structure JpegCompressor where
  mSynchronous : Bool
  mJpegBuffer : StreamBuffer
  mAuxBuffer : StreamBuffer
  mFoundJpeg : Bool
  mFoundAux : Bool
deriving DecidableEq

/-- The variables of the search; `foundAux` is the local one. -/
structure Search where
  mJpegBuffer : StreamBuffer
  mAuxBuffer : StreamBuffer
  mFoundJpeg : Bool
  foundAux : Bool
deriving DecidableEq

def searchLoop : List StreamBuffer → Search → Search
  | [], s => s
  | b :: bs, s =>
    let s :=
      if b.format = .blob then { s with mJpegBuffer := b, mFoundJpeg := true }
      else if b.streamId ≤ 0 then { s with mAuxBuffer := b, foundAux := true }
      else s
    if s.mFoundJpeg && s.foundAux then s else searchLoop bs s

inductive Release
  | deleted (b : StreamBuffer)
  | inputDone (b : StreamBuffer)
deriving DecidableEq

def Release.buffer : Release → StreamBuffer
  | .deleted b => b
  | .inputDone b => b

structure Job where
  buffers : List StreamBuffer
  synchronous : Bool
  encoding : Encoding

structure Outcome where
  status : Status
  targets : Option (StreamBuffer × StreamBuffer)
  released : List Release
deriving DecidableEq

def compress (c : JpegCompressor) (job : Job) :
    JpegCompressor × Status × Option (StreamBuffer × StreamBuffer) :=
  let s := searchLoop job.buffers ⟨c.mJpegBuffer, c.mAuxBuffer, c.mFoundJpeg, false⟩
  let c := { c with
    mJpegBuffer := s.mJpegBuffer, mAuxBuffer := s.mAuxBuffer, mFoundJpeg := s.mFoundJpeg }
  if !s.mFoundJpeg || !s.foundAux then (c, .badValue, none)
  else (c, job.encoding.status, some (s.mJpegBuffer, s.mAuxBuffer))

def cleanUp (c : JpegCompressor) : List Release :=
  if c.mFoundAux then
    if c.mAuxBuffer.streamId = 0 then [.deleted c.mAuxBuffer]
    else if c.mSynchronous = false then [.inputDone c.mAuxBuffer]
    else []
  else []

def runJob (c : JpegCompressor) (job : Job) : JpegCompressor × Outcome :=
  let r := compress { c with mSynchronous := job.synchronous } job
  (r.1, ⟨r.2.1, r.2.2, cleanUp r.1⟩)

def compressor : Machine JpegCompressor Job Outcome where
  step c job := some ((runJob c job).1, [(runJob c job).2])

def isBlob (b : StreamBuffer) : Bool := b.format = .blob

def isJpeg (b : StreamBuffer) : Bool := b.format = .blob ∧ b.dataSpace ≠ .depth

/-- An auxiliary or reprocess buffer. -/
def isSource (b : StreamBuffer) : Bool := b.format ≠ .blob ∧ b.streamId ≤ 0

def before (p : StreamBuffer → Bool) (bs : List StreamBuffer) : List StreamBuffer :=
  bs.takeWhile fun b => !p b

def lastOf (p : StreamBuffer → Bool) (bs : List StreamBuffer) : Option StreamBuffer :=
  (bs.filter p).getLast?

/-- The compression uses the destination and the source of its list, it fails if one of them is
missing, and the source is released once. -/
def TargetsRight (job : Job) (o : Outcome) : Prop :=
  (match job.buffers.find? isJpeg, job.buffers.find? isSource with
    | some jpeg, some source =>
      o.status = job.encoding.status ∧ o.targets = some (jpeg, source)
    | _, _ => o.status = .badValue ∧ o.targets = none) ∧
  o.released.map Release.buffer = (job.buffers.find? isSource).toList

/-- The last BLOB before the source is the JPEG buffer. Without a BLOB before the source, the
destination of an earlier compression has to be the same buffer; on the first search the
first BLOB behind the source counts, and then the last source before it. -/
def DestinationFits (c : JpegCompressor) (bs : List StreamBuffer) (jpeg source : StreamBuffer) :
    Prop :=
  match lastOf isBlob (before isSource bs) with
  | some b => b = jpeg
  | none =>
    if c.mFoundJpeg then c.mJpegBuffer = jpeg
    else bs.find? isBlob = some jpeg ∧ lastOf isSource (before isBlob bs) = some source

def ReleaseFits (c : JpegCompressor) (job : Job) (source : StreamBuffer) : Prop :=
  c.mFoundAux = true ∧ (source.streamId = 0 ∨ job.synchronous = false)

def JobFits (c : JpegCompressor) (job : Job) : Prop :=
  match job.buffers.find? isSource, job.buffers.find? isJpeg with
  | none, _ => c.mFoundAux = false ∨ c.mAuxBuffer.streamId ≠ 0 ∧ job.synchronous = true
  | some source, none =>
    c.mFoundJpeg = false ∧ job.buffers.find? isBlob = none ∧
      lastOf isSource job.buffers = some source ∧ ReleaseFits c job source
  | some source, some jpeg =>
    DestinationFits c job.buffers jpeg source ∧ ReleaseFits c job source

theorem lastOf_cons (p : StreamBuffer → Bool) (b : StreamBuffer) (bs : List StreamBuffer) :
    lastOf p (b :: bs) = (lastOf p bs).or (if p b then some b else none) := by
  unfold lastOf
  by_cases h : p b = true
  · rw [List.filter_cons_of_pos h, List.getLast?_cons, if_pos h]
    cases (bs.filter p).getLast? <;> rfl
  · rw [List.filter_cons_of_neg h, if_neg h, Option.or_none]

theorem isBlob_iff {b : StreamBuffer} : isBlob b = true ↔ b.format = .blob := by
  simp [isBlob]

theorem isSource_iff {b : StreamBuffer} :
    isSource b = true ↔ b.format ≠ .blob ∧ b.streamId ≤ 0 := by
  simp [isSource]

def Search.note (s : Search) (b : StreamBuffer) : Search :=
  if isBlob b then { s with mJpegBuffer := b, mFoundJpeg := true }
  else if isSource b then { s with mAuxBuffer := b, foundAux := true }
  else s

theorem searchLoop_cons (b : StreamBuffer) (bs : List StreamBuffer) (s : Search) :
    searchLoop (b :: bs) s = if (s.note b).mFoundJpeg && (s.note b).foundAux then s.note b
      else searchLoop bs (s.note b) := by
  have hnote : s.note b = if b.format = .blob then { s with mJpegBuffer := b, mFoundJpeg := true }
      else if b.streamId ≤ 0 then { s with mAuxBuffer := b, foundAux := true } else s := by
    by_cases hblob : b.format = .blob
    · rw [Search.note, if_pos (isBlob_iff.mpr hblob), if_pos hblob]
    · rw [Search.note, if_neg (mt isBlob_iff.mp hblob), if_neg hblob]
      by_cases hid : b.streamId ≤ 0
      · rw [if_pos (isSource_iff.mpr ⟨hblob, hid⟩), if_pos hid]
      · rw [if_neg fun h => hid (isSource_iff.mp h).2, if_neg hid]
  rw [searchLoop, ← hnote]

theorem note_blob (s : Search) {b : StreamBuffer} (h : isBlob b = true) :
    s.note b = { s with mJpegBuffer := b, mFoundJpeg := true } := by
  rw [Search.note, if_pos h]

theorem note_source (s : Search) {b : StreamBuffer} (h : isSource b = true) :
    s.note b = { s with mAuxBuffer := b, foundAux := true } := by
  have hblob : ¬ isBlob b = true := fun hb => (isSource_iff.mp h).1 (isBlob_iff.mp hb)
  rw [Search.note, if_neg hblob, if_pos h]

theorem note_other (s : Search) {b : StreamBuffer} (hblob : ¬ isBlob b = true)
    (hsource : ¬ isSource b = true) : s.note b = s := by
  rw [Search.note, if_neg hblob, if_neg hsource]

theorem isBlob_of_isSource {b : StreamBuffer} (h : isSource b = true) : isBlob b = false := by
  simpa [isBlob] using (isSource_iff.mp h).1

theorem searchLoop_no_source {bs : List StreamBuffer} (h : bs.find? isSource = none)
    (jpeg aux : StreamBuffer) (found : Bool) :
    ∃ jpeg' found', searchLoop bs ⟨jpeg, aux, found, false⟩ = ⟨jpeg', aux, found', false⟩ := by
  induction bs generalizing jpeg found with
  | nil => exact ⟨jpeg, found, rfl⟩
  | cons b bs ih =>
    rw [List.find?_eq_none] at h
    have hsource : ¬ isSource b = true := h b List.mem_cons_self
    have hrest : bs.find? isSource = none :=
      List.find?_eq_none.mpr fun b' hb' => h b' (List.mem_cons_of_mem b hb')
    by_cases hblob : isBlob b = true
    · rw [searchLoop_cons, note_blob _ hblob, if_neg (by simp)]
      exact ih hrest b true
    · rw [searchLoop_cons, note_other _ hblob hsource, if_neg (by simp)]
      exact ih hrest jpeg found

theorem searchLoop_source_first (bs : List StreamBuffer) (jpeg aux : StreamBuffer) :
    searchLoop bs ⟨jpeg, aux, false, true⟩ =
      match bs.find? isBlob with
      | some b => ⟨b, (lastOf isSource (before isBlob bs)).getD aux, true, true⟩
      | none => ⟨jpeg, (lastOf isSource bs).getD aux, false, true⟩ := by
  induction bs generalizing aux with
  | nil => rfl
  | cons b bs ih =>
    by_cases hblob : isBlob b = true
    · rw [searchLoop_cons, note_blob _ hblob, List.find?_cons_of_pos hblob, before,
        List.takeWhile_cons_of_neg (by simp [hblob])]
      rfl
    · have hbefore : before isBlob (b :: bs) = b :: before isBlob bs :=
        List.takeWhile_cons_of_pos (by simpa using hblob)
      rw [searchLoop_cons, List.find?_cons_of_neg hblob, hbefore, lastOf_cons, lastOf_cons]
      by_cases hsource : isSource b = true
      · rw [note_source _ hsource, if_neg (by simp), if_pos hsource, ih b]
        cases bs.find? isBlob with
        | none => cases lastOf isSource bs <;> rfl
        | some j => cases lastOf isSource (before isBlob bs) <;> rfl
      · rw [note_other _ hblob hsource, if_neg (by simp), if_neg hsource, ih aux,
          Option.or_none, Option.or_none]

theorem searchLoop_source {bs : List StreamBuffer} {source : StreamBuffer}
    (h : bs.find? isSource = some source) (jpeg aux : StreamBuffer) (found : Bool) :
    searchLoop bs ⟨jpeg, aux, found, false⟩ =
      match lastOf isBlob (before isSource bs) with
      | some b => ⟨b, source, true, true⟩
      | none =>
        if found then ⟨jpeg, source, true, true⟩
        else match bs.find? isBlob with
          | some b => ⟨b, (lastOf isSource (before isBlob bs)).getD aux, true, true⟩
          | none => ⟨jpeg, (lastOf isSource bs).getD aux, false, true⟩ := by
  induction bs generalizing jpeg found with
  | nil => simp at h
  | cons b bs ih =>
    by_cases hsource : isSource b = true
    · have hblob : ¬ isBlob b = true := by simp [isBlob_of_isSource hsource]
      rw [List.find?_cons_of_pos hsource, Option.some.injEq] at h
      subst h
      have hbefore : before isSource (b :: bs) = [] :=
        List.takeWhile_cons_of_neg (by simp [hsource])
      have hbeforeBlob : before isBlob (b :: bs) = b :: before isBlob bs :=
        List.takeWhile_cons_of_pos (by simpa using hblob)
      rw [searchLoop_cons, note_source _ hsource, hbefore, List.find?_cons_of_neg hblob,
        hbeforeBlob, lastOf_cons, lastOf_cons, if_pos hsource]
      cases found with
      | true => rfl
      | false =>
        rw [if_neg (by simp), searchLoop_source_first]
        cases bs.find? isBlob with
        | none => cases lastOf isSource bs <;> rfl
        | some j => cases lastOf isSource (before isBlob bs) <;> rfl
    · have hbefore : before isSource (b :: bs) = b :: before isSource bs :=
        List.takeWhile_cons_of_pos (by simpa using hsource)
      rw [List.find?_cons_of_neg hsource] at h
      rw [searchLoop_cons, hbefore, lastOf_cons]
      by_cases hblob : isBlob b = true
      · rw [note_blob _ hblob, if_neg (by simp), ih h b true, if_pos hblob]
        cases lastOf isBlob (before isSource bs) <;> rfl
      · have hbeforeBlob : before isBlob (b :: bs) = b :: before isBlob bs :=
          List.takeWhile_cons_of_pos (by simpa using hblob)
        rw [note_other _ hblob hsource, if_neg (by simp), ih h jpeg found, if_neg hblob,
          Option.or_none, List.find?_cons_of_neg hblob, hbeforeBlob, lastOf_cons, lastOf_cons,
          if_neg hsource, Option.or_none, Option.or_none]

theorem lastOf_mem {p : StreamBuffer → Bool} {bs : List StreamBuffer} {b : StreamBuffer}
    (h : lastOf p bs = some b) : b ∈ bs ∧ p b = true :=
  List.mem_filter.mp (List.mem_of_getLast? h)

theorem lastOf_of_mem {p : StreamBuffer → Bool} {bs : List StreamBuffer} {b : StreamBuffer}
    (hb : b ∈ bs) (hp : p b = true) : ∃ b', lastOf p bs = some b' := by
  have hne : bs.filter p ≠ [] := List.ne_nil_of_mem (List.mem_filter.mpr ⟨hb, hp⟩)
  exact ⟨_, List.getLast?_eq_some_getLast hne⟩

theorem lastOf_source_before_blob {bs : List StreamBuffer} {source : StreamBuffer}
    (h : bs.find? isSource = some source) (hnone : lastOf isBlob (before isSource bs) = none) :
    ∃ b, lastOf isSource (before isBlob bs) = some b := by
  induction bs with
  | nil => simp at h
  | cons b bs ih =>
    by_cases hsource : isSource b = true
    · have hbefore : before isBlob (b :: bs) = b :: before isBlob bs :=
        List.takeWhile_cons_of_pos (by simp [isBlob_of_isSource hsource])
      rw [hbefore]
      exact lastOf_of_mem List.mem_cons_self hsource
    · have hbefore : before isSource (b :: bs) = b :: before isSource bs :=
        List.takeWhile_cons_of_pos (by simpa using hsource)
      rw [hbefore, lastOf_cons, Option.or_eq_none_iff] at hnone
      obtain ⟨hrest, hhead⟩ := hnone
      have hblob : ¬ isBlob b = true := by
        intro hblob
        simp [hblob] at hhead
      have hbeforeBlob : before isBlob (b :: bs) = b :: before isBlob bs :=
        List.takeWhile_cons_of_pos (by simpa using hblob)
      rw [List.find?_cons_of_neg hsource] at h
      rw [hbeforeBlob, lastOf_cons, if_neg hsource, Option.or_none]
      exact ih h hrest

theorem isBlob_of_isJpeg {b : StreamBuffer} (h : isJpeg b = true) : isBlob b = true := by
  simp only [isJpeg, decide_eq_true_eq] at h
  exact isBlob_iff.mpr h.1

theorem find?_isJpeg_none {bs : List StreamBuffer} (h : bs.find? isBlob = none) :
    bs.find? isJpeg = none := by
  rw [List.find?_eq_none] at h ⊢
  exact fun b hb hj => h b hb (isBlob_of_isJpeg hj)

theorem cleanUp_nil (c : JpegCompressor) : (cleanUp c).map Release.buffer = [] ↔
    c.mFoundAux = false ∨ c.mAuxBuffer.streamId ≠ 0 ∧ c.mSynchronous = true := by
  unfold cleanUp
  by_cases hfound : c.mFoundAux = true
  · by_cases hid : c.mAuxBuffer.streamId = 0
    · simp [hfound, hid]
    · by_cases hsync : c.mSynchronous = false
      · simp [hfound, hid, hsync]
      · simp [hfound, hid, hsync]
  · simp [hfound]

theorem cleanUp_single (c : JpegCompressor) (b : StreamBuffer) :
    (cleanUp c).map Release.buffer = [b] ↔ c.mFoundAux = true ∧ c.mAuxBuffer = b ∧
      (c.mAuxBuffer.streamId = 0 ∨ c.mSynchronous = false) := by
  unfold cleanUp
  by_cases hfound : c.mFoundAux = true
  · by_cases hid : c.mAuxBuffer.streamId = 0
    · simp [hfound, hid, Release.buffer]
    · by_cases hsync : c.mSynchronous = false
      · simp [hfound, hid, hsync, Release.buffer]
      · simp [hfound, hid, hsync]
  · simp [hfound]

def JpegCompressor.after (c : JpegCompressor) (job : Job) (s : Search) : JpegCompressor :=
  { c with
    mSynchronous := job.synchronous, mJpegBuffer := s.mJpegBuffer, mAuxBuffer := s.mAuxBuffer
    mFoundJpeg := s.mFoundJpeg }

theorem runJob_eq {c : JpegCompressor} {job : Job} {s : Search}
    (h : searchLoop job.buffers ⟨c.mJpegBuffer, c.mAuxBuffer, c.mFoundJpeg, false⟩ = s) :
    runJob c job = (c.after job s,
      if s.mFoundJpeg = true ∧ s.foundAux = true then
        ⟨job.encoding.status, some (s.mJpegBuffer, s.mAuxBuffer), cleanUp (c.after job s)⟩
      else ⟨.badValue, none, cleanUp (c.after job s)⟩) := by
  subst h
  simp only [runJob, compress, JpegCompressor.after]
  cases (searchLoop job.buffers ⟨c.mJpegBuffer, c.mAuxBuffer, c.mFoundJpeg, false⟩).mFoundJpeg
  · simp
  · cases (searchLoop job.buffers ⟨c.mJpegBuffer, c.mAuxBuffer, c.mFoundJpeg, false⟩).foundAux
    · simp
    · simp

theorem encoding_status_ne (e : Encoding) : e.status ≠ .badValue := by
  cases e <;> simp [Encoding.status]

theorem targetsRight_found {c : JpegCompressor} {job : Job} {dest used source : StreamBuffer}
    (h : searchLoop job.buffers ⟨c.mJpegBuffer, c.mAuxBuffer, c.mFoundJpeg, false⟩ =
      ⟨dest, used, true, true⟩) (hsource : job.buffers.find? isSource = some source) :
    TargetsRight job (runJob c job).2 ↔ job.buffers.find? isJpeg = some dest ∧ used = source ∧
      ReleaseFits c job source := by
  rw [runJob_eq h, if_pos ⟨rfl, rfl⟩, TargetsRight, hsource, Option.toList_some, cleanUp_single]
  cases job.buffers.find? isJpeg with
  | none => simp [encoding_status_ne]
  | some jpeg =>
    simp only [JpegCompressor.after, ReleaseFits, Option.some.injEq, Prod.mk.injEq]
    constructor
    · intro hright
      obtain ⟨⟨-, rfl, rfl⟩, hfound, -, hrelease⟩ := hright
      exact ⟨rfl, rfl, hfound, hrelease⟩
    · intro hfits
      obtain ⟨rfl, rfl, hfound, hrelease⟩ := hfits
      exact ⟨⟨trivial, rfl, rfl⟩, hfound, rfl, hrelease⟩

theorem targetsRight_no_blob {c : JpegCompressor} {job : Job} {dest used source : StreamBuffer}
    (h : searchLoop job.buffers ⟨c.mJpegBuffer, c.mAuxBuffer, c.mFoundJpeg, false⟩ =
      ⟨dest, used, false, true⟩) (hsource : job.buffers.find? isSource = some source)
    (hjpeg : job.buffers.find? isJpeg = none) :
    TargetsRight job (runJob c job).2 ↔ used = source ∧ ReleaseFits c job source := by
  rw [runJob_eq h, if_neg (by simp), TargetsRight, hsource, hjpeg, Option.toList_some,
    cleanUp_single]
  simp only [JpegCompressor.after, ReleaseFits, true_and]
  constructor
  · intro hright
    obtain ⟨hflag, rfl, hrelease⟩ := hright
    exact ⟨rfl, hflag, hrelease⟩
  · intro hfits
    obtain ⟨rfl, hflag, hrelease⟩ := hfits
    exact ⟨hflag, rfl, hrelease⟩

theorem runJob_targets_iff (c : JpegCompressor) (job : Job) :
    TargetsRight job (runJob c job).2 ↔ JobFits c job := by
  unfold JobFits
  cases hsource : job.buffers.find? isSource with
  | none =>
    obtain ⟨jpeg', found', hsearch⟩ :=
      searchLoop_no_source hsource c.mJpegBuffer c.mAuxBuffer c.mFoundJpeg
    rw [runJob_eq hsearch, if_neg (by simp), TargetsRight, hsource, Option.toList_none,
      cleanUp_nil]
    cases job.buffers.find? isJpeg <;> simp [JpegCompressor.after]
  | some source =>
    have hsearch := searchLoop_source hsource c.mJpegBuffer c.mAuxBuffer c.mFoundJpeg
    cases hlast : lastOf isBlob (before isSource job.buffers) with
    | some b =>
      rw [hlast] at hsearch
      rw [targetsRight_found hsearch hsource]
      have hb := lastOf_mem hlast
      have hmem : b ∈ job.buffers := (List.takeWhile_sublist _).subset hb.1
      have hblob : job.buffers.find? isBlob ≠ none :=
        fun hnone => List.find?_eq_none.mp hnone b hmem hb.2
      cases job.buffers.find? isJpeg with
      | none => simp [hblob]
      | some jpeg =>
        simp only [DestinationFits, hlast, Option.some.injEq, true_and, eq_comm]
    | none =>
      rw [hlast] at hsearch
      cases hfound : c.mFoundJpeg with
      | true =>
        simp only [hfound, if_true] at hsearch
        rw [targetsRight_found (by rw [hfound]; exact hsearch) hsource]
        cases job.buffers.find? isJpeg with
        | none => simp
        | some jpeg =>
          simp only [DestinationFits, hlast, hfound, if_true, Option.some.injEq, true_and, eq_comm]
      | false =>
        simp only [hfound, Bool.false_eq_true, if_false] at hsearch
        cases hblob : job.buffers.find? isBlob with
        | some b =>
          rw [hblob] at hsearch
          rw [targetsRight_found (by rw [hfound]; exact hsearch) hsource]
          obtain ⟨used, hused⟩ := lastOf_source_before_blob hsource hlast
          cases job.buffers.find? isJpeg with
          | none => simp
          | some jpeg =>
            simp only [DestinationFits, hlast, hfound, hblob, hused, Option.getD_some,
              Bool.false_eq_true, if_false, Option.some.injEq, and_assoc, eq_comm]
        | none =>
          obtain ⟨used, hused⟩ := lastOf_of_mem (List.mem_of_find?_eq_some hsource)
            (List.find?_some hsource)
          rw [hblob, hused, Option.getD_some] at hsearch
          rw [targetsRight_no_blob (by rw [hfound]; exact hsearch) hsource
            (find?_isJpeg_none hblob), find?_isJpeg_none hblob]
          simp only [hused, Option.some.injEq, true_and]

/-- Every compression of a sequence is right exactly when each of them fits the members it
finds. -/
theorem compressions_right_iff (c : JpegCompressor) (jobs : List Job) :
    compressor.Along (fun c job => TargetsRight job (runJob c job).2) c jobs ↔
      compressor.Along JobFits c jobs := by
  apply Machine.along_iff (P := fun _ => True) _ _ trivial
  · intro c job _
    exact runJob_targets_iff c job
  · intro c job c' es _ _ _
    exact trivial

def jpegBuffer (n : ℕ) : StreamBuffer := ⟨1, 640, 480, .blob, .other 0, 640, n, n⟩

def auxBuffer (n : ℕ) : StreamBuffer := ⟨0, 640, 480, .other 3, .other 0, 640, 0, n⟩

/-- The second list names its source first: the search stops there and the image goes to the
destination of the first compression. With the member flag cleared no source is freed. -/
theorem compressions_mixed_up :
    let first : Job := ⟨[jpegBuffer 1, auxBuffer 2], false, .ok⟩
    let second : Job := ⟨[auxBuffer 3, jpegBuffer 4], false, .ok⟩
    let set : JpegCompressor := ⟨false, jpegBuffer 0, auxBuffer 0, false, true⟩
    let cleared : JpegCompressor := ⟨false, jpegBuffer 0, auxBuffer 0, false, false⟩
    (runJob (runJob set first).1 second).2 =
        ⟨.ok, some (jpegBuffer 1, auxBuffer 3), [.deleted (auxBuffer 3)]⟩ ∧
      ¬ compressor.Along (fun c job => TargetsRight job (runJob c job).2) set [first, second] ∧
      (runJob cleared first).2 = ⟨.ok, some (jpegBuffer 1, auxBuffer 2), []⟩ ∧
      ¬ compressor.Along (fun c job => TargetsRight job (runJob c job).2) cleared [first] := by
  intro first second set cleared
  have hsecond : (runJob (runJob set first).1 second).2 =
      ⟨.ok, some (jpegBuffer 1, auxBuffer 3), [.deleted (auxBuffer 3)]⟩ := by decide
  have hfirst : (runJob cleared first).2 = ⟨.ok, some (jpegBuffer 1, auxBuffer 2), []⟩ := by decide
  refine ⟨hsecond, fun hright => ?_, hfirst, fun hright => ?_⟩
  · have hjob : TargetsRight second (runJob (runJob set first).1 second).2 :=
      (hright.2 _ _ rfl).1
    rw [hsecond] at hjob
    have htargets : some (jpegBuffer 1, auxBuffer 3) = some (jpegBuffer 4, auxBuffer 3) := hjob.1.2
    revert htargets
    decide
  · have hjob : TargetsRight first (runJob cleared first).2 := hright.1
    rw [hfirst] at hjob
    have hreleased : [] = [auxBuffer 2] := hjob.2
    simp at hreleased

end Rpi3Device.Camera3.JpegTargets
