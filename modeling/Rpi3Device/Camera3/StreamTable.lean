import Mathlib.Tactic
import Rpi3Device.TransitionSystem

/-!
# The stream table of the fake HAL3 camera

`configureStreams` marks the streams it knows as dead, revives or registers the
ones listed and reaps the rest. The stream structures belong to the framework,
which names them by address and may rewrite everything in them but `priv`
between calls. The private records are allocated on a heap of their own.
-/

namespace Rpi3Device.Camera3
open TransitionSystem

inductive CameraStatus where
  | error
  | closed
  | opened
  | ready
  | active
deriving DecidableEq

inductive StatusT where
  | ok
  | noInit
  | badValue
  | invalidOperation
  | timedOut
  | nameNotFound
deriving DecidableEq

inductive StreamType where
  | output
  | input
  | bidirectional
  | other (code : Int)
deriving DecidableEq

inductive PixelFormat where
  | raw16
  | blob
  | rgba8888
  | implementationDefined
  | yCbCr420_888
  | y16
  | other (code : Int)
deriving DecidableEq

inductive DataSpace where
  | depth
  | other (code : Int)
deriving DecidableEq

def kAvailableFormats : List PixelFormat :=
  [.raw16, .blob, .rgba8888, .implementationDefined, .yCbCr420_888, .y16]

def kMaxBufferCount : UInt32 := 4
def GRALLOC_USAGE_HW_CAMERA_WRITE : UInt32 := 0x00020000
def GRALLOC_USAGE_HW_CAMERA_READ : UInt32 := 0x00040000

structure Stream where
  streamType : StreamType
  width : UInt32
  height : UInt32
  format : PixelFormat
  dataSpace : DataSpace
  usage : UInt32
  maxBuffers : UInt32
  priv : Option Nat
deriving DecidableEq

structure PrivateStreamInfo where
  alive : Bool
deriving DecidableEq

inductive MetadataTag where
  | controlMode
  | controlSceneMode
  | controlAeMode
  | controlAeLock
  | controlAePrecaptureTrigger
  | controlAeState
  | controlAfMode
  | controlAfTrigger
  | controlAfState
  | controlAwbMode
  | controlAwbLock
  | controlAwbState
  | lensState
  | sensorExposureTime
  | sensorFrameDuration
  | sensorSensitivity
  | other (code : UInt32)
deriving DecidableEq

/-- The entries of a `CameraMetadata`; each carries the first value of its tag. -/
abbrev CameraMetadata := List (MetadataTag × Int64)

structure StreamTable where
  streams : Nat → Stream
  infos : Nat → Option PrivateStreamInfo
  nextInfo : Nat
  mStreams : List Nat
  mInputStream : Option Nat
  mPrevSettings : CameraMetadata

/-- A `camera3_stream_configuration`; both the array and its entries may be NULL. -/
structure StreamConfiguration where
  streams : Option (List (Option Nat))

def StreamType.isInput : StreamType → Bool
  | .input => true
  | .bidirectional => true
  | _ => false

def checkStreams (streams : Nat → Stream) : List (Option Nat) → Option Nat → Option (Option Nat)
  | [], inputStream => some inputStream
  | none :: _, _ => none
  | some p :: rest, inputStream =>
    if (streams p).streamType.isInput = true ∧ inputStream ≠ none then none
    else if (streams p).format ∉ kAvailableFormats then none
    else checkStreams streams rest
      (if (streams p).streamType.isInput = true then some p else inputStream)

def setAlive (t : StreamTable) (p : Nat) (alive : Bool) : StreamTable :=
  match (t.streams p).priv with
  | none => t
  | some q => { t with infos := Function.update t.infos q (some ⟨alive⟩) }

def markDead (t : StreamTable) : StreamTable :=
  t.mStreams.foldl (fun t p => setAlive t p false) t

def usageOf (streamType : StreamType) (usage : UInt32) : UInt32 :=
  match streamType with
  | .output => GRALLOC_USAGE_HW_CAMERA_WRITE
  | .input => GRALLOC_USAGE_HW_CAMERA_READ
  | .bidirectional => GRALLOC_USAGE_HW_CAMERA_READ ||| GRALLOC_USAGE_HW_CAMERA_WRITE
  | .other _ => usage

/-- A stream without private record gets one and is registered; the others are revived. -/
def registerStream (t : StreamTable) (p : Nat) : StreamTable :=
  match (t.streams p).priv with
  | none => { t with
      streams := Function.update t.streams p
        { t.streams p with maxBuffers := kMaxBufferCount, priv := some t.nextInfo }
      infos := Function.update t.infos t.nextInfo (some ⟨true⟩)
      nextInfo := t.nextInfo + 1
      mStreams := t.mStreams ++ [p] }
  | some _ => setAlive t p true

def updateUsage (t : StreamTable) (p : Nat) : StreamTable :=
  { t with streams := Function.update t.streams p { t.streams p with
      maxBuffers := kMaxBufferCount
      usage := usageOf (t.streams p).streamType (t.streams p).usage } }

def addStream (t : StreamTable) (p : Nat) : StreamTable :=
  updateUsage (registerStream t p) p

def isAlive (t : StreamTable) (p : Nat) : Bool :=
  ((t.streams p).priv.bind t.infos).any PrivateStreamInfo.alive

def dropInfo (t : StreamTable) (p : Nat) : StreamTable :=
  { t with
    streams := Function.update t.streams p { t.streams p with priv := none }
    infos := match (t.streams p).priv with
      | none => t.infos
      | some q => Function.update t.infos q none }

def reapFrom (t : StreamTable) : List Nat → StreamTable
  | [] => { t with mStreams := [] }
  | p :: rest =>
    if isAlive t p = true then
      let t' := reapFrom t rest
      { t' with mStreams := p :: t'.mStreams }
    else reapFrom (dropInfo t p) rest

def reapDead (t : StreamTable) : StreamTable := reapFrom t t.mStreams

def listed (streams : List (Option Nat)) : List Nat := streams.filterMap id

def configureStreams (t : StreamTable) (mStatus : CameraStatus)
    (streamList : Option StreamConfiguration) : StreamTable × StatusT :=
  if mStatus ≠ .opened ∧ mStatus ≠ .ready then (t, .noInit)
  else
    match streamList with
    | none => (t, .badValue)
    | some ⟨none⟩ => (t, .badValue)
    | some ⟨some streams⟩ =>
      if streams.length < 1 then (t, .badValue)
      else
        match checkStreams t.streams streams none with
        | none => (t, .badValue)
        | some inputStream =>
          let t := { t with mInputStream := inputStream }
          let t := markDead t
          let t := (listed streams).foldl addStream t
          let t := reapDead t
          ({ t with mPrevSettings := [] }, .ok)

/-- The registered streams are the ones with a private record, and no two share a record. -/
structure WellFormed (t : StreamTable) : Prop where
  priv_iff : ∀ p, (t.streams p).priv ≠ none ↔ p ∈ t.mStreams
  nodup : t.mStreams.Nodup
  inj : ∀ {p p' q}, (t.streams p).priv = some q → (t.streams p').priv = some q → p = p'
  fresh : ∀ {p q}, (t.streams p).priv = some q → q < t.nextInfo

theorem WellFormed.congr {t t' : StreamTable} (wf : WellFormed t)
    (hpriv : ∀ p, (t'.streams p).priv = (t.streams p).priv) (hlist : t'.mStreams = t.mStreams)
    (hnext : t'.nextInfo = t.nextInfo) : WellFormed t' := by
  constructor
  · intro p
    rw [hpriv, hlist]
    exact wf.priv_iff p
  · rw [hlist]
    exact wf.nodup
  · intro p p' q h h'
    rw [hpriv] at h h'
    exact wf.inj h h'
  · intro p q h
    rw [hpriv] at h
    rw [hnext]
    exact wf.fresh h

theorem isAlive_of_priv_none {t : StreamTable} {p : Nat} (h : (t.streams p).priv = none) :
    isAlive t p = false := by
  simp [isAlive, h]

theorem isAlive_congr {t t' : StreamTable} {p : Nat}
    (hpriv : (t'.streams p).priv = (t.streams p).priv) (hinfos : t'.infos = t.infos) :
    isAlive t' p = isAlive t p := by
  rw [isAlive, isAlive, hpriv, hinfos]

@[simp] theorem setAlive_streams (t : StreamTable) (p : Nat) (b : Bool) :
    (setAlive t p b).streams = t.streams := by
  unfold setAlive
  split <;> rfl

@[simp] theorem setAlive_mStreams (t : StreamTable) (p : Nat) (b : Bool) :
    (setAlive t p b).mStreams = t.mStreams := by
  unfold setAlive
  split <;> rfl

@[simp] theorem setAlive_nextInfo (t : StreamTable) (p : Nat) (b : Bool) :
    (setAlive t p b).nextInfo = t.nextInfo := by
  unfold setAlive
  split <;> rfl

@[simp] theorem setAlive_mInputStream (t : StreamTable) (p : Nat) (b : Bool) :
    (setAlive t p b).mInputStream = t.mInputStream := by
  unfold setAlive
  split <;> rfl

theorem WellFormed.setAlive {t : StreamTable} (wf : WellFormed t) (p : Nat) (b : Bool) :
    WellFormed (setAlive t p b) :=
  wf.congr (by simp) (by simp) (by simp)

theorem isAlive_setAlive {t : StreamTable} (wf : WellFormed t) {p : Nat}
    (hp : (t.streams p).priv ≠ none) (b : Bool) (p' : Nat) :
    isAlive (setAlive t p b) p' = if p' = p then b else isAlive t p' := by
  obtain ⟨q, hq⟩ := Option.ne_none_iff_exists'.mp hp
  by_cases hpp : p' = p
  · subst hpp
    simp [isAlive, setAlive, hq]
  · rw [if_neg hpp]
    cases hq' : (t.streams p').priv with
    | none => simp [isAlive, hq']
    | some q' =>
      have hne : q' ≠ q := by
        intro heq
        obtain rfl := heq
        exact hpp (wf.inj hq' hq)
      simp [isAlive, setAlive, hq, hq', Function.update_of_ne hne]

theorem setAlive_foldl {t : StreamTable} (wf : WellFormed t) (ps : List Nat)
    (hps : ∀ p ∈ ps, (t.streams p).priv ≠ none) :
    (ps.foldl (fun t p => setAlive t p false) t).streams = t.streams ∧
    (ps.foldl (fun t p => setAlive t p false) t).mStreams = t.mStreams ∧
    (ps.foldl (fun t p => setAlive t p false) t).nextInfo = t.nextInfo ∧
    (ps.foldl (fun t p => setAlive t p false) t).mInputStream = t.mInputStream ∧
    ∀ p, isAlive (ps.foldl (fun t p => setAlive t p false) t) p =
      if p ∈ ps then false else isAlive t p := by
  induction ps generalizing t with
  | nil => simp
  | cons p ps ih =>
    have hp := hps p List.mem_cons_self
    obtain ⟨hs, hl, hn, hi, ha⟩ := ih (wf.setAlive p false) (by
      intro p' hp'
      rw [setAlive_streams]
      exact hps p' (List.mem_cons_of_mem _ hp'))
    refine ⟨by simpa using hs, by simpa using hl, by simpa using hn, by simpa using hi, ?_⟩
    intro p'
    rw [List.foldl_cons, ha, isAlive_setAlive wf hp]
    by_cases h : p' = p
    · simp [h]
    · simp [h]

theorem markDead_spec {t : StreamTable} (wf : WellFormed t) :
    WellFormed (markDead t) ∧ (markDead t).streams = t.streams ∧
    (markDead t).mStreams = t.mStreams ∧ (markDead t).mInputStream = t.mInputStream ∧
    ∀ p, isAlive (markDead t) p = false := by
  obtain ⟨hs, hl, hn, hi, ha⟩ := setAlive_foldl wf t.mStreams fun p hp => (wf.priv_iff p).mpr hp
  refine ⟨wf.congr (fun p => by rw [markDead, hs]) hl hn, hs, hl, hi, fun p => ?_⟩
  rw [markDead, ha]
  split
  · rfl
  · rename_i hp
    exact isAlive_of_priv_none (by simpa using mt (wf.priv_iff p).mp hp)

theorem updateUsage_priv (t : StreamTable) (p p' : Nat) :
    ((updateUsage t p).streams p').priv = (t.streams p').priv := by
  by_cases h : p' = p
  · subst h
    simp [updateUsage]
  · simp [updateUsage, Function.update_of_ne h]

theorem registerStream_new_priv {t : StreamTable} {p : Nat} (hp : (t.streams p).priv = none)
    (p' : Nat) : ((registerStream t p).streams p').priv =
      if p' = p then some t.nextInfo else (t.streams p').priv := by
  simp only [registerStream, hp]
  by_cases h : p' = p
  · subst h
    simp
  · simp [h]

theorem registerStream_new_isAlive {t : StreamTable} (wf : WellFormed t) {p : Nat}
    (hp : (t.streams p).priv = none) (p' : Nat) :
    isAlive (registerStream t p) p' = if p' = p then true else isAlive t p' := by
  by_cases h : p' = p
  · subst h
    simp [isAlive, registerStream, hp]
  · rw [if_neg h]
    cases hq : (t.streams p').priv with
    | none => rw [isAlive_of_priv_none hq, isAlive_of_priv_none (by
        rw [registerStream_new_priv hp, if_neg h, hq])]
    | some q =>
      have hne : q ≠ t.nextInfo := (wf.fresh hq).ne
      simp [isAlive, registerStream, hp, Function.update_of_ne h, hq, Function.update_of_ne hne]

theorem WellFormed.registerStream_new {t : StreamTable} (wf : WellFormed t) {p : Nat}
    (hp : (t.streams p).priv = none) : WellFormed (registerStream t p) := by
  have hpriv := registerStream_new_priv hp
  have hlist : (registerStream t p).mStreams = t.mStreams ++ [p] := by simp [registerStream, hp]
  have hnext : (registerStream t p).nextInfo = t.nextInfo + 1 := by simp [registerStream, hp]
  have hnot : p ∉ t.mStreams := fun hmem => (wf.priv_iff p).mpr hmem hp
  constructor
  · intro p'
    rw [hpriv, hlist, List.mem_append, List.mem_singleton, ← wf.priv_iff p']
    by_cases h : p' = p
    · simp [h]
    · simp [h]
  · rw [hlist, List.nodup_append]
    refine ⟨wf.nodup, List.nodup_singleton p, ?_⟩
    intro p' hp' _ hmem heq
    obtain rfl := heq
    rw [List.mem_singleton] at hmem
    exact hnot (hmem ▸ hp')
  · intro p₁ p₂ q h₁ h₂
    rw [hpriv] at h₁ h₂
    split at h₁
    · rename_i heq₁
      split at h₂
      · rename_i heq₂
        exact heq₁.trans heq₂.symm
      · cases h₁
        exact absurd (wf.fresh h₂) (lt_irrefl _)
    · split at h₂
      · cases h₂
        exact absurd (wf.fresh h₁) (lt_irrefl _)
      · exact wf.inj h₁ h₂
  · intro p' q h
    rw [hpriv] at h
    rw [hnext]
    split at h
    · cases h
      exact Nat.lt_succ_self _
    · exact Nat.lt_succ_of_lt (wf.fresh h)

theorem registerStream_spec {t : StreamTable} (wf : WellFormed t) (p : Nat) :
    WellFormed (registerStream t p) ∧ (registerStream t p).mInputStream = t.mInputStream ∧
    (∀ p', p' ∈ (registerStream t p).mStreams ↔ p' = p ∨ p' ∈ t.mStreams) ∧
    ∀ p', isAlive (registerStream t p) p' = if p' = p then true else isAlive t p' := by
  cases hp : (t.streams p).priv with
  | some q =>
    have hmem : p ∈ t.mStreams := (wf.priv_iff p).mp (by simp [hp])
    have heq : registerStream t p = setAlive t p true := by
      unfold registerStream
      rw [hp]
    rw [heq]
    refine ⟨wf.setAlive p true, setAlive_mInputStream .., ?_,
      isAlive_setAlive wf (by simp [hp]) true⟩
    intro p'
    rw [setAlive_mStreams]
    constructor
    · exact Or.inr
    · intro hcases
      rcases hcases with rfl | h
      · exact hmem
      · exact h
  | none =>
    refine ⟨wf.registerStream_new hp, by simp [registerStream, hp], ?_,
      registerStream_new_isAlive wf hp⟩
    intro p'
    simp only [registerStream, hp, List.mem_append, List.mem_singleton]
    exact or_comm

theorem addStream_spec {t : StreamTable} (wf : WellFormed t) (p : Nat) :
    WellFormed (addStream t p) ∧ (addStream t p).mInputStream = t.mInputStream ∧
    (∀ p', p' ∈ (addStream t p).mStreams ↔ p' = p ∨ p' ∈ t.mStreams) ∧
    ∀ p', isAlive (addStream t p) p' = if p' = p then true else isAlive t p' := by
  obtain ⟨hwf, hinput, hmem, halive⟩ := registerStream_spec wf p
  refine ⟨hwf.congr (updateUsage_priv _ p) rfl rfl, hinput, hmem, fun p' => ?_⟩
  rw [← halive p']
  exact isAlive_congr (updateUsage_priv _ p p') rfl

theorem addStreams_spec {t : StreamTable} (wf : WellFormed t) (ps : List Nat) :
    WellFormed (ps.foldl addStream t) ∧
    (ps.foldl addStream t).mInputStream = t.mInputStream ∧
    (∀ p, p ∈ (ps.foldl addStream t).mStreams ↔ p ∈ ps ∨ p ∈ t.mStreams) ∧
    ∀ p, isAlive (ps.foldl addStream t) p = if p ∈ ps then true else isAlive t p := by
  induction ps generalizing t with
  | nil => simp [wf]
  | cons p ps ih =>
    obtain ⟨hwf, hinput, hmem, halive⟩ := addStream_spec wf p
    obtain ⟨hwf', hinput', hmem', halive'⟩ := ih hwf
    refine ⟨hwf', hinput'.trans hinput, fun p' => ?_, fun p' => ?_⟩
    · rw [List.foldl_cons, hmem', hmem, List.mem_cons]
      tauto
    · rw [List.foldl_cons, halive', halive]
      by_cases h : p' = p
      · simp [h]
      · simp [h]

theorem dropInfo_priv (t : StreamTable) (p p' : Nat) :
    ((dropInfo t p).streams p').priv = if p' = p then none else (t.streams p').priv := by
  by_cases h : p' = p
  · subst h
    simp [dropInfo]
  · simp [dropInfo, h]

theorem isAlive_dropInfo {t : StreamTable}
    (inj : ∀ {p p' q}, (t.streams p).priv = some q → (t.streams p').priv = some q → p = p')
    {p : Nat} (hdead : isAlive t p = false) : isAlive (dropInfo t p) = isAlive t := by
  funext p'
  by_cases h : p' = p
  · subst h
    rw [hdead, isAlive_of_priv_none (by rw [dropInfo_priv, if_pos rfl])]
  · cases hq' : (t.streams p').priv with
    | none =>
      rw [isAlive_of_priv_none hq', isAlive_of_priv_none (by rw [dropInfo_priv, if_neg h, hq'])]
    | some q' =>
      cases hq : (t.streams p).priv with
      | none => simp [isAlive, dropInfo, hq, Function.update_of_ne h]
      | some q =>
        have hne : q' ≠ q := by
          intro heq
          obtain rfl := heq
          exact h (inj hq' hq)
        simp [isAlive, dropInfo, hq, hq', Function.update_of_ne h, Function.update_of_ne hne]

theorem reapFrom_spec {t : StreamTable}
    (inj : ∀ {p p' q}, (t.streams p).priv = some q → (t.streams p').priv = some q → p = p')
    (ps : List Nat) :
    (reapFrom t ps).mStreams = ps.filter (isAlive t) ∧
    (reapFrom t ps).nextInfo = t.nextInfo ∧ (reapFrom t ps).mInputStream = t.mInputStream ∧
    (∀ p, ((reapFrom t ps).streams p).priv =
      if p ∈ ps ∧ isAlive t p = false then none else (t.streams p).priv) ∧
    isAlive (reapFrom t ps) = isAlive t := by
  induction ps generalizing t with
  | nil => exact ⟨rfl, rfl, rfl, by simp [reapFrom], rfl⟩
  | cons p ps ih =>
    cases hp : isAlive t p with
    | true =>
      obtain ⟨hlist, hnext, hinput, hpriv, halive⟩ := ih inj
      simp only [reapFrom, hp, ↓reduceIte, List.filter_cons, hlist]
      refine ⟨trivial, hnext, hinput, fun p' => ?_, halive⟩
      rw [hpriv]
      by_cases h : p' = p
      · simp [h, hp]
      · simp [h]
    | false =>
      have hsame := isAlive_dropInfo inj hp
      have inj' : ∀ {p₁ p₂ q}, ((dropInfo t p).streams p₁).priv = some q →
          ((dropInfo t p).streams p₂).priv = some q → p₁ = p₂ := by
        intro p₁ p₂ q h₁ h₂
        rw [dropInfo_priv] at h₁ h₂
        split at h₁
        · simp at h₁
        · split at h₂
          · simp at h₂
          · exact inj h₁ h₂
      obtain ⟨hlist, hnext, hinput, hpriv, halive⟩ := ih inj'
      simp only [reapFrom, hp, Bool.false_eq_true, ↓reduceIte, List.filter_cons, hlist, hsame]
      refine ⟨trivial, hnext, hinput, fun p' => ?_, halive.trans hsame⟩
      rw [hpriv, hsame, dropInfo_priv]
      by_cases h : p' = p
      · simp [h, hp]
      · simp [h]

theorem reapDead_spec {t : StreamTable} (wf : WellFormed t) :
    WellFormed (reapDead t) ∧ (reapDead t).mInputStream = t.mInputStream ∧
    (∀ p, p ∈ (reapDead t).mStreams ↔ p ∈ t.mStreams ∧ isAlive t p = true) ∧
    isAlive (reapDead t) = isAlive t := by
  obtain ⟨hlist, hnext, hinput, hpriv, halive⟩ := reapFrom_spec wf.inj t.mStreams
  have hkept : ∀ {p q}, ((reapDead t).streams p).priv = some q → (t.streams p).priv = some q := by
    intro p q h
    rw [reapDead, hpriv] at h
    split at h
    · simp at h
    · exact h
  refine ⟨⟨fun p => ?_, ?_, fun h h' => wf.inj (hkept h) (hkept h'), fun h => ?_⟩, hinput,
    fun p => ?_, halive⟩
  · have hiff := wf.priv_iff p
    rw [reapDead, hpriv, hlist, List.mem_filter]
    cases hp : isAlive t p with
    | true => simpa using hiff
    | false =>
      by_cases hmem : p ∈ t.mStreams
      · simp [hmem]
      · simpa [hmem] using hiff
  · rw [reapDead, hlist]
    exact wf.nodup.filter _
  · rw [reapDead, hnext]
    exact wf.fresh (hkept h)
  · rw [reapDead, hlist, List.mem_filter]

theorem checkStreams_spec {streams : Nat → Stream} {ps : List (Option Nat)}
    {input input' : Option Nat} (h : checkStreams streams ps input = some input') :
    input'.toList =
      input.toList ++ (listed ps).filter (fun p => (streams p).streamType.isInput) := by
  induction ps generalizing input with
  | nil =>
    simp only [checkStreams, Option.some.injEq] at h
    simp [listed, h]
  | cons p ps ih =>
    cases p with
    | none => simp [checkStreams] at h
    | some p =>
      simp only [checkStreams] at h
      split at h
      · simp at h
      · rename_i hinput
        split at h
        · simp at h
        · rw [ih h]
          have hlisted : listed (some p :: ps) = p :: listed ps := rfl
          rw [hlisted, List.filter_cons]
          by_cases hp : (streams p).streamType.isInput = true
          · have hnone : input = none := by simpa [hp] using hinput
            simp [hp, hnone]
          · simp [hp]

structure TableOk (t : StreamTable) : Prop where
  priv_iff : ∀ p, (t.streams p).priv ≠ none ↔ p ∈ t.mStreams
  nodup : t.mStreams.Nodup
  alive : ∀ p ∈ t.mStreams, isAlive t p = true

structure Inv (t : StreamTable) : Prop extends WellFormed t where
  alive : ∀ p ∈ t.mStreams, isAlive t p = true

theorem Inv.tableOk {t : StreamTable} (inv : Inv t) : TableOk t :=
  ⟨inv.priv_iff, inv.nodup, inv.alive⟩

theorem configureStreams_ok {t t' : StreamTable} {mStatus : CameraStatus}
    {streamList : Option StreamConfiguration}
    (h : configureStreams t mStatus streamList = (t', .ok)) :
    ∃ streams inputStream, streamList = some ⟨some streams⟩ ∧
      checkStreams t.streams streams none = some inputStream ∧
      t' = { reapDead ((listed streams).foldl addStream
        (markDead { t with mInputStream := inputStream })) with mPrevSettings := [] } := by
  unfold configureStreams at h
  split at h
  · simp at h
  · split at h
    · simp at h
    · simp at h
    · rename_i streams
      split at h
      · simp at h
      · split at h
        · simp at h
        · rename_i inputStream hcheck
          simp only [Prod.mk.injEq, and_true] at h
          exact ⟨streams, inputStream, rfl, hcheck, h.symm⟩

theorem configureStreams_failed {t t' : StreamTable} {mStatus : CameraStatus}
    {streamList : Option StreamConfiguration} {res : StatusT}
    (h : configureStreams t mStatus streamList = (t', res)) (hres : res ≠ .ok) : t' = t := by
  unfold configureStreams at h
  split at h
  · exact (Prod.mk.inj h).1.symm
  · split at h
    · exact (Prod.mk.inj h).1.symm
    · exact (Prod.mk.inj h).1.symm
    · split at h
      · exact (Prod.mk.inj h).1.symm
      · split at h
        · exact (Prod.mk.inj h).1.symm
        · exact absurd (Prod.mk.inj h).2.symm hres

theorem mem_listed {streams : List (Option Nat)} {p : Nat} :
    p ∈ listed streams ↔ some p ∈ streams := by
  simp [listed]

theorem Inv.configureStreams {t t' : StreamTable} (inv : Inv t) {mStatus : CameraStatus}
    {streamList : Option StreamConfiguration}
    (h : configureStreams t mStatus streamList = (t', .ok)) :
    Inv t' ∧ ∃ streams, streamList = some ⟨some streams⟩ ∧
      (∀ p, p ∈ t'.mStreams ↔ some p ∈ streams) ∧
      t'.mInputStream.toList =
        (listed streams).filter (fun p => (t.streams p).streamType.isInput) := by
  obtain ⟨streams, inputStream, hlist, hcheck, rfl⟩ := configureStreams_ok h
  have wf : WellFormed { t with mInputStream := inputStream } :=
    inv.toWellFormed.congr (fun _ => rfl) rfl rfl
  obtain ⟨wf₁, -, hmem₁, hinput₁, halive₁⟩ := markDead_spec wf
  obtain ⟨wf₂, hinput₂, hmem₂, halive₂⟩ := addStreams_spec wf₁ (listed streams)
  obtain ⟨wf₃, hinput₃, hmem₃, halive₃⟩ := reapDead_spec wf₂
  have hmem : ∀ p, p ∈ (reapDead ((listed streams).foldl addStream
      (markDead { t with mInputStream := inputStream }))).mStreams ↔ p ∈ listed streams := by
    intro p
    rw [hmem₃, hmem₂, halive₂, halive₁]
    by_cases hp : p ∈ listed streams
    · simp [hp]
    · simp [hp]
  refine ⟨⟨wf₃.congr (fun _ => rfl) rfl rfl, fun p hp => ?_⟩, streams, hlist,
    fun p => (hmem p).trans mem_listed, ?_⟩
  · rw [← halive₃] at halive₂
    refine (halive₂ p).trans ?_
    rw [if_pos ((hmem p).mp hp)]
  · have hinput : (reapDead ((listed streams).foldl addStream
        (markDead { t with mInputStream := inputStream }))).mInputStream = inputStream :=
      hinput₃.trans (hinput₂.trans hinput₁)
    simpa [hinput] using checkStreams_spec hcheck

inductive TableAction where
  | configureStreams (mStatus : CameraStatus) (streamList : Option StreamConfiguration)
  | rewriteStream (p : Nat) (stream : Stream)
  | cacheSettings (settings : CameraMetadata)

/-- Calls of `configureStreams`, between them the framework rewrites its streams and other calls
of the camera replace the cached settings. -/
def tableStep (t : StreamTable) : TableAction → Option (StreamTable × List StatusT)
  | .configureStreams mStatus streamList =>
    let (t', res) := configureStreams t mStatus streamList
    some (t', [res])
  | .rewriteStream p stream =>
    let stream := { stream with priv := (t.streams p).priv }
    some ({ t with streams := Function.update t.streams p stream }, [])
  | .cacheSettings settings => some ({ t with mPrevSettings := settings }, [])

def streamTable : Machine StreamTable TableAction StatusT := ⟨tableStep⟩

theorem Inv.congr {t t' : StreamTable} (inv : Inv t)
    (hpriv : ∀ p, (t'.streams p).priv = (t.streams p).priv) (hlist : t'.mStreams = t.mStreams)
    (hnext : t'.nextInfo = t.nextInfo) (hinfos : t'.infos = t.infos) : Inv t' := by
  refine ⟨inv.toWellFormed.congr hpriv hlist hnext, fun p hp => ?_⟩
  rw [isAlive_congr (hpriv p) hinfos]
  exact inv.alive p (hlist ▸ hp)

theorem tableStep_inv {t t' : StreamTable} {es : List StatusT} {action : TableAction}
    (inv : Inv t) (h : tableStep t action = some (t', es)) : Inv t' := by
  cases action with
  | configureStreams mStatus streamList =>
    cases hcall : Camera3.configureStreams t mStatus streamList with
    | mk t₁ res =>
      simp only [tableStep, hcall, Option.some.injEq, Prod.mk.injEq] at h
      obtain ⟨rfl, -⟩ := h
      by_cases hres : res = .ok
      · subst hres
        exact (inv.configureStreams hcall).1
      · rw [configureStreams_failed hcall hres]
        exact inv
  | rewriteStream p stream =>
    cases h
    refine inv.congr (fun p' => ?_) rfl rfl rfl
    by_cases hp : p' = p
    · subst hp
      simp
    · simp [hp]
  | cacheSettings settings =>
    cases h
    exact inv.congr (fun _ => rfl) rfl rfl rfl

theorem inv_of_unregistered {t : StreamTable} (hlist : t.mStreams = [])
    (hpriv : ∀ p, (t.streams p).priv = none) : Inv t where
  priv_iff p := by simp [hpriv, hlist]
  nodup := by simp [hlist]
  inj h := by simp [hpriv] at h
  fresh h := by simp [hpriv] at h
  alive p hp := by simp [hlist] at hp

/-- The table keeps its laws over any calls; each call replaces it as a whole or not at all. -/
theorem streamTable_laws {t₀ t : StreamTable} {tr : List StatusT} (hlist : t₀.mStreams = [])
    (hpriv : ∀ p, (t₀.streams p).priv = none)
    (run : streamTable.Run (fun _ _ => True) t₀ tr t) :
    TableOk t ∧ ∀ mStatus streamList t' res,
      configureStreams t mStatus streamList = (t', res) →
      (res = .ok → ∃ streams, streamList = some ⟨some streams⟩ ∧
        (∀ p, p ∈ t'.mStreams ↔ some p ∈ streams) ∧
        t'.mInputStream.toList =
          (listed streams).filter (fun p => (t.streams p).streamType.isInput)) ∧
      (res ≠ .ok → t' = t) := by
  have hstart : Inv t₀ := inv_of_unregistered hlist hpriv
  have inv : Inv t := run.invariant (P := fun _ t => Inv t) hstart fun inv _ h =>
    tableStep_inv inv h
  refine ⟨inv.tableOk, fun mStatus streamList t' res h => ⟨?_, configureStreams_failed h⟩⟩
  intro heq
  obtain rfl := heq
  exact (inv.configureStreams h).2

def plainStream (streamType : StreamType) (format : PixelFormat) : Stream where
  streamType := streamType
  width := 640
  height := 480
  format := format
  dataSpace := .other 0
  usage := 0
  maxBuffers := 0
  priv := none

def connectedTable : StreamTable where
  streams p := plainStream (if p = 1 then .input else .output) .rgba8888
  infos _ := none
  nextInfo := 0
  mStreams := []
  mInputStream := none
  mPrevSettings := []

theorem streamTable_laws_reconfigured :
    ∃ tr t, streamTable.Run (fun _ _ => True) connectedTable tr t ∧
      tr = [.ok, .badValue, .ok] ∧ t.mStreams = [1, 2] ∧ TableOk t := by
  obtain ⟨tr, t, run, htr, hlist⟩ := streamTable.run_of_exec (fun _ _ => True) connectedTable
    [.configureStreams .opened (some ⟨some [some 0, some 1, some 0]⟩),
      .configureStreams .ready (some ⟨some [some 1, some 1]⟩),
      .configureStreams .ready (some ⟨some [some 2, some 1]⟩)]
    (fun t tr => tr = [.ok, .badValue, .ok] ∧ t.mStreams = [1, 2]) (by decide +kernel)
  exact ⟨tr, t, run, htr, hlist, (streamTable_laws rfl (fun p => by
    simp only [connectedTable, plainStream]) run).1⟩

end Rpi3Device.Camera3
