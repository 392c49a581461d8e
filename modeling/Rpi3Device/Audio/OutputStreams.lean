import Mathlib.Tactic
import Rpi3Device.ResourceLedger

/-!
# Output streams of the ALSA audio device

Any number of output streams share one device. Streams and pcm handles are
numbered in the order they are made. The outcomes of tinyalsa and of the
allocator are arguments of the calls: whether `pcm_open` gives a ready pcm, what
`pcm_mmap_write` returns, what `pcm_get_htimestamp` reports.
-/

namespace Rpi3Device.Audio
open TransitionSystem ResourceLedger

def PERIOD_SIZE : UInt32 := 32 * 32
def PLAYBACK_PERIOD_COUNT : UInt32 := 4
def PLAYBACK_PERIOD_START_THRESHOLD : UInt32 := 2
def CODEC_SAMPLING_RATE : UInt32 := 48000
def CHANNEL_STEREO : UInt32 := 2
def ENODEV : Int := 19

def frameSize : Nat := 4

structure PcmConfig where
  channels : UInt32 := CHANNEL_STEREO
  rate : UInt32 := CODEC_SAMPLING_RATE
  periodSize : UInt32 := PERIOD_SIZE
  periodCount : UInt32 := PLAYBACK_PERIOD_COUNT
  startThreshold : UInt32 := 0
  availMin : UInt32 := 0
deriving DecidableEq

structure AlsaStreamOut where
  config : PcmConfig := {}
  pcm : Option Nat := none
  unavailable : Bool := false
  standby : Bool := true
  writeThreshold : UInt32 := 0
  written : UInt32 := 0
deriving DecidableEq

structure AlsaAudioDevice where
  activeOutput : Option Nat := none
  streams : Nat → Option AlsaStreamOut := fun _ => none
  nextStream : Nat := 0
  nextPcm : Nat := 0

inductive Event where
  | pcmOpen (stream pcm : Nat)
  | pcmClose (pcm : Option Nat)
  | pcmMmapWrite (pcm : Option Nat) (bytes : Nat)
  | pcmGetHtimestamp (pcm : Nat)
deriving DecidableEq

def setStream (dev : AlsaAudioDevice) (id : Nat) (out : Option AlsaStreamOut) : AlsaAudioDevice :=
  { dev with streams := Function.update dev.streams id out }

def prepareStart (out : AlsaStreamOut) (pcm : Nat) : AlsaStreamOut :=
  { out with
    writeThreshold := PLAYBACK_PERIOD_COUNT * PERIOD_SIZE
    config := { out.config with
      startThreshold := PLAYBACK_PERIOD_START_THRESHOLD * PERIOD_SIZE
      availMin := PERIOD_SIZE }
    pcm := some pcm }

def startOutputStream (dev : AlsaAudioDevice) (id : Nat) (out : AlsaStreamOut) (ready : Bool) :
    Int × AlsaAudioDevice × AlsaStreamOut × List Event :=
  if out.unavailable = true then (-ENODEV, dev, out, [])
  else
    let pcm := dev.nextPcm
    let dev := { dev with nextPcm := pcm + 1 }
    let out := prepareStart out pcm
    if ready = true then
      (0, { dev with activeOutput := some id }, out, [.pcmOpen id pcm])
    else
      (-ENODEV, { dev with activeOutput := none }, { out with unavailable := true },
        [.pcmOpen id pcm, .pcmClose (some pcm)])

def doOutputStandby (dev : AlsaAudioDevice) (out : AlsaStreamOut) :
    AlsaAudioDevice × AlsaStreamOut × List Event :=
  if out.standby = true then (dev, out, [])
  else ({ dev with activeOutput := none }, { out with pcm := none, standby := true },
    [.pcmClose out.pcm])

def writeFrames (out : AlsaStreamOut) (bytes : Nat) (ret : Int) : AlsaStreamOut × List Event :=
  let outFrames := bytes / frameSize
  (if ret = 0 then { out with written := out.written + outFrames.toUInt32 } else out,
    [.pcmMmapWrite out.pcm (outFrames * frameSize)])

def outWrite (dev : AlsaAudioDevice) (id : Nat) (out : AlsaStreamOut) (bytes : Nat) (ready : Bool)
    (ret : Int) : AlsaAudioDevice × AlsaStreamOut × List Event :=
  if out.standby = true then
    match startOutputStream dev id out ready with
    | (rc, dev, out, started) =>
      if rc = 0 then
        let (out, wrote) := writeFrames { out with standby := false } bytes ret
        (dev, out, started ++ wrote)
      else (dev, out, started)
  else
    let (out, wrote) := writeFrames out bytes ret
    (dev, out, wrote)

inductive SizeT
  | bits32
  | bits64
deriving DecidableEq

def SizeT.bits : SizeT → ℕ
  | .bits32 => 32
  | .bits64 => 64

def signedFrames (w : SizeT) (written kernelBufferSize avail : UInt32) : ℤ :=
  match w with
  | .bits32 => (written - kernelBufferSize + avail).toNat
  | .bits64 =>
    (written.toUInt64 - kernelBufferSize.toUInt64 + avail.toUInt64).toInt64.toInt

/-- The value of `*frames` when the call returns 0, `none` when it returns -1. -/
def outGetPresentationPosition (w : SizeT) (out : AlsaStreamOut) (htimestamp : Option UInt32) :
    Option Nat × List Event :=
  match out.pcm with
  | none => (none, [])
  | some pcm =>
    let kernelBufferSize := out.config.periodSize * out.config.periodCount
    (htimestamp.bind fun avail =>
        let signed := signedFrames w out.written kernelBufferSize avail
        if 0 ≤ signed then some signed.toNat else none,
      [.pcmGetHtimestamp pcm])

inductive Call where
  | openOutputStream (params allocated : Bool)
  | outWrite (id bytes : Nat) (ready : Bool) (ret : Int)
  | outStandby (id : Nat)
  | outGetPresentationPosition (id : Nat) (htimestamp : Option UInt32)
  | closeOutputStream (id : Nat)
deriving DecidableEq

/-- A call on a stream that is not open has no step. -/
def step (dev : AlsaAudioDevice) : Call → Option (AlsaAudioDevice × List Event)
  | .openOutputStream params allocated =>
    if params = true ∧ allocated = true then
      some ({ setStream dev dev.nextStream (some {}) with nextStream := dev.nextStream + 1 }, [])
    else some (dev, [])
  | .outWrite id bytes ready ret => (dev.streams id).map fun out =>
      let (dev, out, es) := outWrite dev id out bytes ready ret
      (setStream dev id (some out), es)
  | .outStandby id => (dev.streams id).map fun out =>
      let (dev, out, es) := doOutputStandby dev out
      (setStream dev id (some out), es)
  | .outGetPresentationPosition id htimestamp => (dev.streams id).map fun out =>
      (dev, (outGetPresentationPosition .bits32 out htimestamp).2)
  | .closeOutputStream id => (dev.streams id).map fun _ => (setStream dev id none, [])

def outputDevice : Machine AlsaAudioDevice Call Event := ⟨step⟩

/-- What the event does to the pcm it names. A NULL pcm is never acquired. -/
def Event.op : Event → Op (Option Nat)
  | .pcmOpen _ pcm => .acquire (some pcm)
  | .pcmClose pcm => .release pcm
  | .pcmMmapWrite pcm _ => .use pcm
  | .pcmGetHtimestamp pcm => .use (some pcm)

def pcmOps (tr : List Event) : List (Op (Option Nat)) := tr.map Event.op

def PcmOpen (tr : List Event) (pcm : Nat) : Prop := some pcm ∈ held (pcmOps tr)

structure OutputsSound (tr : List Event) (dev : AlsaAudioDevice) : Prop where
  active : ∀ id out, dev.streams id = some out → out.standby = false →
    (∃ pcm, out.pcm = some pcm ∧ PcmOpen tr pcm) ∧ dev.activeOutput = some id
  pcm_open : ∀ id out pcm, dev.streams id = some out → out.pcm = some pcm → PcmOpen tr pcm
  passed_open : Disciplined (pcmOps tr)
  closed_once : ∀ id pcm, .pcmOpen id pcm ∈ tr → dev.streams id = none →
    (pcmOps tr).count (.release (some pcm)) = 1
  active_live : ∀ id, dev.activeOutput = some id → dev.streams id ≠ none

/-- Opens succeed, a stream starts only while no output is active and closes only in standby. -/
def Orderly (dev : AlsaAudioDevice) : Call → Prop
  | .outWrite id _ ready _ => ∀ out ∈ dev.streams id, out.standby = true →
      ready = true ∧ dev.activeOutput = none
  | .closeOutputStream id => ∀ out ∈ dev.streams id, out.standby = true
  | _ => True

instance decidableOrderly (dev : AlsaAudioDevice) : ∀ call, Decidable (Orderly dev call)
  | .openOutputStream _ _ => inferInstanceAs (Decidable True)
  | .outWrite id _ ready _ => inferInstanceAs (Decidable (∀ out ∈ dev.streams id,
      out.standby = true → ready = true ∧ dev.activeOutput = none))
  | .outStandby _ => inferInstanceAs (Decidable True)
  | .outGetPresentationPosition _ _ => inferInstanceAs (Decidable True)
  | .closeOutputStream id => inferInstanceAs (Decidable (∀ out ∈ dev.streams id,
      out.standby = true))

@[simp] theorem pcmOps_append (tr es : List Event) : pcmOps (tr ++ es) = pcmOps tr ++ pcmOps es :=
  List.map_append

@[simp] theorem setStream_self (dev : AlsaAudioDevice) (id : Nat) (out : Option AlsaStreamOut) :
    (setStream dev id out).streams id = out := Function.update_self ..

theorem setStream_of_ne {dev : AlsaAudioDevice} {id id' : Nat} (out : Option AlsaStreamOut)
    (h : id' ≠ id) : (setStream dev id out).streams id' = dev.streams id' :=
  Function.update_of_ne h ..

theorem setStream_eq_some {dev : AlsaAudioDevice} {id id' : Nat} {out' : Option AlsaStreamOut}
    {out : AlsaStreamOut} (h : (setStream dev id out').streams id' = some out) :
    id' = id ∧ out' = some out ∨ id' ≠ id ∧ dev.streams id' = some out := by
  by_cases hid : id' = id
  · subst hid
    rw [setStream_self] at h
    exact .inl ⟨rfl, h⟩
  · rw [setStream_of_ne _ hid] at h
    exact .inr ⟨hid, h⟩

structure StreamOk (tr : List Event) (dev : AlsaAudioDevice) (id : Nat) (out : AlsaStreamOut) :
    Prop where
  bounded : id < dev.nextStream
  available : out.unavailable = false
  started : out.standby = false →
    dev.activeOutput = some id ∧ ∃ pcm, out.pcm = some pcm ∧ PcmOpen tr pcm
  stopped : out.standby = true → out.pcm = none

structure Inv (tr : List Event) (dev : AlsaAudioDevice) : Prop where
  disciplined : Disciplined (pcmOps tr)
  fresh : ∀ id pcm, .pcmOpen id pcm ∈ tr → pcm < dev.nextPcm ∧ id < dev.nextStream
  streams : ∀ id out, dev.streams id = some out → StreamOk tr dev id out
  owner : ∀ id pcm, .pcmOpen id pcm ∈ tr → PcmOpen tr pcm →
    ∃ out, dev.streams id = some out ∧ out.standby = false ∧ out.pcm = some pcm
  active_started : ∀ id, dev.activeOutput = some id →
    ∃ out, dev.streams id = some out ∧ out.standby = false

theorem Inv.sound {tr : List Event} {dev : AlsaAudioDevice} (inv : Inv tr dev) :
    OutputsSound tr dev where
  active id out hout hs := by
    obtain ⟨hactive, hpcm⟩ := (inv.streams id out hout).started hs
    exact ⟨hpcm, hactive⟩
  pcm_open id out pcm hout hpcm := by
    cases hs : out.standby with
    | false =>
      obtain ⟨-, pcm', hpcm', hopen⟩ := (inv.streams id out hout).started hs
      rw [hpcm, Option.some.injEq] at hpcm'
      exact hpcm' ▸ hopen
    | true => exact absurd ((inv.streams id out hout).stopped hs) (by simp [hpcm])
  passed_open := inv.disciplined
  closed_once id pcm hmem hnone := by
    refine inv.disciplined.released_once (List.mem_map_of_mem hmem) fun hheld => ?_
    obtain ⟨out, hout, -⟩ := inv.owner id pcm hmem hheld
    exact absurd hout (by simp [hnone])
  active_live id hactive := by
    obtain ⟨out, hout, -⟩ := inv.active_started id hactive
    simp [hout]

theorem inv_init : Inv [] {} where
  disciplined := justified_nil _
  fresh id pcm h := by simp at h
  streams id out h := by simp at h
  owner id pcm h := by simp at h
  active_started id h := by simp at h

theorem Inv.openOutputStream {tr : List Event} {dev : AlsaAudioDevice} (inv : Inv tr dev) :
    Inv tr { setStream dev dev.nextStream (some {}) with nextStream := dev.nextStream + 1 } := by
  have hkeep : ∀ {id out}, dev.streams id = some out →
      (setStream dev dev.nextStream (some {})).streams id = some out := by
    intro id out hout
    have hlt := (inv.streams id out hout).bounded
    rw [setStream_of_ne _ (by omega), hout]
  constructor
  · exact inv.disciplined
  · intro id pcm hmem
    exact ⟨(inv.fresh id pcm hmem).1, Nat.lt_succ_of_lt (inv.fresh id pcm hmem).2⟩
  · intro id out hout
    rcases setStream_eq_some hout with ⟨rfl, hnew⟩ | ⟨-, hold⟩
    · cases hnew
      exact ⟨Nat.lt_succ_self _, rfl, fun hs => by simp at hs, fun _ => rfl⟩
    · have ok := inv.streams id out hold
      exact ⟨Nat.lt_succ_of_lt ok.bounded, ok.available, ok.started, ok.stopped⟩
  · intro id pcm hmem hopen
    obtain ⟨out, hout, hrest⟩ := inv.owner id pcm hmem hopen
    exact ⟨out, hkeep hout, hrest⟩
  · intro id hactive
    obtain ⟨out, hout, hs⟩ := inv.active_started id hactive
    exact ⟨out, hkeep hout, hs⟩

theorem Inv.use {tr : List Event} {dev : AlsaAudioDevice} (inv : Inv tr dev) {e : Event}
    {pcm : Option Nat} (hop : e.op = .use pcm) (hpcm : pcm ∈ held (pcmOps tr)) :
    Inv (tr ++ [e]) dev := by
  have hops : pcmOps (tr ++ [e]) = pcmOps tr ++ [.use pcm] := by simp [pcmOps, hop]
  have hheld : held (pcmOps (tr ++ [e])) = held (pcmOps tr) := by
    rw [hops, held_append]
    rfl
  have hmem : ∀ {id pcm}, .pcmOpen id pcm ∈ tr ++ [e] → .pcmOpen id pcm ∈ tr := by
    intro id pcm hmem
    rcases List.mem_append.mp hmem with hmem | hmem
    · exact hmem
    · rw [← List.mem_singleton.mp hmem] at hop
      simp [Event.op] at hop
  constructor
  · rw [hops]
    exact inv.disciplined.snoc hpcm
  · exact fun id pcm h => inv.fresh id pcm (hmem h)
  · intro id out hout
    have ok := inv.streams id out hout
    exact ⟨ok.bounded, ok.available, by simpa only [PcmOpen, hheld] using ok.started, ok.stopped⟩
  · intro id pcm h hopen
    rw [PcmOpen, hheld] at hopen
    exact inv.owner id pcm (hmem h) hopen
  · exact inv.active_started

theorem Inv.setWritten {tr : List Event} {dev : AlsaAudioDevice} (inv : Inv tr dev) {id : Nat}
    {out : AlsaStreamOut} (hout : dev.streams id = some out) (w : UInt32) :
    Inv tr (setStream dev id (some { out with written := w })) := by
  have hkeep : ∀ {id' out'}, dev.streams id' = some out' →
      ∃ out'', (setStream dev id (some { out with written := w })).streams id' = some out'' ∧
        out''.standby = out'.standby ∧ out''.pcm = out'.pcm := by
    intro id' out' hout'
    by_cases hid : id' = id
    · subst hid
      rw [hout] at hout'
      cases hout'
      exact ⟨_, setStream_self .., rfl, rfl⟩
    · exact ⟨out', by rw [setStream_of_ne _ hid, hout'], rfl, rfl⟩
  constructor
  · exact inv.disciplined
  · exact inv.fresh
  · intro id' out' hout'
    rcases setStream_eq_some hout' with ⟨rfl, hnew⟩ | ⟨-, hold⟩
    · cases hnew
      have ok := inv.streams _ out hout
      exact ⟨ok.bounded, ok.available, ok.started, ok.stopped⟩
    · have ok := inv.streams id' out' hold
      exact ⟨ok.bounded, ok.available, ok.started, ok.stopped⟩
  · intro id' pcm hmem hopen
    obtain ⟨out', hout', hs, hpcm⟩ := inv.owner id' pcm hmem hopen
    obtain ⟨out'', hout'', hs', hpcm'⟩ := hkeep hout'
    exact ⟨out'', hout'', hs'.trans hs, hpcm'.trans hpcm⟩
  · intro id' hactive
    obtain ⟨out', hout', hs⟩ := inv.active_started id' hactive
    obtain ⟨out'', hout'', hs', -⟩ := hkeep hout'
    exact ⟨out'', hout'', hs'.trans hs⟩

theorem Inv.idle {tr : List Event} {dev : AlsaAudioDevice} (inv : Inv tr dev)
    (hnone : dev.activeOutput = none) {id : Nat} {out : AlsaStreamOut}
    (hout : dev.streams id = some out) : out.standby = true := by
  by_contra hs
  have hactive := ((inv.streams id out hout).started (by simpa using hs)).1
  simp [hnone] at hactive

theorem Inv.acquire_nextPcm {tr : List Event} {dev : AlsaAudioDevice} (inv : Inv tr dev) :
    Op.acquire (some dev.nextPcm) ∉ pcmOps tr := by
  intro h
  obtain ⟨e, he, hop⟩ := List.mem_map.mp h
  cases e with
  | pcmOpen id pcm =>
    simp only [Event.op, Op.acquire.injEq, Option.some.injEq] at hop
    subst hop
    exact absurd (inv.fresh _ _ he).1 (lt_irrefl _)
  | pcmClose pcm => simp [Event.op] at hop
  | pcmMmapWrite pcm n => simp [Event.op] at hop
  | pcmGetHtimestamp pcm => simp [Event.op] at hop

theorem held_pcmOpen (tr : List Event) (id pcm : Nat) :
    held (pcmOps (tr ++ [.pcmOpen id pcm])) = some pcm ::ₘ held (pcmOps tr) := by
  rw [pcmOps_append, held_append]
  rfl

theorem held_pcmClose (tr : List Event) (pcm : Option Nat) :
    held (pcmOps (tr ++ [.pcmClose pcm])) = (held (pcmOps tr)).erase pcm := by
  rw [pcmOps_append, held_append]
  rfl

theorem Inv.start {tr : List Event} {dev : AlsaAudioDevice} (inv : Inv tr dev) {id : Nat}
    {out out' : AlsaStreamOut} (hout : dev.streams id = some out) (hnone : dev.activeOutput = none)
    (hpcm : out'.pcm = some dev.nextPcm) (hs : out'.standby = false)
    (hav : out'.unavailable = false) :
    Inv (tr ++ [.pcmOpen id dev.nextPcm])
      (setStream { dev with nextPcm := dev.nextPcm + 1, activeOutput := some id } id
        (some out')) := by
  constructor
  · rw [pcmOps_append]
    exact inv.disciplined.snoc inv.acquire_nextPcm
  · intro id' pcm hmem
    rcases List.mem_append.mp hmem with hmem | hmem
    · exact ⟨Nat.lt_succ_of_lt (inv.fresh id' pcm hmem).1, (inv.fresh id' pcm hmem).2⟩
    · cases List.mem_singleton.mp hmem
      exact ⟨Nat.lt_succ_self _, (inv.streams _ out hout).bounded⟩
  · intro id' out'' hout''
    rcases setStream_eq_some hout'' with ⟨rfl, hnew⟩ | ⟨-, hold⟩
    · cases hnew
      refine ⟨(inv.streams _ out hout).bounded, hav, fun _ => ⟨rfl, dev.nextPcm, hpcm, ?_⟩,
        fun hs' => absurd hs' (by simp [hs])⟩
      rw [PcmOpen, held_pcmOpen]
      exact Multiset.mem_cons_self _ _
    · have ok := inv.streams id' out'' hold
      exact ⟨ok.bounded, ok.available,
        fun hs' => absurd (inv.idle hnone hold) (by simp [hs']), ok.stopped⟩
  · intro id' pcm hmem hopen
    rw [PcmOpen, held_pcmOpen] at hopen
    rcases List.mem_append.mp hmem with hmem | hmem
    · have hne : pcm ≠ dev.nextPcm := (inv.fresh id' pcm hmem).1.ne
      have hopen : PcmOpen tr pcm := by simpa [PcmOpen, hne] using hopen
      obtain ⟨out'', hout'', hs', -⟩ := inv.owner id' pcm hmem hopen
      exact absurd (inv.idle hnone hout'') (by simp [hs'])
    · cases List.mem_singleton.mp hmem
      exact ⟨out', setStream_self .., hs, hpcm⟩
  · intro id' hactive
    cases hactive
    exact ⟨out', setStream_self .., hs⟩

theorem Inv.standby {tr : List Event} {dev : AlsaAudioDevice} (inv : Inv tr dev) {id : Nat}
    {out : AlsaStreamOut} (hout : dev.streams id = some out) (hs : out.standby = false) :
    Inv (tr ++ [.pcmClose out.pcm])
      (setStream { dev with activeOutput := none } id
        (some { out with pcm := none, standby := true })) := by
  obtain ⟨hactive, pcm, hpcm, hopen⟩ := (inv.streams id out hout).started hs
  have hmem : ∀ {id' pcm'}, .pcmOpen id' pcm' ∈ tr ++ [.pcmClose out.pcm] →
      .pcmOpen id' pcm' ∈ tr := by
    intro id' pcm' hmem
    simpa using hmem
  have hother : ∀ {id' out'}, id' ≠ id → dev.streams id' = some out' → out'.standby = true := by
    intro id' out' hne hout'
    by_contra hs'
    have hactive' := ((inv.streams id' out' hout').started (by simpa using hs')).1
    rw [hactive, Option.some.injEq] at hactive'
    exact hne hactive'.symm
  constructor
  · rw [pcmOps_append]
    exact inv.disciplined.snoc (by rw [hpcm]; exact hopen)
  · exact fun id' pcm' h => inv.fresh id' pcm' (hmem h)
  · intro id' out' hout'
    rcases setStream_eq_some hout' with ⟨rfl, hnew⟩ | ⟨hne, hold⟩
    · cases hnew
      have ok := inv.streams _ out hout
      exact ⟨ok.bounded, ok.available, fun hs' => by simp at hs', fun _ => rfl⟩
    · have ok := inv.streams id' out' hold
      exact ⟨ok.bounded, ok.available, fun hs' => absurd (hother hne hold) (by simp [hs']),
        ok.stopped⟩
  · intro id' pcm' h hopen'
    rw [PcmOpen, held_pcmClose, hpcm] at hopen'
    obtain ⟨out', hout', hs', hpcm'⟩ :=
      inv.owner id' pcm' (hmem h) (Multiset.mem_of_mem_erase hopen')
    by_cases hid : id' = id
    · subst hid
      rw [hout] at hout'
      cases hout'
      rw [hpcm, Option.some.injEq] at hpcm'
      subst hpcm'
      have hcount := (inv.disciplined.not_released_of_held hopen).2
      have hpos := Multiset.count_pos.mpr hopen'
      rw [Multiset.count_erase_self] at hpos
      omega
    · exact absurd (hother hid hout') (by simp [hs'])
  · intro id' hactive'
    simp [setStream] at hactive'

theorem Inv.closeOutputStream {tr : List Event} {dev : AlsaAudioDevice} (inv : Inv tr dev)
    {id : Nat} {out : AlsaStreamOut} (hout : dev.streams id = some out)
    (hs : out.standby = true) : Inv tr (setStream dev id none) := by
  have hkeep : ∀ {id' out'}, dev.streams id' = some out' → out'.standby = false →
      (setStream dev id none).streams id' = some out' := by
    intro id' out' hout' hs'
    have hne : id' ≠ id := by
      intro heq
      obtain rfl := heq
      rw [hout] at hout'
      cases hout'
      simp [hs] at hs'
    rw [setStream_of_ne _ hne, hout']
  constructor
  · exact inv.disciplined
  · exact inv.fresh
  · intro id' out' hout'
    rcases setStream_eq_some hout' with ⟨-, hnew⟩ | ⟨-, hold⟩
    · simp at hnew
    · have ok := inv.streams id' out' hold
      exact ⟨ok.bounded, ok.available, ok.started, ok.stopped⟩
  · intro id' pcm hmem hopen
    obtain ⟨out', hout', hs', hpcm⟩ := inv.owner id' pcm hmem hopen
    exact ⟨out', hkeep hout' hs', hs', hpcm⟩
  · intro id' hactive
    obtain ⟨out', hout', hs'⟩ := inv.active_started id' hactive
    exact ⟨out', hkeep hout' hs', hs'⟩

theorem Inv.writeFrames {tr : List Event} {dev : AlsaAudioDevice} (inv : Inv tr dev) {id : Nat}
    {out : AlsaStreamOut} (hout : dev.streams id = some out) (hs : out.standby = false)
    (bytes : Nat) (ret : Int) :
    Inv (tr ++ (writeFrames out bytes ret).2)
      (setStream dev id (some (writeFrames out bytes ret).1)) := by
  obtain ⟨-, pcm, hpcm, hopen⟩ := (inv.streams id out hout).started hs
  have hheld : out.pcm ∈ held (pcmOps tr) := by
    rw [hpcm]
    exact hopen
  have hused : Inv (tr ++ [.pcmMmapWrite out.pcm (bytes / frameSize * frameSize)]) dev :=
    inv.use rfl hheld
  by_cases hret : ret = 0
  · simpa only [Audio.writeFrames, hret, ↓reduceIte] using hused.setWritten hout _
  · simpa only [Audio.writeFrames, hret, ↓reduceIte] using hused.setWritten hout out.written

theorem setStream_setStream (dev : AlsaAudioDevice) (id : Nat) (out out' : Option AlsaStreamOut) :
    setStream (setStream dev id out) id out' = setStream dev id out' := by
  simp [setStream]

theorem Inv.outWrite {tr : List Event} {dev : AlsaAudioDevice} (inv : Inv tr dev) {id : Nat}
    {out : AlsaStreamOut} (hout : dev.streams id = some out) {bytes : Nat} {ready : Bool}
    {ret : Int} (ok : Orderly dev (.outWrite id bytes ready ret)) :
    Inv (tr ++ (Audio.outWrite dev id out bytes ready ret).2.2)
      (setStream (Audio.outWrite dev id out bytes ready ret).1 id
        (some (Audio.outWrite dev id out bytes ready ret).2.1)) := by
  cases hs : out.standby with
  | false =>
    simp only [Audio.outWrite, hs, Bool.false_eq_true, ↓reduceIte]
    exact inv.writeFrames hout hs bytes ret
  | true =>
    obtain ⟨hready, hnone⟩ := ok out hout hs
    have hav := (inv.streams id out hout).available
    have hstarted := @Inv.start _ _ inv _ _
      { prepareStart out dev.nextPcm with standby := false } hout hnone rfl rfl hav
    have hwritten := hstarted.writeFrames (setStream_self ..) rfl bytes ret
    rw [setStream_setStream, List.append_assoc] at hwritten
    simpa only [Audio.outWrite, startOutputStream, hs, hav, hready, Bool.false_eq_true,
      ↓reduceIte] using hwritten

theorem step_inv {tr es : List Event} {dev dev' : AlsaAudioDevice} {call : Call}
    (inv : Inv tr dev) (ok : Orderly dev call) (h : step dev call = some (dev', es)) :
    Inv (tr ++ es) dev' := by
  cases call with
  | openOutputStream params allocated =>
    simp only [step] at h
    split at h
    · cases h
      simpa using inv.openOutputStream
    · cases h
      simpa using inv
  | outWrite id bytes ready ret =>
    obtain ⟨out, hout, hstep⟩ := Option.map_eq_some_iff.mp h
    cases hstep
    exact inv.outWrite hout ok
  | outStandby id =>
    obtain ⟨out, hout, hstep⟩ := Option.map_eq_some_iff.mp h
    cases hs : out.standby with
    | false =>
      simp only [doOutputStandby, hs, Bool.false_eq_true, ↓reduceIte] at hstep
      cases hstep
      exact inv.standby hout hs
    | true =>
      simp only [doOutputStandby, hs, ↓reduceIte] at hstep
      cases hstep
      simpa using inv.setWritten hout out.written
  | outGetPresentationPosition id htimestamp =>
    obtain ⟨out, hout, hstep⟩ := Option.map_eq_some_iff.mp h
    cases hstep
    cases hpcm : out.pcm with
    | none => simpa [outGetPresentationPosition, hpcm] using inv
    | some pcm =>
      simp only [outGetPresentationPosition, hpcm]
      exact inv.use rfl (inv.sound.pcm_open id out pcm hout hpcm)
  | closeOutputStream id =>
    obtain ⟨out, hout, hstep⟩ := Option.map_eq_some_iff.mp h
    cases hstep
    simpa using inv.closeOutputStream hout (ok out hout)

theorem run_inv {tr : List Event} {dev : AlsaAudioDevice}
    (run : outputDevice.Run Orderly {} tr dev) : Inv tr dev :=
  run.invariant inv_init fun inv ok h => step_inv inv ok h

theorem orderly_of_sound {tr es : List Event} {dev dev' : AlsaAudioDevice} {call : Call}
    (inv : Inv tr dev) (h : step dev call = some (dev', es))
    (sound : OutputsSound (tr ++ es) dev') : Orderly dev call := by
  cases call with
  | openOutputStream params allocated => trivial
  | outWrite id bytes ready ret =>
    intro out hout hs
    obtain ⟨out', hout', hstep⟩ := Option.map_eq_some_iff.mp h
    rw [show dev.streams id = some out from hout, Option.some.injEq] at hout'
    subst hout'
    have hav := (inv.streams id out hout).available
    by_contra hnot
    cases ready with
    | false =>
      simp only [Audio.outWrite, startOutputStream, hs, hav, ENODEV, Bool.false_eq_true,
        ↓reduceIte, Int.reduceNeg, Int.reduceEq, Prod.mk.injEq] at hstep
      obtain ⟨rfl, rfl⟩ := hstep
      have hopen := sound.pcm_open id _ dev.nextPcm (setStream_self ..) rfl
      have hclosed := (sound.passed_open.not_released_of_held hopen).1
      exact hclosed (by simp [pcmOps, Event.op])
    | true =>
      simp only [Audio.outWrite, startOutputStream, hs, hav, Bool.false_eq_true, ↓reduceIte,
        Prod.mk.injEq] at hstep
      obtain ⟨rfl, rfl⟩ := hstep
      obtain ⟨other, hother⟩ := Option.ne_none_iff_exists'.mp fun hnone => hnot ⟨rfl, hnone⟩
      obtain ⟨out', hout', hs'⟩ := inv.active_started other hother
      have hne : other ≠ id := by
        intro heq
        obtain rfl := heq
        rw [hout'] at hout
        cases hout
        simp [hs] at hs'
      have hactive := (sound.active other out' (by rw [setStream_of_ne _ hne]; exact hout') hs').2
      simp only [setStream, Option.some.injEq] at hactive
      exact hne hactive.symm
  | outStandby id => trivial
  | outGetPresentationPosition id htimestamp => trivial
  | closeOutputStream id =>
    intro out hout
    obtain ⟨out', hout', hstep⟩ := Option.map_eq_some_iff.mp h
    by_contra hs
    have hactive := ((inv.streams id out hout).started (by simpa using hs)).1
    cases hstep
    exact sound.active_live id hactive (setStream_self ..)

/-- Orderly runs keep the laws, and the first call that is not orderly breaks them. -/
theorem outputs_sound_of_orderly {tr : List Event} {dev : AlsaAudioDevice}
    (run : outputDevice.Run Orderly {} tr dev) :
    OutputsSound tr dev ∧ ∀ call dev' es, outputDevice.step dev call = some (dev', es) →
      (OutputsSound (tr ++ es) dev' ↔ Orderly dev call) := by
  have inv := run_inv run
  refine ⟨inv.sound, fun call dev' es h => ⟨orderly_of_sound inv h, fun ok => ?_⟩⟩
  exact (step_inv inv ok h).sound

theorem outputs_sound_of_orderly_playback :
    ∃ tr dev, outputDevice.Run Orderly {} tr dev ∧ tr.length = 4 ∧ OutputsSound tr dev := by
  obtain ⟨tr, dev, run, hlen⟩ := outputDevice.run_of_exec Orderly {}
    [.openOutputStream true true, .openOutputStream true true, .outWrite 0 4096 true 0,
      .outGetPresentationPosition 0 (some 1024), .outStandby 0, .closeOutputStream 0]
    (fun _ tr => tr.length = 4) (by decide +kernel)
  exact ⟨tr, dev, run, hlen, (outputs_sound_of_orderly run).1⟩

/-- After a failed open the position query passes the closed pcm to tinyalsa. -/
theorem position_uses_closed_pcm :
    ¬ ∀ tr dev, outputDevice.Run (fun _ _ => True) {} tr dev → OutputsSound tr dev := by
  intro h
  obtain ⟨tr, dev, run, htr⟩ := outputDevice.run_of_exec (fun _ _ => True) {}
    [.openOutputStream true true, .outWrite 0 4096 false 0,
      .outGetPresentationPosition 0 (some 1024)]
    (fun _ tr => tr = [.pcmOpen 0 0, .pcmClose (some 0)] ++ .pcmGetHtimestamp 0 :: [])
    (by decide +kernel)
  have hused : some 0 ∈ held (pcmOps [.pcmOpen 0 0, .pcmClose (some 0)]) :=
    (h tr dev run).passed_open _ (.use (some 0)) [] (by rw [htr]; rfl)
  exact absurd hused (by decide)

end Rpi3Device.Audio
