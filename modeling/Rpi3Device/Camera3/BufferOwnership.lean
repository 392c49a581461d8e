import Mathlib.Tactic
import Rpi3Device.ResourceLedger
import Rpi3Device.Camera3.JpegReservation
import Rpi3Device.Camera3.CameraClose

/-!
# Who owns the lists of a request

`processCaptureRequest` allocates two lists for a request. They pass from the call
to the queue and from there to the readout thread, and the list of the sensor's
buffers goes on to the compressor once its thread has been started. The error exits
of the call after the buffer loop drop both lists, and a compressor thread that
cannot be started deletes a list that the readout thread deletes again.
-/

namespace Rpi3Device.Camera3
open TransitionSystem ResourceLedger

def ledger (tr : List Event) : List (Op Nat) :=
  tr.filterMap fun
    | .alloc block => some (.acquire block)
    | .delete block => some (.release block)
    | _ => none

@[simp] theorem ledger_append (tr es : List Event) : ledger (tr ++ es) = ledger tr ++ ledger es :=
  List.filterMap_append

theorem count_ledger (tr : List Event) (block : Nat) :
    (ledger tr).count (.acquire block) = tr.count (.alloc block) ∧
      (ledger tr).count (.release block) = tr.count (.delete block) := by
  induction tr with
  | nil => exact ⟨rfl, rfl⟩
  | cons e tr ih =>
    cases e <;> simp [ledger, List.count_cons] <;> exact ih

def Request.blocks (r : Request) : List Nat := [r.sensorBuffers, r.buffers]

def ReadoutPc.gone : ReadoutPc → Bool
  | .exited => true
  | .crashed => true
  | _ => false

def Readout.blocks (readout : Readout) : List Nat :=
  if readout.pc.gone = true then []
  else readout.mCurrentRequest.toList.map Request.buffers ++ readout.sensorBuffers.toList

def Jpeg.blocks (jpeg : Jpeg) : List Nat :=
  if jpeg.pc.running = true then jpeg.mBuffers.toList else []

def owned (c : Camera) : Multiset Nat :=
  (c.caller.request.toList.flatMap Request.blocks : List Nat) +
    (c.readout.mInFlightQueue.flatMap Request.blocks : List Nat) + c.readout.blocks +
    c.jpeg.blocks

/-- The steps that keep the lists: no call is left through an error exit, the compressor is
started with the list of the request and its thread does start, and the camera is closed only when
it is idle. -/
def ListsKept (c : Camera) : Action → Prop
  | .processCaptureRequest _ _ _ => True
  | .closeCamera => c.mStatus = .closed ∨ isIdle c.readout
  | .caller res => c.errorExit res = none
  | .sensor => True
  | .readout res => c.startsNull = false ∧ (c.readout.pc.starting = true → res = .ok)
  | .jpeg _ => True

instance (c : Camera) (action : Action) : Decidable (ListsKept c action) :=
  match action with
  | .processCaptureRequest _ _ _ => .isTrue trivial
  | .closeCamera => inferInstanceAs (Decidable (_ ∨ _))
  | .caller _ => inferInstanceAs (Decidable (_ = _))
  | .sensor => .isTrue trivial
  | .readout _ => inferInstanceAs (Decidable (_ ∧ (_ → _)))
  | .jpeg _ => .isTrue trivial

structure IdleInv (c : Camera) : Prop where
  shut : ShutInv c
  closing : c.caller = .shutDown ∨ c.caller = .clearSensor → isIdle c.readout
  resting : c.readout.mThreadActive = false → c.readout.awaited = []

theorem idleInv_atRest {c : Camera} (h : AtRest c) : IdleInv c := by
  refine ⟨shutInv_atRest h, ?_, ?_⟩
  · simp [h.caller]
  · simp [Readout.awaited, h.readout, h.mCurrentRequest]

section Idle
variable {c c' : Camera} {es : List Event}

theorem IdleInv.enterMove (inv : IdleInv c) {action : Action} (hok : ListsKept c action)
    (h : EnterMove c action c' es) : IdleInv c' := by
  have hshut := inv.shut.enterMove h
  cases h with
  | rejected hidle hb hres halloc => exact ⟨hshut, by simp [hidle], inv.resting⟩
  | lockFailed hidle hb hres halloc => exact ⟨hshut, by simp [hidle], inv.resting⟩
  | @prepared _ _ _ b p r pc hidle hb hres hr hpc =>
    refine ⟨hshut, ?_, inv.resting⟩
    rw [hpc]
    split <;> simp
  | alreadyClosed hidle hclosed => exact inv
  | closing hidle hclosed => exact ⟨hshut, fun _ => hok.resolve_left hclosed, inv.resting⟩

theorem IdleInv.drained (inv : IdleInv c) (hpc : c.caller = .clearSensor) :
    c.readout.Drained := by
  obtain ⟨hqueue, hactive⟩ := inv.closing (.inr hpc)
  exact ⟨hqueue, inv.resting hactive⟩

theorem IdleInv.callerMove (inv : IdleInv c) {res : WaitResult} (h : CallerMove c res c' es) :
    IdleInv c' := by
  have hshut := inv.shut.callerMove inv.drained h
  cases h with
  | @waits pc hbefore hreq hreserve hdelivered =>
    refine ⟨hshut, ?_, inv.resting⟩
    cases pc <;> simp [CallerPc.beforeSync] at hbefore <;> simp
  | queued hpc =>
    refine ⟨hshut, by simp, ?_⟩
    by_cases hw : c.readout.pc = .waitRequest
    · simpa [Readout.awaited, hw] using inv.resting
    · simpa [Readout.awaited, hw] using inv.resting
  | shutDownDone hpc hexited => exact ⟨hshut, fun _ => inv.closing (.inl hpc), inv.resting⟩
  | _ => exact ⟨hshut, by simp, inv.resting⟩

theorem IdleInv.sensorMove (inv : IdleInv c) (h : SensorMove c c' es) : IdleInv c' := by
  have hshut := inv.shut.sensorMove h
  cases h <;> exact { inv with shut := hshut }

theorem isIdle_readoutMove {res : WaitResult} (h : ReadoutMove c res c' es)
    (hidle : isIdle c.readout) : isIdle c'.readout := by
  cases h with
  | takes hplace hqueue => simp [hidle.1] at hqueue
  | wentIdle hpc hqueue => exact ⟨hqueue, rfl⟩
  | _ => exact hidle

theorem IdleInv.readoutMove (inv : IdleInv c) (holds : c.readout.Holds) {res : WaitResult}
    (h : ReadoutMove c res c' es) : IdleInv c' := by
  have hcaller := h.closed.1
  refine ⟨inv.shut.readoutMove holds h, ?_, ?_⟩
  · rw [hcaller]
    exact fun hpc => isIdle_readoutMove h (inv.closing hpc)
  · have hresting := inv.resting
    cases h with
    | exit hpc hexit => simpa [Readout.awaited, hpc] using hresting
    | resume hpc hexit hcur => simpa [Readout.awaited, hpc] using hresting
    | waits hpc hexit hcur hqueue => simpa [Readout.awaited, hpc] using hresting
    | takes hplace hqueue => simp
    | waitTimedOut hpc => simpa [Readout.awaited, hpc] using hresting
    | waitFailed hpc hres => simpa [Readout.awaited, hpc] using hresting
    | sensorMissing hpc hsensor => simpa [Readout.awaited, hpc] using hresting
    | noFrame hpc hsensor hframe => simpa [Readout.awaited, hpc] using hresting
    | frameTimedOut hpc => simpa [Readout.awaited, hpc] using hresting
    | _ => exact fun _ => rfl

theorem IdleInv.jpegMove (inv : IdleInv c) (h : JpegMove c c' es) : IdleInv c' := by
  have hshut := inv.shut.jpegMove h
  cases h <;> exact { inv with shut := hshut }

end Idle

structure OwnInv (tr : List Event) (c : Camera) : Prop where
  jpeg : JpegInv c
  idle : IdleInv c
  unloaded : c.readout.mCurrentRequest = none → c.readout.sensorBuffers = none
  fresh : ∀ block, .acquire block ∈ ledger tr → block < c.nextBlock
  tracks : Tracks (ledger tr) (owned c)

theorem ownInv_atRest {c : Camera} (h : AtRest c) : OwnInv [] c := by
  refine ⟨jpegInv_atRest h, idleInv_atRest h, fun _ => h.sensorBuffers, by simp [ledger], ?_⟩
  have hnone : owned c = 0 := by
    simp [owned, h.caller, CallerPc.request, h.mInFlightQueue, Readout.blocks, h.readout,
      h.mCurrentRequest, h.sensorBuffers, Jpeg.blocks, h.jpeg, JpegPc.running]
  rw [hnone]
  exact tracks_nil

structure Hands (tr es : List Event) (c' : Camera) : Prop where
  fresh : ∀ block, .acquire block ∈ ledger (tr ++ es) → block < c'.nextBlock
  tracks : Tracks (ledger (tr ++ es)) (owned c')

section Moves
variable {tr es : List Event} {c c' : Camera}

theorem OwnInv.deletes (inv : OwnInv tr c) {blocks : List Nat}
    (hes : ledger es = blocks.map .release) (hnext : c'.nextBlock = c.nextBlock)
    (howned : owned c = blocks + owned c') : Hands tr es c' := by
  constructor
  · rw [ledger_append, hes, hnext]
    simpa using inv.fresh
  · have htracks := inv.tracks
    rw [howned] at htracks
    rw [ledger_append, hes]
    exact htracks.releases

theorem OwnInv.hands (inv : OwnInv tr c) (hes : ledger es = [])
    (hnext : c'.nextBlock = c.nextBlock) (howned : owned c' = owned c) : Hands tr es c' := by
  have hnone : ledger es = ([] : List Nat).map .release := hes
  exact inv.deletes hnone hnext (by rw [howned, Multiset.coe_nil, zero_add])

theorem OwnInv.allocated (inv : OwnInv tr c) :
    Tracks (ledger tr ++ [.acquire c.nextBlock] ++ [.acquire (c.nextBlock + 1)])
      ((c.nextBlock + 1) ::ₘ c.nextBlock ::ₘ owned c) := by
  have hnew : ∀ {block}, c.nextBlock ≤ block → .acquire block ∉ ledger tr := fun hle hmem =>
    absurd (inv.fresh _ hmem) (Nat.not_lt.mpr hle)
  refine (inv.tracks.acquire (hnew (Nat.le_refl _))).acquire ?_
  rw [List.mem_append]
  intro h
  rcases h with hmem | hmem
  · exact hnew (Nat.le_succ _) hmem
  · simp at hmem

theorem OwnInv.enterMove (inv : OwnInv tr c) {action : Action} (h : EnterMove c action c' es) :
    Hands tr es c' := by
  have hfresh := inv.fresh
  have halloc := inv.allocated
  cases h with
  | rejected hidle hb hres _ => exact inv.hands rfl rfl rfl
  | lockFailed hidle hb hres _ =>
    constructor
    · intro block hmem
      rw [ledger_append, List.mem_append] at hmem
      rcases hmem with hmem | hmem
      · exact Nat.lt_add_right 2 (hfresh block hmem)
      · simp [ledger] at hmem
        rcases hmem with rfl | rfl
        · exact Nat.lt_succ_of_lt (Nat.lt_succ_self _)
        · exact Nat.lt_succ_self _
    · rw [Multiset.cons_swap] at halloc
      have hfreed := halloc.release.release
      simpa [ledger_append, ledger, owned, hidle, CallerPc.request] using hfreed
  | @prepared _ _ _ b p r pc hidle hb hres hr hpc =>
    have hreq : pc.request = some r := by
      rw [hpc]
      split <;> rfl
    have hblocks : r.sensorBuffers = c.nextBlock ∧ r.buffers = c.nextBlock + 1 := by
      rw [hr]
      exact ⟨rfl, rfl⟩
    constructor
    · intro block hmem
      rw [ledger_append, List.mem_append] at hmem
      rcases hmem with hmem | hmem
      · exact Nat.lt_add_right 2 (hfresh block hmem)
      · simp [ledger, hblocks] at hmem
        rcases hmem with rfl | rfl
        · exact Nat.lt_succ_of_lt (Nat.lt_succ_self _)
        · exact Nat.lt_succ_self _
    · have howned : owned { c with
          mStatus := b.mStatus, table := b.table, caller := pc, nextBlock := c.nextBlock + 2 } =
          (c.nextBlock + 1) ::ₘ c.nextBlock ::ₘ owned c := by
        have hnone : c.caller.request = none := by rw [hidle]; rfl
        rw [Multiset.cons_swap]
        simp only [owned, hreq, hnone, Request.blocks, hblocks, Option.toList_some,
          Option.toList_none, List.flatMap_cons, List.flatMap_nil, List.append_nil,
          ← Multiset.cons_coe, Multiset.coe_nil, zero_add, Multiset.cons_add]
      rw [howned]
      simpa [ledger_append, ledger, hblocks] using halloc
  | alreadyClosed hidle hclosed => exact inv.hands rfl rfl rfl
  | closing hidle hclosed =>
    exact inv.hands rfl rfl (by simp [owned, hidle, CallerPc.request])

theorem owned_congr (hcall : c'.caller.request = c.caller.request)
    (hqueue : c'.readout.mInFlightQueue = c.readout.mInFlightQueue)
    (hreadout : c'.readout.blocks = c.readout.blocks)
    (hjpeg : c'.jpeg.blocks = c.jpeg.blocks) : owned c' = owned c := by
  rw [owned, owned, hcall, hqueue, hreadout, hjpeg]

theorem owned_queued {r : Request} {caller : CallerPc} {readout : Readout}
    (hreq : c.caller.request = some r) (hreq' : caller.request = none)
    (hreadout : readout = { c.readout with
      mInFlightQueue := c.readout.mInFlightQueue ++ [r]
      pc := if c.readout.pc = .waitRequest then .wokenRequest else c.readout.pc }) :
    owned { c with caller := caller, readout := readout } = owned c := by
  have hblocks : readout.blocks = c.readout.blocks := by
    by_cases hw : c.readout.pc = .waitRequest
    · simp [hreadout, Readout.blocks, hw, ReadoutPc.gone]
    · simp [hreadout, Readout.blocks, hw]
  have hqueue : readout.mInFlightQueue = c.readout.mInFlightQueue ++ [r] := by rw [hreadout]
  simp only [owned, hreq, hreq', hblocks, hqueue, Option.toList_some, Option.toList_none,
    List.flatMap_append, List.flatMap_singleton, List.flatMap_nil, Multiset.coe_nil,
    ← Multiset.coe_add]
  abel

theorem OwnInv.callerMove (inv : OwnInv tr c) {res : WaitResult}
    (hok : c.errorExit res = none) (h : CallerMove c res c' es) : Hands tr es c' := by
  cases h with
  | failed hfail => simp [hfail.errorExit] at hok
  | waits hbefore hreq hreserve hdelivered => exact inv.hands rfl rfl (owned_congr hreq rfl rfl rfl)
  | reserved hpc hbusy => exact inv.hands rfl rfl (owned_congr (by rw [hpc]; rfl) rfl rfl rfl)
  | queued hpc => exact inv.hands rfl rfl (owned_queued (by rw [hpc]; rfl) rfl rfl)
  | released hpc =>
    have hqueue : c.readout.mInFlightQueue = [] :=
      (inv.idle.shut.drained (inv.idle.shut.cleared (by rw [hpc]; rfl))).1
    refine inv.hands ?_ rfl (owned_congr (by rw [hpc]; rfl) hqueue.symm rfl rfl)
    rw [hqueue]
    rfl
  | _ => exact inv.hands rfl rfl (owned_congr (by simp only [*]; rfl) rfl rfl rfl)

theorem OwnInv.sensorMove (inv : OwnInv tr c) (h : SensorMove c c' es) : Hands tr es c' := by
  cases h <;> exact inv.hands rfl rfl rfl

theorem Readout.blocks_of_running {readout : Readout} (h : readout.pc.gone = false) :
    readout.blocks =
      readout.mCurrentRequest.toList.map Request.buffers ++ readout.sensorBuffers.toList := by
  simp [Readout.blocks, h]

theorem Readout.blocks_congr {readout readout' : Readout} (h : readout.pc.gone = false)
    (h' : readout'.pc.gone = false) (hcur : readout'.mCurrentRequest = readout.mCurrentRequest)
    (hbuffers : readout'.sensorBuffers = readout.sensorBuffers) :
    readout'.blocks = readout.blocks := by
  rw [Readout.blocks_of_running h, Readout.blocks_of_running h', hcur, hbuffers]

theorem OwnInv.blocks_gone (inv : OwnInv tr c) {readout : Readout}
    (hpc : c.readout.pc.gone = false) (hcur : c.readout.mCurrentRequest = none)
    (hgone : readout.pc.gone = true) : readout.blocks = c.readout.blocks := by
  rw [Readout.blocks_of_running hpc, hcur, inv.unloaded hcur]
  simp [Readout.blocks, hgone]

theorem OwnInv.owned_takes (inv : OwnInv tr c) {r : Request} {rest : List Request}
    {readout : Readout} (hpc : c.readout.pc.gone = false)
    (hcur : c.readout.mCurrentRequest = none) (hqueue : c.readout.mInFlightQueue = r :: rest)
    (hpc' : readout.pc.gone = false) (hqueue' : readout.mInFlightQueue = rest)
    (hcur' : readout.mCurrentRequest = some r)
    (hbuffers' : readout.sensorBuffers = some r.sensorBuffers) :
    owned { c with readout := readout } = owned c := by
  have hbefore : c.readout.blocks = [] := by
    rw [Readout.blocks_of_running hpc, hcur, inv.unloaded hcur]
    rfl
  have hafter : readout.blocks = [r.buffers, r.sensorBuffers] := by
    rw [Readout.blocks_of_running hpc', hcur', hbuffers']
    rfl
  have hblocks : (r.blocks : Multiset Nat) = ([r.buffers, r.sensorBuffers] : List Nat) :=
    Multiset.coe_eq_coe.mpr (List.Perm.swap _ _ _)
  simp only [owned, hbefore, hafter, hqueue, hqueue', List.flatMap_cons, ← Multiset.coe_add,
    Multiset.coe_nil, hblocks]
  abel

theorem OwnInv.owned_jpegStarted (inv : OwnInv tr c) {readout : Readout}
    (hstarting : c.readout.pc.starting = true) (hidle : c.jpeg.pc = .idle)
    (hpc' : readout.pc.gone = false) (hqueue : readout.mInFlightQueue = c.readout.mInFlightQueue)
    (hcur : readout.mCurrentRequest = c.readout.mCurrentRequest)
    (hbuffers : readout.sensorBuffers = none) :
    owned { c with readout := readout, jpeg := { c.jpeg with pc := .compress } } = owned c := by
  have hpc : c.readout.pc.gone = false := by
    cases hp : c.readout.pc <;> simp [hp, ReadoutPc.starting] at hstarting
    rfl
  have hgiven := (inv.jpeg.starting hstarting).2
  simp only [owned, Readout.blocks_of_running hpc, Readout.blocks_of_running hpc', hqueue, hcur,
    hbuffers, Jpeg.blocks, hidle, JpegPc.running, hgiven, ↓reduceIte, Bool.false_eq_true,
    Option.toList_none, List.append_nil, ← Multiset.coe_add, Multiset.coe_nil]
  abel

theorem owned_sent {r : Request} {readout : Readout}
    (hpc : c.readout.pc.gone = false) (hcur : c.readout.mCurrentRequest = some r)
    (hpc' : readout.pc.gone = false) (hqueue : readout.mInFlightQueue = c.readout.mInFlightQueue)
    (hcur' : readout.mCurrentRequest = none) (hbuffers : readout.sensorBuffers = none) :
    owned c = (r.buffers :: c.readout.sensorBuffers.toList : List Nat) +
      owned { c with readout := readout } := by
  simp only [owned, Readout.blocks_of_running hpc, Readout.blocks_of_running hpc', hqueue, hcur,
    hcur', hbuffers, Option.toList_none, Option.toList_some, List.map_cons, List.map_nil,
    List.append_nil, List.singleton_append, Multiset.coe_nil]
  abel

theorem OwnInv.readoutMove (inv : OwnInv tr c) {res : WaitResult}
    (hstart : c.startsNull = false) (hrun : c.readout.pc.starting = true → res = .ok)
    (h : ReadoutMove c res c' es) : Hands tr es c' := by
  have hplace : ∀ {pc : ReadoutPc} {readout : Readout}, c.readout.pc = pc → pc.gone = false →
      readout.pc.gone = false → readout.mCurrentRequest = c.readout.mCurrentRequest →
      readout.sensorBuffers = c.readout.sensorBuffers → readout.blocks = c.readout.blocks := by
    intro _ readout heq hpc hpc' hcur hbuffers
    obtain rfl := heq
    exact Readout.blocks_congr hpc hpc' hcur hbuffers
  cases h with
  | exit hpc hexit =>
    have hawaited := (inv.idle.shut.drained (inv.idle.shut.exits hexit)).2
    have hcur : c.readout.mCurrentRequest = none := by simpa [Readout.awaited, hpc] using hawaited
    exact inv.hands rfl rfl
      (owned_congr rfl rfl (inv.blocks_gone (by rw [hpc]; rfl) hcur rfl) rfl)
  | waitFailed hpc hres =>
    have hcur := inv.jpeg.place.unheld (.inl hpc)
    exact inv.hands rfl rfl
      (owned_congr rfl rfl (inv.blocks_gone (by rw [hpc]; rfl) hcur rfl) rfl)
  | sensorMissing hpc hsensor =>
    have hawaited := (inv.idle.shut.drained hsensor).2
    simp [Readout.awaited, hpc] at hawaited
    exact absurd hawaited (inv.jpeg.place.holding (.inl hpc))
  | takes hfrom hqueue =>
    have hnone : c.readout.pc.gone = false ∧ c.readout.mCurrentRequest = none := by
      rcases hfrom with ⟨hpc, -, hcur⟩ | hpc
      · exact ⟨by rw [hpc]; rfl, hcur⟩
      · exact ⟨by rw [hpc]; rfl, inv.jpeg.place.unheld (.inr hpc)⟩
    exact inv.hands rfl rfl (inv.owned_takes hnone.1 hnone.2 hqueue rfl rfl rfl rfl)
  | frame hfrom hframe =>
    have hpc : c.readout.pc.gone = false := by
      rcases hfrom with ⟨hpc, -, -⟩ | ⟨hpc, -⟩ <;> rw [hpc] <;> rfl
    refine inv.hands ?_ rfl (owned_congr rfl rfl (hplace rfl hpc rfl rfl rfl) rfl)
    rcases hfrom with ⟨-, -, rfl⟩ | ⟨-, rfl⟩ <;> rfl
  | jpegOffered hpc hjpeg hwaiting hbusy =>
    have hnext := (inv.jpeg.jpegOffered hstart hpc hjpeg hwaiting hbusy).1
    have hstopped : c.jpeg.pc.running = false :=
      (hnext.not_running (by simp [Readout.jpegsToStart])).1
    refine inv.hands rfl rfl (owned_congr rfl rfl (hplace hpc rfl rfl rfl rfl) ?_)
    simp [Jpeg.blocks, hstopped]
  | jpegStarted hpc hres hidle =>
    exact inv.hands rfl rfl
      (inv.owned_jpegStarted (by rw [hpc]; rfl) hidle rfl rfl rfl rfl)
  | jpegStartFailed hpc hres => exact absurd (hrun (by rw [hpc]; rfl)) hres
  | @sent done needJpeg r hpc hcur =>
    have hgave := inv.jpeg.place.gave needJpeg (by rw [hpc]; rfl)
    have hbuffers : (if needJpeg = true then c.readout.sensorBuffers else none) = none := by
      split
      · rename_i hneed
        exact hgave.mp hneed
      · rfl
    refine inv.deletes ?_ rfl
      (owned_sent (by rw [hpc]; rfl) hcur rfl rfl rfl hbuffers)
    cases needJpeg with
    | true => simp [ledger, hgave.mp rfl]
    | false => cases c.readout.sensorBuffers <;> rfl
  | _ => exact inv.hands rfl rfl (owned_congr rfl rfl (hplace (by assumption) rfl rfl rfl rfl) rfl)

theorem OwnInv.jpegMove (inv : OwnInv tr c) (h : JpegMove c c' es) : Hands tr es c' := by
  cases h with
  | compressed hpc hbuffers =>
    exact inv.hands rfl rfl (owned_congr rfl rfl rfl (by simp [Jpeg.blocks, hpc, JpegPc.running]))
  | notified hpc hreadout hb =>
    exact inv.hands rfl rfl (owned_congr rfl rfl rfl (by simp [Jpeg.blocks, hpc, JpegPc.running]))
  | cleaned hpc =>
    have hbefore : c.jpeg.blocks = c.jpeg.mBuffers.toList := by
      simp [Jpeg.blocks, hpc, JpegPc.running]
    have hes : ledger ((c.jpeg.mBuffers.map Event.delete).toList ++ [.cleanedUp]) =
        c.jpeg.mBuffers.toList.map .release := by
      cases c.jpeg.mBuffers <;> rfl
    refine inv.deletes hes rfl ?_
    rw [owned, owned, hbefore, add_comm]
    congr 1
    exact (add_zero _).symm
  | exited hpc =>
    exact inv.hands rfl rfl (owned_congr rfl rfl rfl (by simp [Jpeg.blocks, hpc, JpegPc.running]))

theorem ReadoutMove.unloaded (place : ReadoutPlace c.readout) {res : WaitResult}
    (h : ReadoutMove c res c' es)
    (hbefore : c.readout.mCurrentRequest = none → c.readout.sensorBuffers = none) :
    c'.readout.mCurrentRequest = none → c'.readout.sensorBuffers = none := by
  cases h with
  | takes hfrom hqueue => simp
  | jpegStarted hpc hres hidle => exact fun _ => rfl
  | @sent done needJpeg r hpc hcur =>
    have hgave := place.gave needJpeg (by rw [hpc]; rfl)
    cases needJpeg with
    | true => simpa using hgave.mp rfl
    | false => exact fun _ => rfl
  | _ => exact hbefore

end Moves

theorem OwnInv.step {tr es : List Event} {c c' : Camera} {action : Action} (inv : OwnInv tr c)
    (hok : ListsKept c action) (h : cameraStep c action = some (c', es)) :
    OwnInv (tr ++ es) c' := by
  rcases cameraStep_moves h with hm | ⟨res, rfl, hm⟩ | ⟨-, hm⟩ | ⟨res, rfl, hm⟩ | hm
  · obtain ⟨hfresh, htracks⟩ := inv.enterMove hm
    have hreadout := hm.closed.2
    refine ⟨(inv.jpeg.enterMove hm).1, inv.idle.enterMove hok hm, ?_, hfresh, htracks⟩
    rw [hreadout]
    exact inv.unloaded
  · obtain ⟨hfresh, htracks⟩ := inv.callerMove hok hm
    refine ⟨(inv.jpeg.callerMove hm).1, inv.idle.callerMove hm, ?_, hfresh, htracks⟩
    cases hm <;> exact inv.unloaded
  · obtain ⟨hfresh, htracks⟩ := inv.sensorMove hm
    refine ⟨(inv.jpeg.sensorMove hm).1, inv.idle.sensorMove hm, ?_, hfresh, htracks⟩
    cases hm <;> exact inv.unloaded
  · obtain ⟨hfresh, htracks⟩ := inv.readoutMove hok.1 hok.2 hm
    exact ⟨(inv.jpeg.readoutMove hok.1 hm).1, inv.idle.readoutMove inv.jpeg.place.toHolds hm,
      hm.unloaded inv.jpeg.place inv.unloaded, hfresh, htracks⟩
  · obtain ⟨hfresh, htracks⟩ := inv.jpegMove hm
    refine ⟨(inv.jpeg.jpegMove hm).1, inv.idle.jpegMove hm, ?_, hfresh, htracks⟩
    cases hm <;> exact inv.unloaded

def Camera.settled (c : Camera) : Prop :=
  c.caller.request = none ∧ c.readout.mInFlightQueue = [] ∧ c.readout.mCurrentRequest = none ∧
    c.jpeg.pc.running = false

/-- Every list that was allocated has one owner until it is deleted, and is deleted once. -/
structure ListsOwned (tr : List Event) (c : Camera) : Prop where
  once : ∀ block, .alloc block ∈ tr → tr.count (.delete block) + (owned c).count block = 1
  allocated : ∀ block, .delete block ∈ tr ∨ block ∈ owned c → .alloc block ∈ tr
  deleted : c.settled → ∀ block, .alloc block ∈ tr → tr.count (.delete block) = 1

theorem OwnInv.owned_settled {tr : List Event} {c : Camera} (inv : OwnInv tr c)
    (h : c.settled) : owned c = 0 := by
  obtain ⟨hcall, hqueue, hcur, hjpeg⟩ := h
  simp [owned, hcall, hqueue, Readout.blocks, hcur, inv.unloaded hcur, Jpeg.blocks, hjpeg]

theorem OwnInv.listsOwned {tr : List Event} {c : Camera} (inv : OwnInv tr c) :
    ListsOwned tr c := by
  have hcount : ∀ block, tr.count (.alloc block) =
      tr.count (.delete block) + (owned c).count block ∧ tr.count (.alloc block) ≤ 1 := by
    intro block
    obtain ⟨hacquire, hrelease⟩ := count_ledger tr block
    rw [← hacquire, ← hrelease]
    exact inv.tracks.count block
  have honce : ∀ block, .alloc block ∈ tr →
      tr.count (.delete block) + (owned c).count block = 1 := by
    intro block hmem
    have hpos := List.count_pos_iff.mpr hmem
    have hblock := hcount block
    omega
  refine ⟨honce, fun block h => ?_, fun hsettled block hmem => ?_⟩
  · have hblock := hcount block
    apply List.count_pos_iff.mp
    rcases h with hdel | howned
    · have hpos := List.count_pos_iff.mpr hdel
      omega
    · have hpos := Multiset.count_pos.mpr howned
      omega
  · have hblock := honce block hmem
    rwa [inv.owned_settled hsettled, Multiset.count_zero, add_zero] at hblock

/-- In every run of such steps the lists have one owner each and are deleted once. -/
theorem lists_owned {c₀ c : Camera} {tr : List Event} (h₀ : AtRest c₀)
    (run : camera.Run ListsKept c₀ tr c) : ListsOwned tr c := by
  have hinv := run.invariant (P := OwnInv) (ownInv_atRest h₀) fun inv hok h => inv.step hok h
  exact hinv.listsOwned

theorem lists_owned_jpeg : ∃ tr c, camera.Run ListsKept (blobCamera (.other 0)) tr c ∧
    (.closed .ok ∈ tr ∧ .delete 0 ∈ tr ∧ .delete 1 ∈ tr) ∧ ListsOwned tr c := by
  obtain ⟨tr, c, run, hdeleted⟩ := camera.run_of_exec ListsKept (blobCamera (.other 0))
    (blobRun ++ List.replicate 6 (Action.readout .ok) ++ List.replicate 3 (Action.jpeg true) ++
      [Action.closeCamera] ++ List.replicate 2 Action.sensor ++
      List.replicate 3 (Action.caller .ok) ++ [Action.readout .ok] ++
      List.replicate 2 (Action.caller .ok))
    (fun _ tr => .closed .ok ∈ tr ∧ .delete 0 ∈ tr ∧ .delete 1 ∈ tr) (by decide +kernel)
  exact ⟨tr, c, run, hdeleted, lists_owned (blobCamera_atRest _) run⟩

def ClosesIdle (c : Camera) (action : Action) : Prop :=
  action.isClose = true → c.mStatus = .closed ∨ isIdle c.readout

instance (c : Camera) (action : Action) : Decidable (ClosesIdle c action) :=
  inferInstanceAs (Decidable (_ → _))

/-- `Thread::run` fails: `start` deletes the list it was given, and the readout thread, which
still has it, deletes it again. -/
theorem failed_start_deletes_twice :
    ¬ ∀ {c₀ c : Camera} {tr : List Event}, AtRest c₀ → camera.Run ClosesIdle c₀ tr c →
      ListsOwned tr c := by
  intro h
  obtain ⟨tr, c, run, halloc, htwice⟩ := camera.run_of_exec ClosesIdle (blobCamera (.other 0))
    (blobRun ++ List.replicate 2 (Action.readout .ok) ++ [Action.readout .failed] ++
      List.replicate 3 (Action.readout .ok))
    (fun _ tr => .alloc 0 ∈ tr ∧ tr.count (.delete 0) = 2) (by decide +kernel)
  have honce := (h (blobCamera_atRest _) run).once 0 halloc
  omega

end Rpi3Device.Camera3
