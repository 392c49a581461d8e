import Mathlib.Tactic
import Rpi3Device.ResourceLedger
import Rpi3Device.Camera2.RequestPipeline

/-!
# The way of the buffers back to their streams

A buffer that is dequeued and locked for a request goes with it through the ring and
is unlocked and enqueued by the readout thread. Three ways out are missing: a JPEG
buffer is given to a compressor that nobody has reserved and that refuses it, a
failed `getBuffers` is not noticed, so the readout thread returns what was never
locked or was cancelled before, and a buffer that its stream refuses is forgotten.
The ledgers of the dequeued and of the locked buffers are kept by the same argument.
-/

namespace Rpi3Device.Camera2
open Camera3 TransitionSystem RingBuffer ResourceLedger

def outputIds (buffers : List StreamBuffer) : List Nat :=
  buffers.filterMap fun b => if b.isOutput = true then b.buffer else none

def heldBy (es : List InFlight) : Multiset Nat := es.flatMap fun e => outputIds e.buffers

def ownedIds (s : PipelineState) (inFlight : List InFlight) : Multiset Nat :=
  outputIds s.configure.mNextBuffers + heldBy inFlight + heldBy s.readout.current.toList +
    heldBy s.dropped

structure Reads (L : PipelineEvent → List (Op Nat)) : Prop where
  got : ∀ id, L (.dequeue id) ++ L (.lock id) = [.acquire id]
  returned : ∀ id, L (.unlock (some id)) ++ L (.enqueue (some id)) = [.release id]
  input : ∀ id, L (.acquireInput id) ++ L (.lockInput id) = []
  request : ∀ e, L (.configured e) = [] ∧ L (.dropped e) = [] ∧ L (.taken e) = [] ∧
    L (.completed e) = []

def Returnable (buffers : List StreamBuffer) : Prop :=
  ∀ b ∈ buffers, b.isOutput = true → b.buffer ≠ none ∧ b.format ≠ .blob

def GetOutcomes.Good (o : GetOutcomes) (i n : Nat) : Prop :=
  ∀ j < n, o.dequeue (i + j) = true ∧ o.lock (i + j) = true

theorem GetOutcomes.Good.head {o : GetOutcomes} {i n : Nat} (h : o.Good i (n + 1)) :
    o.dequeue i = true ∧ o.lock i = true :=
  h 0 (Nat.zero_lt_succ n)

theorem GetOutcomes.Good.tail {o : GetOutcomes} {i n : Nat} (h : o.Good i (n + 1)) :
    o.Good (i + 1) n := by
  intro j hj
  have hnext := h (j + 1) (Nat.succ_lt_succ hj)
  rwa [Nat.add_comm j 1, ← Nat.add_assoc] at hnext

section Ledger
variable {L : PipelineEvent → List (Op Nat)}

theorem returnBuffers_ledger (hL : Reads L) {enqueued : Nat → Bool} {i : Nat}
    {buffers : List StreamBuffer} (h : Returnable buffers)
    (henqueued : ∀ j < buffers.length, enqueued (i + j) = true) :
    (returnBuffers enqueued i buffers).flatMap L = (outputIds buffers).map .release := by
  induction buffers generalizing i with
  | nil => rfl
  | cons b rest ih =>
    have hhead : enqueued i = true := henqueued 0 (Nat.zero_lt_succ _)
    have ih := @ih (i + 1) (fun b' hb' => h b' (List.mem_cons_of_mem b hb')) fun j hj => by
      have hnext := henqueued (j + 1) (Nat.succ_lt_succ hj)
      rwa [Nat.add_comm j 1, ← Nat.add_assoc] at hnext
    simp only [returnBuffers, outputIds] at ih ⊢
    cases hout : b.isOutput with
    | false => simpa [List.filterMap_cons, hout] using ih
    | true =>
      obtain ⟨hbuffer, hformat⟩ := h b (List.mem_cons_self ..) hout
      obtain ⟨id, hid⟩ := Option.ne_none_iff_exists'.mp hbuffer
      have hback := hL.returned id
      simp only [returnBuffer, hhead, hformat, ne_eq, not_false_eq_true, and_self, ↓reduceIte,
        List.flatMap_append, List.flatMap_cons, List.filterMap_cons, hout, hid, List.map_cons,
        List.flatMap_nil, List.append_nil]
      rw [hback, ih]
      rfl

theorem getBuffers_tracks (hL : Reads L) (o : GetOutcomes) (buffers : List StreamBuffer)
    {i nextBuffer : Nat} {ops : List (Op Nat)} {owned : Multiset Nat}
    (hok : o.Good i buffers.length)
    (hfresh : ∀ id, .acquire id ∈ ops → id < nextBuffer) (t : Tracks ops owned) :
    Tracks (ops ++ (getBuffers o i nextBuffer buffers).2.2.flatMap L)
        (outputIds (getBuffers o i nextBuffer buffers).1 + owned) ∧
      ∀ id, .acquire id ∈ ops ++ (getBuffers o i nextBuffer buffers).2.2.flatMap L →
        id < (getBuffers o i nextBuffer buffers).2.1 := by
  induction buffers generalizing i nextBuffer ops owned with
  | nil => simpa [getBuffers, outputIds] using ⟨t, hfresh⟩
  | cons b rest ih =>
    obtain ⟨hdequeue, hlock⟩ := hok.head
    by_cases hout : b.streamId > 0
    · have hnew : Op.acquire nextBuffer ∉ ops := fun h => absurd (hfresh _ h) (Nat.lt_irrefl _)
      have hfresh' : ∀ id, Op.acquire id ∈ ops ++ [.acquire nextBuffer] → id < nextBuffer + 1 := by
        intro id hmem
        rcases List.mem_append.mp hmem with hmem | hmem
        · exact Nat.lt_succ_of_lt (hfresh id hmem)
        · simp only [List.mem_singleton, Op.acquire.injEq] at hmem
          omega
      obtain ⟨htracks, hbound⟩ := ih hok.tail hfresh' (t.acquire hnew)
      have hgot := hL.got nextBuffer
      have hids : outputIds (getBuffers o i nextBuffer (b :: rest)).1 =
          nextBuffer :: outputIds (getBuffers o (i + 1) (nextBuffer + 1) rest).1 := by
        simp [getBuffers, hdequeue, hlock, outputIds, StreamBuffer.isOutput, hout]
      have hevents : (getBuffers o i nextBuffer (b :: rest)).2.2.flatMap L =
          [.acquire nextBuffer] ++
            (getBuffers o (i + 1) (nextBuffer + 1) rest).2.2.flatMap L := by
        simp only [getBuffers, hdequeue, hlock, Bool.true_eq_false, ↓reduceIte, hout,
          List.flatMap_append, List.flatMap_cons, List.flatMap_nil, List.append_nil, hgot]
      have hnext : (getBuffers o i nextBuffer (b :: rest)).2.1 =
          (getBuffers o (i + 1) (nextBuffer + 1) rest).2.1 := by
        simp [getBuffers, hdequeue, hlock]
      rw [hids, hevents, hnext, ← List.append_assoc]
      refine ⟨?_, hbound⟩
      rw [← Multiset.cons_coe, Multiset.cons_add, ← Multiset.add_cons]
      exact htracks
    · have hfresh' : ∀ id, Op.acquire id ∈ ops → id < nextBuffer + 1 :=
        fun id hmem => Nat.lt_succ_of_lt (hfresh id hmem)
      have hinput := hL.input nextBuffer
      have hids : outputIds (getBuffers o i nextBuffer (b :: rest)).1 =
          outputIds (getBuffers o (i + 1) (nextBuffer + 1) rest).1 := by
        simp [getBuffers, hdequeue, hlock, outputIds, StreamBuffer.isOutput, hout]
      have hevents : (getBuffers o i nextBuffer (b :: rest)).2.2.flatMap L =
          (getBuffers o (i + 1) (nextBuffer + 1) rest).2.2.flatMap L := by
        simp only [getBuffers, hdequeue, hlock, Bool.true_eq_false, ↓reduceIte, hout,
          List.flatMap_append, List.flatMap_cons, List.flatMap_nil, List.append_nil, hinput,
          List.nil_append]
      have hnext : (getBuffers o i nextBuffer (b :: rest)).2.1 =
          (getBuffers o (i + 1) (nextBuffer + 1) rest).2.1 := by
        simp [getBuffers, hdequeue, hlock]
      rw [hids, hevents, hnext]
      exact ih hok.tail hfresh' t

theorem getBuffers_returnable (o : GetOutcomes) (buffers : List StreamBuffer) {i nextBuffer : Nat}
    (hok : o.Good i buffers.length)
    (hjpeg : ∀ b ∈ buffers, b.isOutput = true → b.format ≠ .blob) :
    Returnable (getBuffers o i nextBuffer buffers).1 := by
  induction buffers generalizing i nextBuffer with
  | nil => simp [getBuffers, Returnable]
  | cons b rest ih =>
    obtain ⟨hdequeue, hlock⟩ := hok.head
    have ih := @ih (i + 1) (nextBuffer + 1) hok.tail fun b' hb' =>
      hjpeg b' (List.mem_cons_of_mem b hb')
    simp only [getBuffers, hdequeue, hlock, Bool.true_eq_false, ↓reduceIte]
    intro b' hb' hout
    rcases List.mem_cons.mp hb' with rfl | hb'
    · exact ⟨by simp, hjpeg b (List.mem_cons_self ..) hout⟩
    · exact ih b' hb' hout

end Ledger

def PipelineAction.gets : PipelineAction → Option (Bool × GetOutcomes)
  | .getBuffers vsync o => some (vsync, o)
  | _ => none

def PipelineAction.enqueues : PipelineAction → Option (Nat → Bool)
  | .readout true enqueued _ => some enqueued
  | _ => none

/-- `getBuffers` runs with good outcomes and without a JPEG buffer, and the streams take every
buffer that the readout thread enqueues. -/
def buffersGood (s : PipelineState) (a : PipelineAction) : Prop :=
  (∀ g ∈ a.gets, ¬ (s.configure.mNextIsCapture = true ∧ g.1 = false) →
    g.2.Good 0 s.configure.mNextBuffers.length ∧
      ∀ b ∈ s.configure.mNextBuffers, b.isOutput = true → b.format ≠ .blob) ∧
  ∀ enqueued ∈ a.enqueues, ∀ e ∈ s.readout.current,
    ∀ i < e.buffers.length, enqueued i = true

instance (o : GetOutcomes) (i n : Nat) : Decidable (o.Good i n) :=
  inferInstanceAs (Decidable (∀ j < n, _ ∧ _))

instance (s : PipelineState) (a : PipelineAction) : Decidable (buffersGood s a) :=
  inferInstanceAs (Decidable ((∀ g ∈ a.gets, ¬ _ → _ ∧ ∀ b ∈ _, _ → _) ∧
    ∀ enqueued ∈ a.enqueues, ∀ e ∈ s.readout.current, ∀ i < _, _))

structure ReturnInv (L : PipelineEvent → List (Op Nat)) (tr : List PipelineEvent)
    (s : PipelineState) (inFlight : List InFlight) : Prop where
  represents : Represents kInFlightQueueSize s.readout.ring inFlight
  idle : s.mIsBusy = false ∧ s.compressing = none
  bare : s.configure.place ≠ .handOver → ∀ b ∈ s.configure.mNextBuffers, b.buffer = none
  next : s.configure.place = .handOver → Returnable s.configure.mNextBuffers
  queued : ∀ e ∈ inFlight, Returnable e.buffers
  current : ∀ e ∈ s.readout.current, Returnable e.buffers
  fresh : ∀ id, .acquire id ∈ tr.flatMap L → id < s.nextBuffer
  tracks : Tracks (tr.flatMap L) (ownedIds s inFlight)
  completed : ∀ e, PipelineEvent.completed e ∈ tr → ∀ b ∈ e.buffers, b.isOutput = true →
    ∃ id, b.buffer = some id ∧ .release id ∈ tr.flatMap L

theorem getBuffers_not_completed (o : GetOutcomes) (i nextBuffer : Nat)
    (buffers : List StreamBuffer) (e : InFlight) :
    PipelineEvent.completed e ∉ (getBuffers o i nextBuffer buffers).2.2 := by
  induction buffers generalizing i nextBuffer with
  | nil => simp [getBuffers]
  | cons b rest ih =>
    simp only [getBuffers]
    split_ifs with hdequeue hlock hout hout
    · simp
    · simp
    · simp
    · simpa using ih (i + 1) (nextBuffer + 1)
    · simpa using ih (i + 1) (nextBuffer + 1)

theorem returnBuffer_not_completed (enqueued : Bool) (b : StreamBuffer) (e : InFlight) :
    PipelineEvent.completed e ∉ returnBuffer enqueued b := by
  cases enqueued <;> simp [returnBuffer]

theorem returnBuffers_not_completed (enqueued : Nat → Bool) (i : Nat)
    (buffers : List StreamBuffer) (e : InFlight) :
    PipelineEvent.completed e ∉ returnBuffers enqueued i buffers := by
  induction buffers generalizing i with
  | nil => simp [returnBuffers]
  | cons b rest ih =>
    intro he
    rcases List.mem_append.mp he with he | he
    · split_ifs at he
      · exact returnBuffer_not_completed _ b e he
      · simp at he
    · exact ih (i + 1) he

section Step
variable {L : PipelineEvent → List (Op Nat)} {tr es : List PipelineEvent} {s s' : PipelineState}
  {xs : List InFlight} {a : PipelineAction}

theorem outputIds_bare {buffers : List StreamBuffer} (h : ∀ b ∈ buffers, b.buffer = none) :
    outputIds buffers = [] := by
  refine List.filterMap_eq_nil_iff.mpr fun b hb => ?_
  rw [h b hb]
  split <;> rfl

theorem ReturnInv.configureMove (inv : ReturnInv L tr s xs) (t : ConfigureThread)
    (hplace : s.configure.place ≠ .handOver) (hplace' : t.place ≠ .handOver)
    (hbuffers : t.mNextBuffers = s.configure.mNextBuffers ∨ ∀ b ∈ t.mNextBuffers, b.buffer = none)
    (queue : List Request) (notifying : Nat) :
    ReturnInv L (tr ++ [])
      { s with queue := queue, notifying := notifying, configure := t } xs := by
  have hbare : ∀ b ∈ t.mNextBuffers, b.buffer = none := by
    rcases hbuffers with hsame | hbare
    · rw [hsame]
      exact inv.bare hplace
    · exact hbare
  rw [List.append_nil]
  refine { inv with bare := fun _ => hbare, next := fun h => absurd h hplace', tracks := ?_ }
  have htracks := inv.tracks
  simp only [ownedIds, outputIds_bare hbare, outputIds_bare (inv.bare hplace)] at htracks ⊢
  exact htracks

theorem ReturnInv.completed_append (inv : ReturnInv L tr s xs)
    (hes : ∀ e, PipelineEvent.completed e ∈ es → ∀ b ∈ e.buffers, b.isOutput = true →
      ∃ id, b.buffer = some id ∧ .release id ∈ es.flatMap L) :
    ∀ e, PipelineEvent.completed e ∈ tr ++ es → ∀ b ∈ e.buffers, b.isOutput = true →
      ∃ id, b.buffer = some id ∧ .release id ∈ (tr ++ es).flatMap L := by
  intro e he b hb hout
  rw [List.flatMap_append]
  rcases List.mem_append.mp he with he | he
  · obtain ⟨id, hid, hmem⟩ := inv.completed e he b hb hout
    exact ⟨id, hid, List.mem_append_left _ hmem⟩
  · obtain ⟨id, hid, hmem⟩ := hes e he b hb hout
    exact ⟨id, hid, List.mem_append_right _ hmem⟩

theorem ReturnInv.unread (inv : ReturnInv L tr s xs) {xs' : List InFlight}
    (hes : es.flatMap L = []) (hcompleted : ∀ e, PipelineEvent.completed e ∉ es)
    (hnext : s'.nextBuffer = s.nextBuffer) (howned : ownedIds s' xs' = ownedIds s xs)
    (hrepresents : Represents kInFlightQueueSize s'.readout.ring xs')
    (hidle : s'.mIsBusy = false ∧ s'.compressing = none)
    (hbare : s'.configure.place ≠ .handOver → ∀ b ∈ s'.configure.mNextBuffers, b.buffer = none)
    (hready : s'.configure.place = .handOver → Returnable s'.configure.mNextBuffers)
    (hqueued : ∀ e ∈ xs', Returnable e.buffers)
    (hcurrent : ∀ e ∈ s'.readout.current, Returnable e.buffers) :
    ReturnInv L (tr ++ es) s' xs' := by
  refine ⟨hrepresents, hidle, hbare, hready, hqueued, hcurrent, ?_, ?_,
    inv.completed_append fun e he => absurd he (hcompleted e)⟩
  · rw [List.flatMap_append, hes, List.append_nil, hnext]
    exact inv.fresh
  · rw [List.flatMap_append, hes, List.append_nil, howned]
    exact inv.tracks

theorem ReturnInv.getBuffers (hL : Reads L) (inv : ReturnInv L tr s xs) (o : GetOutcomes)
    (hplace : s.configure.place = .configure) (hgood : o.Good 0 s.configure.mNextBuffers.length)
    (hjpeg : ∀ b ∈ s.configure.mNextBuffers, b.isOutput = true → b.format ≠ .blob) :
    ReturnInv L (tr ++ (Camera2.getBuffers o 0 s.nextBuffer s.configure.mNextBuffers).2.2)
      { s with
        nextBuffer := (Camera2.getBuffers o 0 s.nextBuffer s.configure.mNextBuffers).2.1
        configure := { s.configure with
          place := .handOver
          mNextBuffers := (Camera2.getBuffers o 0 s.nextBuffer s.configure.mNextBuffers).1 } }
      xs := by
  have hbare := outputIds_bare (inv.bare (by simp [hplace]))
  obtain ⟨htracks, hfresh⟩ := getBuffers_tracks hL o s.configure.mNextBuffers hgood inv.fresh
    inv.tracks
  rw [← List.flatMap_append] at htracks hfresh
  refine ⟨inv.represents, inv.idle, fun h => absurd rfl h,
    fun _ => getBuffers_returnable o _ hgood hjpeg, inv.queued, inv.current, hfresh, ?_, ?_⟩
  · have howned : ownedIds s xs = heldBy xs + heldBy s.readout.current.toList +
        heldBy s.dropped := by
      rw [ownedIds, hbare, Multiset.coe_nil, zero_add]
    rw [howned] at htracks
    simpa only [ownedIds, add_assoc] using htracks
  · exact inv.completed_append fun e he =>
      absurd he (getBuffers_not_completed o _ _ _ e)

theorem ReturnInv.complete (hL : Reads L) (inv : ReturnInv L tr s xs) {e : InFlight}
    (hcurrent : s.readout.current = some e) {enqueued : Nat → Bool}
    (henqueued : ∀ i < e.buffers.length, enqueued i = true) (run : StatusT) :
    ReturnInv L (tr ++ (returnBuffers enqueued 0 e.buffers ++ [.completed e])) { s with
      readout := { s.readout with place := .check, current := none }
      compressing := if needsCompression e.buffers = true ∧ jpegStart s.mIsBusy run = .ok
        then some e.buffers else s.compressing } xs := by
  have hreturnable := inv.current e hcurrent
  have hledger : (returnBuffers enqueued 0 e.buffers ++ [PipelineEvent.completed e]).flatMap L =
      (outputIds e.buffers).map .release := by
    rw [List.flatMap_append, returnBuffers_ledger hL hreturnable (by simpa using henqueued)]
    simp [(hL.request e).2.2.2]
  refine ⟨inv.represents, ⟨inv.idle.1, ?_⟩, inv.bare, inv.next, inv.queued, by simp, ?_, ?_, ?_⟩
  · simp [jpegStart, inv.idle]
  · intro id hid
    rw [List.flatMap_append, hledger, List.mem_append] at hid
    rcases hid with hid | hid
    · exact inv.fresh id hid
    · simp at hid
  · have htracks := inv.tracks
    have howned : ownedIds s xs = outputIds e.buffers +
        (outputIds s.configure.mNextBuffers + heldBy xs + heldBy s.dropped) := by
      simp only [ownedIds, hcurrent, Option.toList_some, heldBy, List.flatMap_cons,
        List.flatMap_nil, List.append_nil]
      abel
    rw [howned] at htracks
    rw [List.flatMap_append, hledger]
    have hreleased := htracks.releases
    simpa [ownedIds, heldBy] using hreleased
  · refine inv.completed_append fun e' he' b hb hout => ?_
    have heq : e' = e := by
      rcases List.mem_append.mp he' with he' | he'
      · exact absurd he' (returnBuffers_not_completed _ _ _ e')
      · simpa using he'
    subst heq
    obtain ⟨id, hid⟩ := Option.ne_none_iff_exists'.mp (hreturnable b hb hout).1
    refine ⟨id, hid, ?_⟩
    rw [hledger]
    refine List.mem_map_of_mem (List.mem_filterMap.mpr ⟨b, hb, ?_⟩)
    rw [if_pos hout, hid]

theorem ReturnInv.proceed (hL : Reads L) (inv : ReturnInv L tr s xs) :
    ∃ xs', ReturnInv L (tr ++ s.readout.proceed.2) { s with readout := s.readout.proceed.1 }
      xs' := by
  by_cases hcurrent : s.readout.current = none
  swap
  · simp only [ReadoutThread.proceed, ne_eq, hcurrent, not_false_eq_true, ↓reduceIte]
    exact ⟨xs, inv.unread rfl (by simp) rfl rfl inv.represents inv.idle inv.bare inv.next
      inv.queued inv.current⟩
  by_cases hempty : s.readout.ring.head = s.readout.ring.tail
  · simp only [ReadoutThread.proceed, ne_eq, hcurrent, not_true_eq_false, ↓reduceIte, hempty]
    exact ⟨xs, inv.unread rfl (by simp) rfl (by simp [ownedIds, hcurrent]) inv.represents inv.idle
      inv.bare inv.next inv.queued (by simp)⟩
  · simp only [ReadoutThread.proceed, ne_eq, hcurrent, not_true_eq_false, ↓reduceIte, hempty]
    cases xs with
    | nil => exact absurd (inv.represents.empty_iff.mpr rfl) hempty
    | cons x xs =>
      rw [inv.represents.head_eq]
      refine ⟨xs, inv.unread ?_ (by simp) rfl ?_ inv.represents.advance inv.idle inv.bare inv.next
        (fun e he => inv.queued e (List.mem_cons_of_mem x he)) ?_⟩
      · simp [(hL.request x).2.2.1]
      · simp only [ownedIds, hcurrent, heldBy, Option.toList_some, Option.toList_none,
          List.flatMap_cons, List.flatMap_nil, List.append_nil, ← Multiset.coe_add,
          Multiset.coe_nil, add_zero]
        abel
      · intro e he
        cases he
        exact inv.queued x (List.mem_cons_self ..)

theorem ownedIds_handedOver (s : PipelineState) (xs : List InFlight) (e : InFlight)
    (he : e.buffers = s.configure.mNextBuffers) :
    heldBy (xs ++ [e]) + heldBy s.readout.current.toList + heldBy s.dropped = ownedIds s xs ∧
      heldBy xs + heldBy s.readout.current.toList + heldBy (s.dropped ++ [e]) =
        ownedIds s xs := by
  simp only [ownedIds, heldBy, List.flatMap_append, List.flatMap_cons, List.flatMap_nil,
    List.append_nil, he, ← Multiset.coe_add]
  constructor
  · abel
  · abel

theorem returnInv_step (hL : Reads L) (inv : ReturnInv L tr s xs) (hok : buffersGood s a)
    (h : PipelineStep s a s' es) : ∃ xs', ReturnInv L (tr ++ es) s' xs' := by
  cases h with
  | enqueueRequest r =>
    exact ⟨xs, inv.unread rfl (by simp) rfl rfl inv.represents inv.idle inv.bare inv.next
      inv.queued inv.current⟩
  | newRequestAvailable hsome =>
    exact ⟨xs, inv.unread rfl (by simp) rfl rfl inv.represents inv.idle inv.bare inv.next
      inv.queued inv.current⟩
  | configureProceed hplace hactive =>
    refine ⟨xs, inv.configureMove s.configure.proceed ?_ ?_ (.inl rfl) _ _⟩
    · rcases hplace with hplace | hplace <;> simp [hplace]
    · simp only [ConfigureThread.proceed]
      split <;> simp
  | configureWait hplace =>
    exact ⟨xs, inv.configureMove { s.configure with place := .waiting }
      (by simp [hplace]) (by simp) (.inl rfl) _ _⟩
  | configureLoop hplace =>
    refine ⟨xs, inv.configureMove { s.configure with place := .check } ?_ (by simp) (.inl rfl) _ _⟩
    rcases hplace with hplace | ⟨hplace, -⟩ | hplace | hplace <;> simp [hplace]
  | configureExit hplace =>
    refine ⟨xs, inv.configureMove { s.configure with place := .exited } ?_ (by simp) (.inl rfl) _ _⟩
    rcases hplace with hplace | hplace <;> simp [hplace]
  | dequeueEmpty hplace hqueue =>
    exact ⟨xs, inv.configureMove { s.configure with place := .goInactive }
      (by simp [hplace]) (by simp) (.inl rfl) _ _⟩
  | dequeueRequest r rest hplace hqueue =>
    exact ⟨xs, inv.configureMove { s.configure with place := .setup, mRequest := some r }
      (by simp [hplace]) (by simp) (.inl rfl) _ _⟩
  | goInactive hplace =>
    exact ⟨xs, inv.configureMove { s.configure with place := .check, mActive := false }
      (by simp [hplace]) (by simp) (.inl rfl) _ _⟩
  | setup streams hplace =>
    refine ⟨xs, inv.configureMove (s.configure.setup streams) (by simp [hplace]) ?_ ?_ _ _⟩
    · rcases setup_place s.configure streams with hset | hset <;> simp [hset]
    · have hunset : ∀ streams : List (Int × PixelFormat),
          ∀ b ∈ streams.map (fun stream => (⟨stream.1, stream.2, none⟩ : StreamBuffer)),
            b.buffer = none := by
        intro streams b hb
        obtain ⟨stream, -, rfl⟩ := List.mem_map.mp hb
        rfl
      unfold ConfigureThread.setup
      split
      · exact .inr (hunset _)
      · exact .inr (hunset _)
      · exact .inl rfl
  | passReadout hplace hwaiting =>
    exact ⟨xs, inv.configureMove { s.configure with place := .waitJpeg }
      (by simp [hplace]) (by simp) (.inl rfl) _ _⟩
  | readyReadout hplace hroom =>
    exact ⟨xs, inv.configureMove
      { s.configure with place := .waitJpeg, mWaitingForReadout := false }
      (by simp [hplace]) (by simp) (.inl rfl) _ _⟩
  | passJpeg needsJpeg hplace =>
    exact ⟨xs, inv.configureMove
      { s.configure with place := .configure, mNextNeedsJpeg := needsJpeg }
      (by simp [hplace]) (by simp) (.inl rfl) _ _⟩
  | getBuffers o hplace hvsync =>
    obtain ⟨hgood, hjpeg⟩ := hok.1 _ rfl hvsync
    exact ⟨xs, inv.getBuffers hL o hplace hgood hjpeg⟩
  | handOver r hplace hroom =>
    refine ⟨_, inv.unread ?_ (by simp) rfl ?_ (inv.represents.push hroom _) inv.idle (by simp)
      (by simp) ?_ inv.current⟩
    · simp [(hL.request _).1]
    · rw [← (ownedIds_handedOver s xs
        ⟨s.configure.mNextIsCapture, r, s.configure.mNextBuffers⟩ rfl).1]
      simp [ownedIds, outputIds]
    · intro e he
      rcases List.mem_append.mp he with he | he
      · exact inv.queued e he
      · rw [List.mem_singleton.mp he]
        exact inv.next hplace
  | drop r hplace hroom =>
    refine ⟨xs, inv.unread ?_ (by simp) rfl ?_ inv.represents inv.idle (by simp) (by simp)
      inv.queued inv.current⟩
    · simp [(hL.request _).1, (hL.request _).2.1]
    · rw [← (ownedIds_handedOver s xs
        ⟨s.configure.mNextIsCapture, r, s.configure.mNextBuffers⟩ rfl).2]
      simp [ownedIds, outputIds]
  | readoutProceed => exact inv.proceed hL
  | readoutMove place =>
    exact ⟨xs, inv.unread rfl (by simp) rfl rfl inv.represents inv.idle inv.bare inv.next
      inv.queued inv.current⟩
  | @complete enqueued run e hcurrent =>
    exact ⟨xs, inv.complete hL hcurrent (hok.2 _ rfl e hcurrent) run⟩
  | compress jpegBuffer auxBuffer success enqueued hsome => exact absurd inv.idle.2 hsome

end Step

def returnLedger : PipelineEvent → List (Op Nat)
  | .dequeue id => [.acquire id]
  | .cancel id => [.release id]
  | .enqueue (some id) => [.release id]
  | _ => []

def lockLedger : PipelineEvent → List (Op Nat)
  | .lock id => [.acquire id]
  | .unlock (some id) => [.release id]
  | _ => []

theorem reads_returnLedger : Reads returnLedger :=
  ⟨fun _ => rfl, fun _ => rfl, fun _ => rfl, fun _ => ⟨rfl, rfl, rfl, rfl⟩⟩

theorem reads_lockLedger : Reads lockLedger :=
  ⟨fun _ => rfl, fun _ => rfl, fun _ => rfl, fun _ => ⟨rfl, rfl, rfl, rfl⟩⟩

theorem count_returnLedger (tr : List PipelineEvent) (id : Nat) :
    (tr.flatMap returnLedger).count (.acquire id) = tr.count (.dequeue id) ∧
      (tr.flatMap returnLedger).count (.release id) =
        tr.count (.enqueue (some id)) + tr.count (.cancel id) := by
  induction tr with
  | nil => exact ⟨rfl, rfl⟩
  | cons e tr ih =>
    have hone : (returnLedger e).count (.acquire id) = [e].count (.dequeue id) ∧
        (returnLedger e).count (.release id) =
          [e].count (.enqueue (some id)) + [e].count (.cancel id) := by
      cases e with
      | enqueue buffer => cases buffer <;> simp [returnLedger, List.count_singleton]
      | _ => simp [returnLedger, List.count_singleton]
    have hcount : ∀ e', (e :: tr).count e' = [e].count e' + tr.count e' := by
      intro e'
      rw [← List.singleton_append, List.count_append]
    rw [List.flatMap_cons, List.count_append, List.count_append, hone.1, hone.2, ih.1, ih.2,
      hcount, hcount, hcount]
    exact ⟨rfl, by omega⟩

theorem count_lockLedger (tr : List PipelineEvent) (id : Nat) :
    (tr.flatMap lockLedger).count (.acquire id) = tr.count (.lock id) ∧
      (tr.flatMap lockLedger).count (.release id) = tr.count (.unlock (some id)) := by
  induction tr with
  | nil => exact ⟨rfl, rfl⟩
  | cons e tr ih =>
    have hone : (lockLedger e).count (.acquire id) = [e].count (.lock id) ∧
        (lockLedger e).count (.release id) = [e].count (.unlock (some id)) := by
      cases e with
      | unlock buffer => cases buffer <;> simp [lockLedger, List.count_singleton]
      | _ => simp [lockLedger, List.count_singleton]
    have hcount : ∀ e', (e :: tr).count e' = [e].count e' + tr.count e' := by
      intro e'
      rw [← List.singleton_append, List.count_append]
    rw [List.flatMap_cons, List.count_append, List.count_append, hone.1, hone.2, ih.1, ih.2,
      hcount, hcount]
    exact ⟨rfl, rfl⟩

section Run
variable {mNextIsCapture mNextNeedsJpeg mWaitingForReadout : Bool} {tr : List PipelineEvent}
  {s : PipelineState}

theorem returnInv_run {L : PipelineEvent → List (Op Nat)} (hL : Reads L)
    (run : pipelineMachine.Run buffersGood
      (pipelineStart mNextIsCapture mNextNeedsJpeg mWaitingForReadout) tr s) :
    ∃ inFlight, ReturnInv L tr s inFlight := by
  induction run with
  | nil =>
    refine ⟨[], represents_empty (by decide), ⟨rfl, rfl⟩, by simp [pipelineStart],
      by simp [pipelineStart], by simp, by simp [pipelineStart], by simp, ?_, by simp⟩
    exact tracks_nil
  | snoc _ hok hs ih =>
    obtain ⟨inFlight, inv⟩ := ih
    exact returnInv_step hL inv hok (pipelineStep_of_step hs)

theorem ReturnInv.once {L : PipelineEvent → List (Op Nat)} {inFlight : List InFlight}
    (inv : ReturnInv L tr s inFlight) {e : InFlight} (he : .completed e ∈ tr) {b : StreamBuffer}
    (hb : b ∈ e.buffers) (hout : b.isOutput = true) :
    ∃ id, b.buffer = some id ∧ (tr.flatMap L).count (.acquire id) = 1 ∧
      (tr.flatMap L).count (.release id) = 1 := by
  obtain ⟨id, hid, hmem⟩ := inv.completed e he b hb hout
  obtain ⟨hcount, honce⟩ := inv.tracks.count id
  have hpos := List.count_pos_iff.mpr hmem
  exact ⟨id, hid, by omega, by omega⟩

/-- Where every `getBuffers` succeeds, no request has a JPEG output and no stream refuses a buffer,
each output buffer of a completed request was dequeued and locked once, unlocked once, and
enqueued or cancelled once. -/
theorem completed_buffers_returned (mNextIsCapture mNextNeedsJpeg mWaitingForReadout : Bool)
    (run : pipelineMachine.Run buffersGood
      (pipelineStart mNextIsCapture mNextNeedsJpeg mWaitingForReadout) tr s)
    {e : InFlight} (he : .completed e ∈ tr) {b : StreamBuffer} (hb : b ∈ e.buffers)
    (hout : b.isOutput = true) :
    ∃ id, b.buffer = some id ∧ tr.count (.dequeue id) = 1 ∧
      tr.count (.enqueue (some id)) + tr.count (.cancel id) = 1 ∧
      tr.count (.lock id) = 1 ∧ tr.count (.unlock (some id)) = 1 := by
  obtain ⟨inFlight, returns⟩ := returnInv_run reads_returnLedger run
  obtain ⟨inFlight', locks⟩ := returnInv_run reads_lockLedger run
  obtain ⟨id, hid, hdequeued, hreturned⟩ := returns.once he hb hout
  obtain ⟨id', hid', hlocked, hunlocked⟩ := locks.once he hb hout
  have hsame : id' = id := Option.some.inj (hid'.symm.trans hid)
  subst hsame
  rw [(count_returnLedger tr id').1] at hdequeued
  rw [(count_returnLedger tr id').2] at hreturned
  rw [(count_lockLedger tr id').1] at hlocked
  rw [(count_lockLedger tr id').2] at hunlocked
  exact ⟨id', hid, hdequeued, hreturned, hlocked, hunlocked⟩

end Run

def captureThrough (streams : List (Int × PixelFormat)) : List PipelineAction :=
  [.enqueueRequest ⟨1, some .capture⟩, .newRequestAvailable, .configureCheck, .dequeueRequest .ok,
    .setup (some streams), .waitForReady true, .waitForDone true, .getBuffers true {},
    .setNextOperation, .readoutCheck, .waitForNewFrame true, .readout true (fun _ => true) .ok]

def PipelineEvent.completes : PipelineEvent → Option InFlight
  | .completed e => some e
  | _ => none

theorem eq_of_completes {e' : PipelineEvent} {e : InFlight} (h : e ∈ e'.completes) :
    e' = .completed e := by
  cases e' with
  | completed e' =>
    cases h
    rfl
  | _ => cases h

theorem completed_buffers_returned_preview :
    ∃ tr s e b, pipelineMachine.Run buffersGood (pipelineStart false false false) tr s ∧
      .completed e ∈ tr ∧ b ∈ e.buffers ∧ b.isOutput = true ∧
      ∃ id, b.buffer = some id ∧ tr.count (.enqueue (some id)) + tr.count (.cancel id) = 1 := by
  obtain ⟨tr, s, run, e', hmem, e, he, b, hb, hout⟩ := Machine.run_of_exec pipelineMachine
    buffersGood (pipelineStart false false false) (captureThrough [(1, .rgba8888)])
    (fun _ tr => ∃ e' ∈ tr, ∃ e ∈ e'.completes, ∃ b ∈ e.buffers, b.isOutput = true)
    (by decide +kernel)
  rw [eq_of_completes he] at hmem
  obtain ⟨id, hid, -, hreturned, -⟩ := completed_buffers_returned _ _ _ run hmem hb hout
  exact ⟨tr, s, e, b, run, hmem, hb, hout, id, hid, hreturned⟩

/-- The compressor is idle and the capture completed, but its JPEG buffer has not gone back. -/
theorem jpeg_buffer_lost :
    ¬ ∀ (mNextIsCapture mNextNeedsJpeg mWaitingForReadout : Bool) (tr : List PipelineEvent)
        (s : PipelineState),
      pipelineMachine.Run (fun _ _ => True)
        (pipelineStart mNextIsCapture mNextNeedsJpeg mWaitingForReadout) tr s →
      s.mIsBusy = false → ∀ e, .completed e ∈ tr → ∀ b ∈ e.buffers, b.isOutput = true →
        ∀ id, b.buffer = some id → .dequeue id ∈ tr →
          tr.count (.enqueue (some id)) + tr.count (.cancel id) = 1 := by
  intro h
  obtain ⟨tr, s, run, hidle, e', hmem, e, he, b, hb, hout, id, hid, hdequeued, hnone⟩ :=
    Machine.run_of_exec pipelineMachine (fun _ _ => True) (pipelineStart false false false)
      (captureThrough [(1, .blob)])
      (fun s tr => s.mIsBusy = false ∧ ∃ e' ∈ tr, ∃ e ∈ e'.completes, ∃ b ∈ e.buffers,
        b.isOutput = true ∧ ∃ id ∈ b.buffer, .dequeue id ∈ tr ∧
          tr.count (.enqueue (some id)) + tr.count (.cancel id) = 0)
      (by decide +kernel)
  rw [eq_of_completes he] at hmem
  have hone := h _ _ _ tr s run hidle e hmem b hb hout id hid hdequeued
  omega

end Rpi3Device.Camera2
