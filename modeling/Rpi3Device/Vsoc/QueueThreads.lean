import Rpi3Device.Vsoc.CircularQueue
import Rpi3Device.Vsoc.SignalTable

/-!
# Threads on both sides of a circular queue

Any number of guest and host threads read from one queue and write to it. A call works under
the spin lock on what it found in the window, waits on a counter when it has to, and signals
the counter it moved to both sides: the peer first, and from there back to its own.
-/

namespace Rpi3Device.Vsoc
open TransitionSystem FutexMonitor CircularQueueBase

variable {θ : Type*}

def bothSides (side : θ → Side) : Sides θ Side := ⟨side, fun x => [x.peer, x]⟩

theorem mem_bothSides (side : θ → Side) (x y : Side) : x ∈ (bothSides side).route y := by
  cases x <;> cases y <;> simp [bothSides, Side.peer]

namespace CircularByteQueue

abbrev QueueEvent (θ : Type*) := θ × Call × CallResult

def bytesWritten (tr : List (QueueEvent θ)) : List UInt8 :=
  tr.flatMap fun e =>
    match e.2.1 with
    | .write bufferIn _ => if 0 ≤ e.2.2.rval then bufferIn else []
    | .read _ => []

def bytesRead (tr : List (QueueEvent θ)) : List UInt8 :=
  tr.flatMap fun e =>
    match e.2.1 with
    | .read _ => e.2.2.bufferOut
    | .write _ _ => []

/-- What a call may answer. -/
def Answered (sizeLog2 : ℕ) : Call → CallResult → Prop
  | .read maxSize, r =>
    r.rval = r.bufferOut.length ∧ r.bufferOut.length ≤ maxSize ∧ (0 < maxSize → r.bufferOut ≠ [])
  | .write bufferIn nonBlocking, r =>
    r.rval = bufferIn.length ∨
      r.rval = -ENOSPC ∧ bufferSize sizeLog2 < bufferIn.length ∨
      r.rval = -EWOULDBLOCK ∧ nonBlocking

def Carries (sizeLog2 start : ℕ) (tr : List (QueueEvent θ)) (q : CircularQueueBase) : Prop :=
  (∃ xs, bytesRead tr ++ xs = bytesWritten tr ∧
    Holds sizeLog2 q (start + (bytesRead tr).length) xs) ∧
  ∀ e ∈ tr, Answered sizeLog2 e.2.1 e.2.2

variable {sizeLog2 start : ℕ} {tr : List (QueueEvent θ)} {q q' : CircularQueueBase}

theorem bytesWritten_snoc (tr : List (QueueEvent θ)) (e : QueueEvent θ) :
    bytesWritten (tr ++ [e]) = bytesWritten tr ++ bytesWritten [e] := by
  simp [bytesWritten]

theorem bytesRead_snoc (tr : List (QueueEvent θ)) (e : QueueEvent θ) :
    bytesRead (tr ++ [e]) = bytesRead tr ++ bytesRead [e] := by
  simp [bytesRead]

inductive Done (sizeLog2 : ℕ) (q : CircularQueueBase) (released : ℕ) (xs : List UInt8) :
    Call → CircularQueueBase → CallResult → Option (QueueWord × ℕ) → Prop where
  | read {maxSize q'} : xs ≠ [] → q'.wPub = q.wPub →
      Holds sizeLog2 q' (released + (xs.take maxSize).length) (xs.drop maxSize) →
      Done sizeLog2 q released xs (.read maxSize) q'
        ⟨(xs.take maxSize).length, xs.take maxSize⟩ (some (.rReleased, (xs.take maxSize).length))
  | failed {bufferIn nonBlocking errno} : 0 < errno →
      Answered sizeLog2 (.write bufferIn nonBlocking) ⟨-errno, []⟩ →
      Done sizeLog2 q released xs (.write bufferIn nonBlocking) q ⟨-errno, []⟩ none
  | written {bufferIn nonBlocking q'} : q'.rReleased = q.rReleased →
      Holds sizeLog2 q' released (xs ++ bufferIn) →
      Done sizeLog2 q released xs (.write bufferIn nonBlocking) q' ⟨bufferIn.length, []⟩
        (some (.wPub, bufferIn.length))

variable {released : ℕ} {xs : List UInt8} {c : Call} {r : CallResult}
  {m : Option (QueueWord × ℕ)}

theorem done_of_body (h : Holds sizeLog2 q released xs) (hsize : sizeLog2 ≤ 30)
    (hbody : (monitor sizeLog2).body c q = .done q' r m) :
    Done sizeLog2 q released xs c q' r m := by
  cases c with
  | read maxSize =>
    simp only [monitor, read_eq h hsize] at hbody
    split at hbody <;> cases hbody
    have hall : xs.take maxSize ++ xs.drop maxSize = xs := List.take_append_drop maxSize xs
    exact .read ‹_› rfl (Holds.release (hall.symm ▸ h))
  | write bufferIn nonBlocking =>
    simp only [monitor] at hbody
    obtain ⟨heq, hlong⟩ | ⟨heq, hnon⟩ | ⟨heq, -⟩ | ⟨q₁, heq, -, hholds⟩ :=
      write_cases h hsize bufferIn nonBlocking
    · rw [heq] at hbody
      cases hbody
      exact .failed (by decide) (.inr (.inl ⟨rfl, hlong⟩))
    · rw [heq] at hbody
      cases hbody
      exact .failed (by decide) (.inr (.inr ⟨rfl, hnon⟩))
    · rw [heq] at hbody
      cases hbody
    · rw [heq] at hbody
      cases hbody
      exact .written (by rw [hholds.rReleased_eq, h.rReleased_eq]) hholds

theorem body_eq_wait (h : Holds sizeLog2 q released xs) (hsize : sizeLog2 ≤ 30) {w : QueueWord}
    (hbody : (monitor sizeLog2).body c q = .wait w) :
    (∃ maxSize, c = .read maxSize ∧ w = .wPub ∧ xs = []) ∨
      ∃ bufferIn, c = .write bufferIn false ∧ w = .rReleased ∧
        bufferIn.length ≤ bufferSize sizeLog2 ∧
        bufferSize sizeLog2 < xs.length + bufferIn.length := by
  cases c with
  | read maxSize =>
    simp only [monitor, read_eq h hsize] at hbody
    split at hbody <;> cases hbody
    exact .inl ⟨maxSize, rfl, rfl, ‹_›⟩
  | write bufferIn nonBlocking =>
    simp only [monitor] at hbody
    obtain ⟨heq, -⟩ | ⟨heq, -⟩ | ⟨heq, rfl, hlen, hfull⟩ | ⟨q₁, heq, -⟩ :=
      write_cases h hsize bufferIn nonBlocking
    · rw [heq] at hbody
      cases hbody
    · rw [heq] at hbody
      cases hbody
    · rw [heq] at hbody
      cases hbody
      exact .inr ⟨bufferIn, rfl, rfl, hlen, hfull⟩
    · rw [heq] at hbody
      cases hbody

theorem Done.keep {t : θ} (hdone : Done sizeLog2 q (start + (bytesRead tr).length) xs c q' r m)
    (hsum : bytesRead tr ++ xs = bytesWritten tr)
    (hholds : Holds sizeLog2 q (start + (bytesRead tr).length) xs)
    (hanswered : ∀ e ∈ tr, Answered sizeLog2 e.2.1 e.2.2) :
    Carries sizeLog2 start (tr ++ [(t, c, r)]) q' := by
  have hall : ∀ e ∈ tr ++ [(t, c, r)], Answered sizeLog2 e.2.1 e.2.2 := by
    intro e he
    obtain hold | hnew := List.mem_append.mp he
    · exact hanswered e hold
    · obtain rfl := List.mem_singleton.mp hnew
      cases hdone with
      | read hne _ _ =>
        refine ⟨rfl, List.length_take_le _ _, ?_⟩
        intro hpos
        simpa [List.take_eq_nil_iff, hpos.ne'] using hne
      | failed _ herror => exact herror
      | written _ _ => exact .inl rfl
  refine ⟨?_, hall⟩
  rw [bytesRead_snoc, bytesWritten_snoc]
  cases hdone with
  | @read maxSize _ hne _ hafter =>
    refine ⟨xs.drop maxSize, ?_, ?_⟩
    · simp only [bytesRead, bytesWritten, List.flatMap_singleton, List.append_nil] at hsum ⊢
      rw [← hsum, List.append_assoc, List.take_append_drop]
    · rw [List.length_append, ← Nat.add_assoc]
      simpa [bytesRead] using hafter
  | @failed _ _ errno herrno _ =>
    have hneg : ¬ errno ≤ 0 := not_le.mpr herrno
    refine ⟨xs, ?_, ?_⟩
    · simpa [bytesRead, bytesWritten, hneg] using hsum
    · simpa [bytesRead] using hholds
  | @written bufferIn _ _ _ hafter =>
    refine ⟨xs ++ bufferIn, ?_, ?_⟩
    · simp only [bytesRead, bytesWritten, List.flatMap_singleton, List.append_nil] at hsum ⊢
      rw [← List.append_assoc, hsum, if_pos (Int.natCast_nonneg _)]
    · simpa [bytesRead] using hafter

theorem lawful (hsize : sizeLog2 ≤ 30) :
    Lawful (monitor sizeLog2) (Carries (θ := θ) sizeLog2 start) where
  keep := by
    intro tr t c q q' r m h hbody
    obtain ⟨⟨xs, hsum, hholds⟩, hanswered⟩ := h
    exact (done_of_body hholds hsize hbody).keep hsum hholds hanswered
  word_done := by
    intro tr c q q' r m h hbody w
    obtain ⟨⟨xs, hsum, hholds⟩, -⟩ := h
    cases done_of_body hholds hsize hbody with
    | read hne hpub hafter =>
      cases w with
      | rReleased =>
        simp [monitor, word, travelled, hafter.rReleased_eq, hholds.rReleased_eq, UInt32.ofNat_add]
      | wPub => simp [monitor, word, travelled, hpub]
    | failed => simp [travelled]
    | written hreleased hafter =>
      cases w with
      | rReleased => simp [monitor, word, travelled, hreleased]
      | wPub =>
        simp [monitor, word, travelled, hafter.wPub_eq, hholds.wPub_eq, UInt32.ofNat_add,
          UInt32.add_assoc]
  wait_done := by
    intro tr c c' q q' r m w h hwait hbody
    obtain ⟨⟨xs, hsum, hholds⟩, -⟩ := h
    obtain ⟨maxSize, rfl, rfl, rfl⟩ | ⟨bufferIn, rfl, rfl, hlen, hfull⟩ :=
      body_eq_wait hholds hsize hwait
    · cases done_of_body hholds hsize hbody with
      | read hne => exact absurd rfl hne
      | failed => exact .inl hwait
      | @written bufferIn _ _ _ hafter =>
        by_cases hnone : bufferIn = []
        · left
          subst hnone
          simp only [monitor, read_eq hafter hsize, List.append_nil, if_true]
        · right
          simpa [travelled] using List.length_pos_iff.mpr hnone
    · cases done_of_body hholds hsize hbody with
      | @read maxSize _ _ _ hafter =>
        by_cases hnone : (xs.take maxSize).length = 0
        · left
          have hdrop : xs.drop maxSize = xs := by
            have hall := List.take_append_drop maxSize xs
            rwa [List.eq_nil_of_length_eq_zero hnone, List.nil_append] at hall
          rw [hdrop] at hafter
          exact write_eq_wait hafter hsize hlen hfull
        · right
          simpa [travelled] using Nat.pos_of_ne_zero hnone
      | failed => exact .inl hwait
      | written _ hafter =>
        left
        refine write_eq_wait hafter hsize hlen ?_
        rw [List.length_append]
        omega

theorem carries_init (hq : Holds sizeLog2 q start []) : Carries (θ := θ) sizeLog2 start [] q :=
  ⟨⟨[], rfl, hq⟩, by simp⟩

variable [DecidableEq θ] {side : θ → Side} {s : State θ Side Call CircularQueueBase QueueWord}

/-- In the order in which the calls came by the lock, what was read and what the queue holds
is what was written. -/
theorem bytes_in_order (hsize : sizeLog2 ≤ 30) (hq : Holds sizeLog2 q start [])
    (run : ((monitor sizeLog2).machine (bothSides side)).Run Prompt { data := q } tr s) :
    (∃ xs, bytesRead tr ++ xs = bytesWritten tr ∧
      Holds sizeLog2 s.data (start + (bytesRead tr).length) xs) ∧
    ∀ e ∈ tr, Answered sizeLog2 e.2.1 e.2.2 :=
  (sound_of_run (lawful hsize) (mem_bothSides side) (carries_init hq) run).1

def emptyQueue : CircularQueueBase := ⟨0, 0, fun _ => 0⟩

theorem holds_emptyQueue (sizeLog2 : ℕ) : Holds sizeLog2 emptyQueue 0 [] :=
  ⟨rfl, rfl, Nat.zero_le _, by intro k hk; simp at hk⟩

def hostAndGuest (t : Bool) : Side := if t then .host else .guest

def writeThenRead : List (Input Bool Side Call QueueWord) :=
  [.call true (.write [1, 2, 3] false), .acquire true, .look true, .act true, .unlock true,
    .call false (.read 2), .acquire false, .look false, .act false]

theorem bytes_in_order_two_of_three :
    ∃ tr xs, bytesRead tr = [1, 2] ∧ bytesRead tr ++ xs = bytesWritten tr ∧
      (∃ s : State Bool Side Call CircularQueueBase QueueWord,
        ((monitor 16).machine (bothSides hostAndGuest)).Run Prompt { data := emptyQueue } tr
          s) := by
  obtain ⟨tr, s, run, hread⟩ := Machine.run_of_exec
    ((monitor 16).machine (bothSides hostAndGuest)) Prompt { data := emptyQueue } writeThenRead
    (fun _ tr => bytesRead tr = [1, 2]) (by decide +kernel)
  obtain ⟨⟨xs, hsum, -⟩, -⟩ := bytes_in_order (by decide) (holds_emptyQueue 16) run
  exact ⟨tr, xs, hread, hsum, s, run⟩

theorem sleeper_has_reason (hsize : sizeLog2 ≤ 30) (hq : Holds sizeLog2 q start [])
    (run : ((monitor sizeLog2).machine (bothSides side)).Run Prompt { data := q } tr s)
    (hquiet : Quiet s) {t : θ} {c : Call} {w : QueueWord} (ht : s.pcs t = .asleep c w) :
    (∃ maxSize, c = .read maxSize ∧ bytesRead tr = bytesWritten tr) ∨
      ∃ bufferIn, c = .write bufferIn false ∧ bufferIn.length ≤ bufferSize sizeLog2 ∧
        bufferSize sizeLog2 + (bytesRead tr).length <
          (bytesWritten tr).length + bufferIn.length := by
  have hsound := sound_of_run (lawful hsize) (mem_bothSides side) (carries_init hq) run
  have hwait := hsound.waits_of_quiet hquiet ht
  obtain ⟨⟨xs, hsum, hholds⟩, -⟩ := hsound.1
  obtain ⟨maxSize, hc, -, hnil⟩ | ⟨bufferIn, hc, -, hlen, hfull⟩ :=
    body_eq_wait hholds hsize hwait
  · rw [hnil, List.append_nil] at hsum
    exact .inl ⟨maxSize, hc, hsum⟩
  · refine .inr ⟨bufferIn, hc, hlen, ?_⟩
    rw [← hsum, List.length_append]
    omega

/-- When nothing goes on any more, a reader sleeps only if everything was read, and a writer
only if its bytes do not fit behind what was not; no reader and writer sleep at once. -/
theorem sleepers_have_reason (hsize : sizeLog2 ≤ 30) (hq : Holds sizeLog2 q start [])
    (run : ((monitor sizeLog2).machine (bothSides side)).Run Prompt { data := q } tr s)
    (hquiet : Quiet s) :
    (∀ t c w, s.pcs t = .asleep c w →
      (∃ maxSize, c = .read maxSize ∧ bytesRead tr = bytesWritten tr) ∨
        ∃ bufferIn, c = .write bufferIn false ∧ bufferIn.length ≤ bufferSize sizeLog2 ∧
          bufferSize sizeLog2 + (bytesRead tr).length <
            (bytesWritten tr).length + bufferIn.length) ∧
    ∀ t u maxSize bufferIn nonBlocking v w, s.pcs t = .asleep (.read maxSize) v →
      s.pcs u ≠ .asleep (.write bufferIn nonBlocking) w := by
  refine ⟨fun t c w ht => sleeper_has_reason hsize hq run hquiet ht, ?_⟩
  intro t u maxSize bufferIn nonBlocking v w ht hu
  obtain ⟨_, -, hall⟩ | ⟨_, hcall, -⟩ := sleeper_has_reason hsize hq run hquiet ht
  · obtain ⟨_, hcall, -⟩ | ⟨_, -, hlen, hfull⟩ := sleeper_has_reason hsize hq run hquiet hu
    · cases hcall
    · rw [hall] at hfull
      omega
  · cases hcall

theorem sleepers_have_reason_reader :
    ∃ tr, ∃ s : State Bool Side Call CircularQueueBase QueueWord,
      ((monitor 16).machine (bothSides hostAndGuest)).Run Prompt { data := emptyQueue } tr s ∧
      s.pcs false = .asleep (.read 2) .wPub ∧ bytesRead tr = bytesWritten tr := by
  obtain ⟨tr, s, run, ⟨hhost, hguest⟩, hsleeps, hpending⟩ := Machine.run_of_exec
    ((monitor 16).machine (bothSides hostAndGuest)) Prompt { data := emptyQueue }
    [Input.call false (.read 2), .acquire false, .look false, .act false, .unlock false,
      .check false]
    (fun s _ => ((s.pcs true).atRest ∧ (s.pcs false).atRest) ∧
      (s.pcs false).sleeping = some (.read 2, .wPub) ∧ s.pending = [])
    (by decide +kernel)
  have hasleep := sleeping_eq_some.mp hsleeps
  have hquiet : Quiet s := by
    refine ⟨fun t => ?_, by simp [hpending]⟩
    cases t
    · exact hguest
    · exact hhost
  obtain ⟨_, -, hall⟩ | ⟨bufferIn, hcall, -⟩ :=
    (sleepers_have_reason (by decide) (holds_emptyQueue 16) run hquiet).1 _ _ _ hasleep
  · exact ⟨tr, s, run, hasleep, hall⟩
  · cases hcall

end CircularByteQueue

namespace CircularPacketQueue
open CircularByteQueue (emptyQueue holds_emptyQueue hostAndGuest)

abbrev QueueEvent (θ : Type*) := θ × Call × CallResult

def packetsWritten (tr : List (QueueEvent θ)) : List (List UInt8) :=
  tr.flatMap fun e =>
    match e.2.1 with
    | .writev iov _ => if 0 ≤ e.2.2.rval then [iov.flatten] else []
    | .read _ => []

def packetsRead (tr : List (QueueEvent θ)) : List (List UInt8) :=
  tr.flatMap fun e =>
    match e.2.1 with
    | .read _ => if 0 ≤ e.2.2.rval then [e.2.2.bufferOut] else []
    | .writev _ _ => []

def unread (tr : List (QueueEvent θ)) : List (List UInt8) :=
  (packetsWritten tr).drop (packetsRead tr).length

/-- What a call answers to the packets that it finds in the queue. -/
def Answered (sizeLog2 maxPacketSize : ℕ) (ps : List (List UInt8)) : Call → CallResult → Prop
  | .read maxSize, r =>
    ∃ p ∈ ps.head?, r = if maxSize < p.length then ⟨-ENOSPC, []⟩ else ⟨p.length, p⟩
  | .writev iov nonBlocking, r =>
    let n := iov.flatten.length
    if maxPacketSize < n ∨ bufferSize sizeLog2 < frameLength n then r = ⟨-ENOSPC, []⟩
    else if bufferSize sizeLog2 < (ps.map fun p => frameLength p.length).sum + frameLength n then
      r = ⟨-EWOULDBLOCK, []⟩ ∧ nonBlocking
    else r = ⟨n, []⟩

def Carries (sizeLog2 maxPacketSize : ℕ) (tr : List (QueueEvent θ)) (q : CircularQueueBase) :
    Prop :=
  (∃ ps released xs, packetsRead tr ++ ps = packetsWritten tr ∧
    HoldsPackets sizeLog2 q released ps xs) ∧
  Justified (fun before e => Answered sizeLog2 maxPacketSize (unread before) e.2.1 e.2.2) tr

inductive Done (sizeLog2 maxPacketSize : ℕ) (q : CircularQueueBase) (released : ℕ)
    (ps : List (List UInt8)) (xs : List UInt8) :
    Call → CircularQueueBase → CallResult → Option (QueueWord × ℕ) → Prop where
  | read {maxSize p rest xs' q'} : ps = p :: rest → p.length ≤ maxSize → q'.wPub = q.wPub →
      HoldsPackets sizeLog2 q' (released + frameLength p.length) rest xs' →
      Done sizeLog2 maxPacketSize q released ps xs (.read maxSize) q' ⟨p.length, p⟩
        (some (.rReleased, frameLength p.length))
  | failed {c errno} : 0 < errno → Answered sizeLog2 maxPacketSize ps c ⟨-errno, []⟩ →
      Done sizeLog2 maxPacketSize q released ps xs c q ⟨-errno, []⟩ none
  | written {iov nonBlocking q' frame} : iov.flatten.length ≤ maxPacketSize →
      q'.rReleased = q.rReleased → frame.length = frameLength iov.flatten.length →
      HoldsPackets sizeLog2 q' released (ps ++ [iov.flatten]) (xs ++ frame) →
      Done sizeLog2 maxPacketSize q released ps xs (.writev iov nonBlocking) q'
        ⟨iov.flatten.length, []⟩ (some (.wPub, frameLength iov.flatten.length))

variable {sizeLog2 maxPacketSize released : ℕ} {tr : List (QueueEvent θ)}
  {q q' : CircularQueueBase} {ps : List (List UInt8)} {xs : List UInt8} {c : Call}
  {r : CallResult} {m : Option (QueueWord × ℕ)}

theorem packetsWritten_snoc (tr : List (QueueEvent θ)) (e : QueueEvent θ) :
    packetsWritten (tr ++ [e]) = packetsWritten tr ++ packetsWritten [e] := by
  simp [packetsWritten]

theorem packetsRead_snoc (tr : List (QueueEvent θ)) (e : QueueEvent θ) :
    packetsRead (tr ++ [e]) = packetsRead tr ++ packetsRead [e] := by
  simp [packetsRead]

theorem frameLength_pos (n : ℕ) : 0 < frameLength n := by
  rw [frameLength]
  omega

theorem read_nil (hsize : sizeLog2 ≤ 30) (h : HoldsPackets sizeLog2 q released [] xs)
    (maxSize : ℕ) : read sizeLog2 q maxSize = .wait .wPub := by
  have hnil := h.framed.eq_nil_iff.mpr rfl
  simp only [read, h.holds.waitForDataLocked_eq hsize, if_pos hnil]

theorem done_of_body (hlow : 2 ≤ sizeLog2) (hsize : sizeLog2 ≤ 30)
    (hmax : maxPacketSize ≤ bufferSize sizeLog2) (h : HoldsPackets sizeLog2 q released ps xs)
    (hbody : (monitor sizeLog2 maxPacketSize).body c q = .done q' r m) :
    Done sizeLog2 maxPacketSize q released ps xs c q' r m := by
  cases c with
  | read maxSize =>
    simp only [monitor] at hbody
    cases ps with
    | nil =>
      rw [read_nil hsize h] at hbody
      cases hbody
    | cons p rest =>
      obtain ⟨heq, hlong⟩ | ⟨q₁, xs', heq, hlen, hpub, hafter⟩ := read_cons hlow hsize h maxSize
      · rw [heq] at hbody
        cases hbody
        exact .failed (by decide) ⟨p, rfl, (if_pos hlong).symm⟩
      · rw [heq] at hbody
        cases hbody
        exact .read rfl hlen hpub hafter
  | writev iov nonBlocking =>
    simp only [monitor] at hbody
    obtain ⟨heq, hlong⟩ | ⟨heq, hnon, hlen, hframe, hfull⟩ | ⟨heq, -⟩ |
        ⟨q₁, frame, heq, hlen, hframe, hafter⟩ := writev_cases hsize hmax h iov nonBlocking
    · rw [heq] at hbody
      cases hbody
      refine .failed (by decide) ?_
      simp only [Answered, if_pos hlong]
    · rw [heq] at hbody
      cases hbody
      have hfits : ¬ (maxPacketSize < iov.flatten.length ∨
          bufferSize sizeLog2 < frameLength iov.flatten.length) := by omega
      rw [h.framed.length_eq] at hfull
      refine .failed (by decide) ?_
      simp only [Answered, if_neg hfits, if_pos hfull]
      exact ⟨trivial, hnon⟩
    · rw [heq] at hbody
      cases hbody
    · rw [heq] at hbody
      cases hbody
      refine .written hlen ?_ hframe hafter
      rw [hafter.holds.rReleased_eq, h.holds.rReleased_eq]

theorem body_eq_wait (hlow : 2 ≤ sizeLog2) (hsize : sizeLog2 ≤ 30)
    (hmax : maxPacketSize ≤ bufferSize sizeLog2) (h : HoldsPackets sizeLog2 q released ps xs)
    {w : QueueWord} (hbody : (monitor sizeLog2 maxPacketSize).body c q = .wait w) :
    (∃ maxSize, c = .read maxSize ∧ w = .wPub ∧ ps = []) ∨
      ∃ iov, c = .writev iov false ∧ w = .rReleased ∧ iov.flatten.length ≤ maxPacketSize ∧
        frameLength iov.flatten.length ≤ bufferSize sizeLog2 ∧
        bufferSize sizeLog2 < xs.length + frameLength iov.flatten.length := by
  cases c with
  | read maxSize =>
    simp only [monitor] at hbody
    cases ps with
    | nil =>
      rw [read_nil hsize h] at hbody
      cases hbody
      exact .inl ⟨maxSize, rfl, rfl, rfl⟩
    | cons p rest =>
      obtain ⟨heq, -⟩ | ⟨q₁, xs', heq, -⟩ := read_cons hlow hsize h maxSize
      · rw [heq] at hbody
        cases hbody
      · rw [heq] at hbody
        cases hbody
  | writev iov nonBlocking =>
    simp only [monitor] at hbody
    obtain ⟨heq, -⟩ | ⟨heq, -⟩ | ⟨heq, rfl, hlen, hframe, hfull⟩ | ⟨q₁, frame, heq, -⟩ :=
      writev_cases hsize hmax h iov nonBlocking
    · rw [heq] at hbody
      cases hbody
    · rw [heq] at hbody
      cases hbody
    · rw [heq] at hbody
      cases hbody
      exact .inr ⟨iov, rfl, rfl, hlen, hframe, hfull⟩
    · rw [heq] at hbody
      cases hbody

theorem unread_eq (hsum : packetsRead tr ++ ps = packetsWritten tr) : unread tr = ps := by
  rw [unread, ← hsum, List.drop_left]

theorem Done.answered (hdone : Done sizeLog2 maxPacketSize q released ps xs c q' r m)
    (hholds : HoldsPackets sizeLog2 q released ps xs) :
    Answered sizeLog2 maxPacketSize ps c r := by
  cases hdone with
  | @read _ p _ _ _ hps hlen _ _ =>
    exact ⟨p, by simp [hps], (if_neg (not_lt.mpr hlen)).symm⟩
  | failed _ herror => exact herror
  | written hlen _ hframe hafter =>
    have hroom := hafter.holds.fits
    rw [List.length_append, hframe, hholds.framed.length_eq] at hroom
    simp only [Answered]
    rw [if_neg (by omega), if_neg (by omega)]
    trivial

theorem Done.keep {t : θ} (hdone : Done sizeLog2 maxPacketSize q released ps xs c q' r m)
    (hsum : packetsRead tr ++ ps = packetsWritten tr)
    (hholds : HoldsPackets sizeLog2 q released ps xs)
    (hanswered : Justified
      (fun before e => Answered sizeLog2 maxPacketSize (unread before) e.2.1 e.2.2) tr) :
    Carries sizeLog2 maxPacketSize (tr ++ [(t, c, r)]) q' := by
  have hall : Justified
      (fun before e => Answered sizeLog2 maxPacketSize (unread before) e.2.1 e.2.2)
      (tr ++ [(t, c, r)]) := by
    refine justified_snoc.mpr ⟨hanswered, ?_⟩
    rw [unread_eq hsum]
    exact hdone.answered hholds
  refine ⟨?_, hall⟩
  rw [packetsRead_snoc, packetsWritten_snoc]
  cases hdone with
  | @read _ p rest xs' _ hps _ _ hafter =>
    refine ⟨rest, _, xs', ?_, hafter⟩
    simp [packetsRead, packetsWritten, hps] at hsum ⊢
    exact hsum
  | @failed _ errno herrno _ =>
    have hneg : ¬ errno ≤ 0 := not_le.mpr herrno
    refine ⟨ps, released, xs, ?_, hholds⟩
    cases c <;> simpa [packetsRead, packetsWritten, hneg] using hsum
  | @written iov _ _ frame _ _ _ hafter =>
    refine ⟨_, released, _, ?_, hafter⟩
    simp only [packetsRead, packetsWritten, List.flatMap_singleton, List.append_nil] at hsum ⊢
    rw [← List.append_assoc, hsum, if_pos (Int.natCast_nonneg _)]

theorem lawful (hlow : 2 ≤ sizeLog2) (hsize : sizeLog2 ≤ 30)
    (hmax : maxPacketSize ≤ bufferSize sizeLog2) :
    Lawful (monitor sizeLog2 maxPacketSize) (Carries (θ := θ) sizeLog2 maxPacketSize) where
  keep := by
    intro tr t c q q' r m h hbody
    obtain ⟨⟨ps, released, xs, hsum, hholds⟩, hanswered⟩ := h
    exact (done_of_body hlow hsize hmax hholds hbody).keep hsum hholds hanswered
  word_done := by
    intro tr c q q' r m h hbody w
    obtain ⟨⟨ps, released, xs, hsum, hholds⟩, -⟩ := h
    cases done_of_body hlow hsize hmax hholds hbody with
    | read _ _ hpub hafter =>
      cases w with
      | rReleased =>
        simp [monitor, word, travelled, hafter.holds.rReleased_eq, hholds.holds.rReleased_eq,
          UInt32.ofNat_add]
      | wPub => simp [monitor, word, travelled, hpub]
    | failed => simp [travelled]
    | written _ hreleased hframe hafter =>
      cases w with
      | rReleased => simp [monitor, word, travelled, hreleased]
      | wPub =>
        simp [monitor, word, travelled, hafter.holds.wPub_eq, hholds.holds.wPub_eq,
          UInt32.ofNat_add, UInt32.add_assoc, hframe]
  wait_done := by
    intro tr c c' q q' r m w h hwait hbody
    obtain ⟨⟨ps, released, xs, hsum, hholds⟩, -⟩ := h
    obtain ⟨maxSize, rfl, rfl, rfl⟩ | ⟨iov, rfl, rfl, hlen, hframe, hfull⟩ :=
      body_eq_wait hlow hsize hmax hholds hwait
    · cases done_of_body hlow hsize hmax hholds hbody with
      | read hps => cases hps
      | failed => exact .inl hwait
      | written => exact .inr (by simpa [travelled] using frameLength_pos _)
    · cases done_of_body hlow hsize hmax hholds hbody with
      | read => exact .inr (by simpa [travelled] using frameLength_pos _)
      | failed => exact .inl hwait
      | written _ _ _ hafter =>
        left
        refine writev_eq_wait hsize hmax hafter hlen hframe ?_
        rw [List.length_append]
        omega

theorem carries_init (hq : Holds sizeLog2 q 0 []) :
    Carries (θ := θ) sizeLog2 maxPacketSize [] q :=
  ⟨⟨[], 0, [], rfl, Nat.dvd_zero 4, .nil, hq⟩, justified_nil _⟩

variable [DecidableEq θ] {side : θ → Side} {s : State θ Side Call CircularQueueBase QueueWord}

/-- In the order in which the calls came by the lock, the packets that were read and those in
the queue are the packets that were written, each as a whole. -/
theorem packets_in_order (hlow : 2 ≤ sizeLog2) (hsize : sizeLog2 ≤ 30)
    (hmax : maxPacketSize ≤ bufferSize sizeLog2) (hq : Holds sizeLog2 q 0 [])
    (run : ((monitor sizeLog2 maxPacketSize).machine (bothSides side)).Run Prompt
      { data := q } tr s) :
    (∃ ps released xs, packetsRead tr ++ ps = packetsWritten tr ∧
      HoldsPackets sizeLog2 s.data released ps xs) ∧
    Justified (fun before e => Answered sizeLog2 maxPacketSize (unread before) e.2.1 e.2.2) tr :=
  (sound_of_run (lawful hlow hsize hmax) (mem_bothSides side) (carries_init hq) run).1

def writevThenRead : List (Input Bool Side Call QueueWord) :=
  [.call true (.writev [[1], [2, 3]] false), .acquire true, .look true, .act true, .unlock true,
    .call false (.read 8), .acquire false, .look false, .act false]

theorem packets_in_order_one :
    ∃ tr ps, packetsRead tr = [[1, 2, 3]] ∧ packetsRead tr ++ ps = packetsWritten tr ∧
      ∃ s : State Bool Side Call CircularQueueBase QueueWord,
        ((monitor 4 8).machine (bothSides hostAndGuest)).Run Prompt { data := emptyQueue } tr
          s := by
  obtain ⟨tr, s, run, hread⟩ := Machine.run_of_exec
    ((monitor 4 8).machine (bothSides hostAndGuest)) Prompt { data := emptyQueue } writevThenRead
    (fun _ tr => packetsRead tr = [[1, 2, 3]]) (by decide +kernel)
  obtain ⟨⟨ps, _, _, hsum, -⟩, -⟩ :=
    packets_in_order (by decide) (by decide) (by decide) (holds_emptyQueue 4) run
  exact ⟨tr, ps, hread, hsum, s, run⟩

/-- When nothing goes on any more, a reader sleeps only if every packet was read, and a writer
only if there are packets left that were not. -/
theorem sleeper_of_quiet (hlow : 2 ≤ sizeLog2) (hsize : sizeLog2 ≤ 30)
    (hmax : maxPacketSize ≤ bufferSize sizeLog2) (hq : Holds sizeLog2 q 0 [])
    (run : ((monitor sizeLog2 maxPacketSize).machine (bothSides side)).Run Prompt
      { data := q } tr s)
    (hquiet : Quiet s) {t : θ} {c : Call} {w : QueueWord} (ht : s.pcs t = .asleep c w) :
    (∃ maxSize, c = .read maxSize ∧ packetsRead tr = packetsWritten tr) ∨
      ∃ iov, c = .writev iov false ∧ packetsRead tr ≠ packetsWritten tr := by
  have hsound :=
    sound_of_run (lawful hlow hsize hmax) (mem_bothSides side) (carries_init hq) run
  have hwait := hsound.waits_of_quiet hquiet ht
  obtain ⟨⟨ps, released, xs, hsum, hholds⟩, -⟩ := hsound.1
  obtain ⟨maxSize, hc, -, hnil⟩ | ⟨iov, hc, -, hlen, hframe, hfull⟩ :=
    body_eq_wait hlow hsize hmax hholds hwait
  · rw [hnil, List.append_nil] at hsum
    exact .inl ⟨maxSize, hc, hsum⟩
  · refine .inr ⟨iov, hc, fun hall => ?_⟩
    have hps : ps = [] := by
      rw [← hall] at hsum
      exact List.append_right_eq_self.mp hsum
    have hxs := hholds.framed.eq_nil_iff.mpr hps
    rw [hxs, List.length_nil, Nat.zero_add] at hfull
    omega

theorem sleeper_of_quiet_reader :
    ∃ tr, ∃ s : State Bool Side Call CircularQueueBase QueueWord,
      ((monitor 4 8).machine (bothSides hostAndGuest)).Run Prompt { data := emptyQueue } tr s ∧
      s.pcs false = .asleep (.read 8) .wPub ∧ packetsRead tr = packetsWritten tr := by
  obtain ⟨tr, s, run, ⟨hhost, hguest⟩, hsleeps, hpending⟩ := Machine.run_of_exec
    ((monitor 4 8).machine (bothSides hostAndGuest)) Prompt { data := emptyQueue }
    [Input.call false (.read 8), .acquire false, .look false, .act false, .unlock false,
      .check false]
    (fun s _ => ((s.pcs true).atRest ∧ (s.pcs false).atRest) ∧
      (s.pcs false).sleeping = some (.read 8, .wPub) ∧ s.pending = [])
    (by decide +kernel)
  have hasleep := sleeping_eq_some.mp hsleeps
  have hquiet : Quiet s := by
    refine ⟨fun t => ?_, by simp [hpending]⟩
    cases t
    · exact hguest
    · exact hhost
  obtain ⟨_, -, hall⟩ | ⟨iov, hcall, -⟩ := sleeper_of_quiet (by decide) (by decide) (by decide)
    (holds_emptyQueue 4) run hquiet hasleep
  · exact ⟨tr, s, run, hasleep, hall⟩
  · cases hcall

end CircularPacketQueue

end Rpi3Device.Vsoc
