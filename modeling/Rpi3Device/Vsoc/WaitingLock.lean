import Mathlib.Data.Nat.Bitwise
import Rpi3Device.Vsoc.SignalTable

/-!
# The waiting lock of the shared memory window

The lock word holds the thread that owns the lock, and one flag for each side that has
threads asleep on it. A thread that finds the lock taken sets its side's flag and sleeps on
the word; the owner takes the word back to zero with whatever flags it has then and signals
the sides they name. Every compare-and-exchange is a step of its own. A signal is the list of
the sides it has still to come by, and wakes all that sleep there.

`TryLock` leaves the word as it was before it set the flag for the conditional sleep. A thread
that sleeps on such a value is not in the flags; `FlagSeen` excludes it, and
`waiter_left_behind` is a run in which it happens.
-/

namespace Rpi3Device.Vsoc.WaitingLock
open TransitionSystem SignalTable

def lockFree : UInt32 := 0

def waitingFlag : Side → UInt32
  | .guest => (1 : UInt32) <<< 30
  | .host => (2 : UInt32) <<< 30

def hostIsOwner : UInt32 := 0x20000000

def ownerMask : UInt32 := 0x3FFFFFFF

def makeOwnerTid (ourSide : Side) (rawTid : UInt32) : UInt32 :=
  match ourSide with
  | .host => (rawTid ||| hostIsOwner) &&& ownerMask
  | .guest => rawTid &&& (ownerMask &&& ~~~hostIsOwner)

def sidesToSignal (expectedState : UInt32) : List Side :=
  let waiting := expectedState &&& (waitingFlag .guest ||| waitingFlag .host)
  if waiting = 0 then []
  else if waiting = waitingFlag .guest then [.guest]
  else if waiting = waitingFlag .host then [.host]
  else [.guest, .host]

inductive Pc where
  | idle
  | trying
  | flagging (expected : UInt32)
  | checking (expected : UInt32)
  | asleep
  | holding
  | releasing (expectedState : UInt32)
  | signalling (sides : List Side)
  /-- Unlocking a lock that somebody else owns. -/
  | fatal
  deriving DecidableEq

structure State (θ : Type*) where
  lockUint32 : UInt32 := lockFree
  pcs : θ → Pc := fun _ => .idle
  pending : List (List Side) := []

/-- The threads, with what `gettid` returns in each. -/
structure Threads (θ : Type*) where
  side : θ → Side
  tid : θ → UInt32

inductive Input (θ : Type*) where
  | lock (t : θ)
  | tryLock (t : θ)
  | waitForSignal (t : θ)
  | wakeEarly (t : θ)
  | unlock (t : θ)
  | unlockCommon (t : θ)
  | sendSignal (t : θ)
  | deliver (x : Side) (rest : List Side)

/-- The way of a signal: to the peer first, and from there back if it is for both sides. -/
def route (ourSide : Side) (sides : List Side) : List Side :=
  if ourSide.peer ∈ sides then
    if ourSide ∈ sides then [ourSide.peer, ourSide] else [ourSide.peer]
  else if ourSide ∈ sides then [ourSide]
  else []

section Steps
variable {θ : Type*} [DecidableEq θ] (T : Threads θ)

def State.at (s : State θ) (t : θ) (pc : Pc) : State θ :=
  { s with pcs := Function.update s.pcs t pc }

def tryLock (s : State θ) (t : θ) : Option (State θ) :=
  let maskedTid := makeOwnerTid (T.side t) (T.tid t)
  let ourWaitingFlag := waitingFlag (T.side t)
  let found := s.lockUint32
  match s.pcs t with
  | .trying =>
    if found = lockFree then some { s.at t .holding with lockUint32 := maskedTid }
    else if found &&& ourWaitingFlag ≠ 0 then some (s.at t (.checking found))
    else some (s.at t (.flagging found))
  | .flagging expected =>
    let addWaitFlag := expected ||| ourWaitingFlag
    if found = expected then
      some { s.at t (.checking expected) with lockUint32 := addWaitFlag }
    else if found &&& ourWaitingFlag ≠ 0 then some (s.at t (.checking found))
    else if found = lockFree then some (s.at t .trying)
    else some (s.at t (.flagging found))
  | _ => none

def unlock (s : State θ) (t : θ) : Option (State θ) :=
  let markedTid := makeOwnerTid (T.side t) (T.tid t)
  match s.pcs t with
  | .holding =>
    let expectedState := s.lockUint32
    if (markedTid ^^^ expectedState) &&& ownerMask ≠ 0 then some (s.at t .fatal)
    else some (s.at t (.releasing expectedState))
  | _ => none

def unlockCommon (s : State θ) (t : θ) : Option (State θ) :=
  let markedTid := makeOwnerTid (T.side t) (T.tid t)
  match s.pcs t with
  | .releasing expectedState =>
    if s.lockUint32 = expectedState then
      if (expectedState ^^^ markedTid) &&& ownerMask ≠ 0 then
        some { s.at t .fatal with lockUint32 := lockFree }
      else
        some { s.at t (.signalling (sidesToSignal expectedState)) with lockUint32 := lockFree }
    else some (s.at t (.releasing s.lockUint32))
  | _ => none

def step (s : State θ) : Input θ → Option (State θ)
  | .lock t => if s.pcs t = .idle then some (s.at t .trying) else none
  | .tryLock t => tryLock T s t
  | .waitForSignal t =>
    match s.pcs t with
    | .checking expected =>
      some (s.at t (if s.lockUint32 = expected then .asleep else .trying))
    | _ => none
  | .wakeEarly t => if s.pcs t = .asleep then some (s.at t .trying) else none
  | .unlock t => unlock T s t
  | .unlockCommon t => unlockCommon T s t
  | .sendSignal t =>
    match s.pcs t with
    | .signalling sides =>
      some { s.at t .idle with pending := route (T.side t) sides :: s.pending }
    | _ => none
  | .deliver x rest =>
    if x :: rest ∈ s.pending then
      some { s with
        pcs := fun t => if s.pcs t = .asleep ∧ T.side t = x then .trying else s.pcs t
        pending := rest :: s.pending.erase (x :: rest) }
    else none

def machine : Machine (State θ) (Input θ) Unit := ⟨fun s i => (step T s i).map fun s' => (s', [])⟩

end Steps

section Words

theorem and_flag_cases (w : UInt32) (x : Side) :
    w &&& waitingFlag x = 0 ∨ w &&& waitingFlag x = waitingFlag x := by
  have hbit (i : ℕ) (f : UInt32) (hf : f.toNat = 2 ^ i) : w &&& f = 0 ∨ w &&& f = f := by
    rw [← UInt32.toNat_inj, ← UInt32.toNat_inj, UInt32.toNat_and, hf, Nat.and_two_pow]
    cases w.toNat.testBit i
    · exact .inl (by simp)
    · exact .inr (by simp)
  cases x with
  | guest => exact hbit 30 _ (by decide)
  | host => exact hbit 31 _ (by decide)

theorem mem_sidesToSignal {w : UInt32} {x : Side} :
    x ∈ sidesToSignal w ↔ w &&& waitingFlag x ≠ 0 := by
  have hsplit : w &&& (waitingFlag .guest ||| waitingFlag .host) =
      w &&& waitingFlag .guest ||| w &&& waitingFlag .host := by
    rw [UInt32.and_comm, or_and, UInt32.and_comm, UInt32.and_comm _ w]
  unfold sidesToSignal
  rw [hsplit]
  obtain hguest | hguest := and_flag_cases w .guest <;>
    obtain hhost | hhost := and_flag_cases w .host <;>
    rw [hguest, hhost] <;> cases x <;> simp only [hguest, hhost] <;> decide

theorem owner_or_flag (w : UInt32) (x : Side) :
    (w ||| waitingFlag x) &&& ownerMask = w &&& ownerMask := by
  have hnone : waitingFlag x &&& ownerMask = 0 := by
    cases x <;> decide
  rw [or_and, hnone, UInt32.or_zero]

theorem makeOwnerTid_masked (x : Side) (rawTid : UInt32) :
    makeOwnerTid x rawTid &&& ownerMask = makeOwnerTid x rawTid := by
  cases x with
  | guest =>
    simp only [makeOwnerTid]
    rw [UInt32.and_assoc]
    congr 1
  | host =>
    simp only [makeOwnerTid]
    rw [UInt32.and_assoc, UInt32.and_self]

theorem makeOwnerTid_ne_zero {x : Side} {rawTid : UInt32} (hpos : rawTid ≠ 0)
    (hmax : rawTid.toNat < 0x00400000) : makeOwnerTid x rawTid ≠ 0 := by
  cases x with
  | guest =>
    have hmask : (ownerMask &&& ~~~hostIsOwner).toNat = 2 ^ 29 - 1 := by decide
    intro hzero
    apply hpos
    rw [← UInt32.toNat_inj] at hzero ⊢
    simp only [makeOwnerTid] at hzero
    rw [UInt32.toNat_and, hmask, Nat.and_two_pow_sub_one_eq_mod, Nat.mod_eq_of_lt (by omega)]
      at hzero
    exact hzero
  | host =>
    have hbit : makeOwnerTid .host rawTid = (rawTid &&& ownerMask) ||| hostIsOwner := by
      simp only [makeOwnerTid]
      rw [or_and]
      congr 1
    rw [hbit]
    intro hzero
    exact absurd (UInt32.or_eq_zero_iff.mp hzero).2 (by decide)

theorem xor_and_eq_zero {v w m : UInt32} (h : v &&& m = w &&& m) : (v ^^^ w) &&& m = 0 := by
  have hsplit : (v ^^^ w) &&& m = (v &&& m) ^^^ (w &&& m) := by
    apply UInt32.toNat_inj.mp
    simp only [UInt32.toNat_and, UInt32.toNat_xor, Nat.and_xor_distrib_right]
  rw [hsplit, h, UInt32.xor_self]

theorem flag_or {w : UInt32} {x : Side} (h : w &&& waitingFlag x ≠ 0) (y : Side) :
    (w ||| waitingFlag y) &&& waitingFlag x ≠ 0 := by
  rw [or_and]
  intro hzero
  exact h (UInt32.or_eq_zero_iff.mp hzero).1

end Words

variable {θ : Type*} {T : Threads θ} {s s' : State θ}

def Pc.Holds : Pc → Prop
  | .holding | .releasing _ => True
  | _ => False

structure Owned (T : Threads θ) (s : State θ) (owner : Option θ) : Prop where
  holds : ∀ t, (s.pcs t).Holds ↔ owner = some t
  word : ∀ t, owner = some t → s.lockUint32 &&& ownerMask = makeOwnerTid (T.side t) (T.tid t)
  free : owner = none → s.lockUint32 = lockFree
  flagging : ∀ t expected, s.pcs t = .flagging expected → expected ≠ lockFree
  releasing : ∀ t expectedState, s.pcs t = .releasing expectedState →
    expectedState &&& ownerMask = makeOwnerTid (T.side t) (T.tid t)
  sane : ∀ t, s.pcs t ≠ .fatal

theorem Owned.tid_checked {owner : Option θ} (h : Owned T s owner) {t : θ}
    (ht : (s.pcs t).Holds) :
    s.lockUint32 &&& ownerMask = makeOwnerTid (T.side t) (T.tid t) &&& ownerMask := by
  rw [makeOwnerTid_masked]
  exact h.word t ((h.holds t).mp ht)

section Moves
variable [DecidableEq θ]

/-- No thread goes to sleep on a value that its side's flag is missing from. -/
def FlagSeen (T : Threads θ) (s : State θ) : Input θ → Prop
  | .waitForSignal t =>
    s.pcs t = .checking s.lockUint32 → s.lockUint32 &&& waitingFlag (T.side t) ≠ 0
  | _ => True

inductive Moves (T : Threads θ) (i : Input θ) (s : State θ) : State θ → Prop where
  | walks {t pc} : ¬ (s.pcs t).Holds → (∀ sides, s.pcs t ≠ .signalling sides) → ¬ pc.Holds →
      pc ≠ .fatal → (∀ expected, pc = .flagging expected → expected ≠ lockFree) →
      (∀ sides, pc ≠ .signalling sides) →
      (pc = .asleep → i = .waitForSignal t ∧ s.pcs t = .checking s.lockUint32) →
      Moves T i s (s.at t pc)
  | takes {t} : s.pcs t = .trying → s.lockUint32 = lockFree →
      Moves T i s { s.at t .holding with lockUint32 := makeOwnerTid (T.side t) (T.tid t) }
  | flags {t expected} : s.pcs t = .flagging expected → s.lockUint32 = expected →
      Moves T i s { s.at t (.checking expected) with
        lockUint32 := expected ||| waitingFlag (T.side t) }
  | unlocks {t} : s.pcs t = .holding → Moves T i s (s.at t (.releasing s.lockUint32))
  | fails {t expectedState} : s.pcs t = .releasing expectedState →
      Moves T i s (s.at t (.releasing s.lockUint32))
  | releases {t expectedState} : s.pcs t = .releasing expectedState →
      s.lockUint32 = expectedState →
      Moves T i s { s.at t (.signalling (sidesToSignal expectedState)) with lockUint32 := lockFree }
  | sends {t sides} : s.pcs t = .signalling sides →
      Moves T i s { s.at t .idle with pending := route (T.side t) sides :: s.pending }
  | delivers {x rest} : x :: rest ∈ s.pending →
      Moves T i s { s with
        pcs := fun t => if s.pcs t = .asleep ∧ T.side t = x then .trying else s.pcs t
        pending := rest :: s.pending.erase (x :: rest) }

theorem moves_of_tryLock {i : Input θ} {t : θ} (hs : tryLock T s t = some s') :
    Moves T i s s' := by
  have hwalk {pc : Pc} (hpc : ¬ (s.pcs t).Holds) (hsig : ∀ sides, s.pcs t ≠ .signalling sides)
      (hgo : pc = .trying ∨ (∃ e, pc = .checking e) ∨ ∃ e, pc = .flagging e ∧ e ≠ lockFree) :
      Moves T i s (s.at t pc) := by
    obtain rfl | ⟨e, rfl⟩ | ⟨e, rfl, he⟩ := hgo
    · exact .walks hpc hsig (by simp [Pc.Holds]) (by simp) (by simp) (by simp) (by simp)
    · exact .walks hpc hsig (by simp [Pc.Holds]) (by simp) (by simp) (by simp) (by simp)
    · refine .walks hpc hsig (by simp [Pc.Holds]) (by simp) ?_ (by simp) (by simp)
      intro expected heq
      exact Pc.flagging.inj heq ▸ he
  simp only [tryLock] at hs
  split at hs
  · rename_i hpc
    have hnot : ¬ (s.pcs t).Holds := by simp [hpc, Pc.Holds]
    by_cases hfree : s.lockUint32 = lockFree
    · rw [if_pos hfree] at hs
      cases hs
      exact .takes hpc hfree
    rw [if_neg hfree] at hs
    split at hs <;> cases hs
    · exact hwalk hnot (by simp [hpc]) (.inr (.inl ⟨_, rfl⟩))
    · exact hwalk hnot (by simp [hpc]) (.inr (.inr ⟨_, rfl, hfree⟩))
  · rename_i expected hpc
    have hnot : ¬ (s.pcs t).Holds := by simp [hpc, Pc.Holds]
    by_cases hsame : s.lockUint32 = expected
    · rw [if_pos hsame] at hs
      cases hs
      exact .flags hpc hsame
    rw [if_neg hsame] at hs
    split at hs
    · cases hs
      exact hwalk hnot (by simp [hpc]) (.inr (.inl ⟨_, rfl⟩))
    split at hs <;> cases hs
    · exact hwalk hnot (by simp [hpc]) (.inl rfl)
    · exact hwalk hnot (by simp [hpc]) (.inr (.inr ⟨_, rfl, ‹_›⟩))
  · cases hs

theorem moves_of_step {owner : Option θ} (h : Owned T s owner) {i : Input θ}
    (hs : step T s i = some s') : Moves T i s s' := by
  cases i with
  | lock t =>
    simp only [step] at hs
    split at hs <;> cases hs
    rename_i hpc
    exact .walks (by simp [hpc, Pc.Holds]) (by simp [hpc]) (by simp [Pc.Holds]) (by simp)
      (by simp) (by simp) (by simp)
  | tryLock t => exact moves_of_tryLock hs
  | waitForSignal t =>
    simp only [step] at hs
    split at hs <;> cases hs
    rename_i expected hpc
    by_cases hsame : s.lockUint32 = expected
    · rw [if_pos hsame]
      refine .walks (by simp [hpc, Pc.Holds]) (by simp [hpc]) (by simp [Pc.Holds]) (by simp)
        (by simp) (by simp) ?_
      exact fun _ => ⟨rfl, hsame ▸ hpc⟩
    · rw [if_neg hsame]
      exact .walks (by simp [hpc, Pc.Holds]) (by simp [hpc]) (by simp [Pc.Holds]) (by simp)
        (by simp) (by simp) (by simp)
  | wakeEarly t =>
    simp only [step] at hs
    split at hs <;> cases hs
    rename_i hpc
    exact .walks (by simp [hpc, Pc.Holds]) (by simp [hpc]) (by simp [Pc.Holds]) (by simp)
      (by simp) (by simp) (by simp)
  | unlock t =>
    simp only [step, unlock] at hs
    split at hs
    · rename_i hpc
      have hcheck := xor_and_eq_zero (h.tid_checked (t := t) (by simp [hpc, Pc.Holds])).symm
      rw [if_neg (not_not.mpr hcheck)] at hs
      cases hs
      exact .unlocks hpc
    · cases hs
  | unlockCommon t =>
    simp only [step, unlockCommon] at hs
    split at hs
    · rename_i expectedState hpc
      by_cases hsame : s.lockUint32 = expectedState
      · have hcheck := xor_and_eq_zero (h.tid_checked (t := t) (by simp [hpc, Pc.Holds]))
        rw [hsame] at hcheck
        rw [if_pos hsame, if_neg (not_not.mpr hcheck)] at hs
        cases hs
        exact .releases hpc hsame
      · rw [if_neg hsame] at hs
        cases hs
        exact .fails hpc
    · cases hs
  | sendSignal t =>
    simp only [step] at hs
    split at hs <;> cases hs
    exact .sends ‹_›
  | deliver x rest =>
    simp only [step] at hs
    split at hs <;> cases hs
    exact .delivers ‹_›

theorem Owned.set {owner owner' : Option θ} (h : Owned T s owner) {t : θ} {pc : Pc} {w : UInt32}
    (hself : pc.Holds ↔ owner' = some t) (hothers : ∀ u, u ≠ t → (owner' = some u ↔ owner = some u))
    (hword : ∀ u, owner' = some u → w &&& ownerMask = makeOwnerTid (T.side u) (T.tid u))
    (hfree : owner' = none → w = lockFree)
    (hflagging : ∀ expected, pc = .flagging expected → expected ≠ lockFree)
    (hreleasing : ∀ expectedState, pc = .releasing expectedState →
      expectedState &&& ownerMask = makeOwnerTid (T.side t) (T.tid t))
    (hsane : pc ≠ .fatal) :
    Owned T { s.at t pc with lockUint32 := w } owner' where
  holds := by
    intro u
    by_cases hu : u = t
    · subst hu
      simpa [State.at] using hself
    · simpa [State.at, Function.update_of_ne hu, hothers u hu] using h.holds u
  word := hword
  free := hfree
  flagging := by
    intro u expected hu
    by_cases hut : u = t
    · subst hut
      exact hflagging expected (by simpa [State.at] using hu)
    · exact h.flagging u expected (by simpa [State.at, Function.update_of_ne hut] using hu)
  releasing := by
    intro u expectedState hu
    by_cases hut : u = t
    · subst hut
      exact hreleasing expectedState (by simpa [State.at] using hu)
    · exact h.releasing u expectedState (by simpa [State.at, Function.update_of_ne hut] using hu)
  sane := by
    intro u
    by_cases hut : u = t
    · subst hut
      simpa [State.at] using hsane
    · simpa [State.at, Function.update_of_ne hut] using h.sane u

theorem Owned.moves (hT : ∀ t, makeOwnerTid (T.side t) (T.tid t) ≠ 0)
    (h : ∃ owner, Owned T s owner) {i : Input θ} (hm : Moves T i s s') :
    ∃ owner, Owned T s' owner := by
  obtain ⟨owner, h⟩ := h
  cases hm with
  | @walks t pc hnot _ hpc hsane hflagging _ _ =>
    refine ⟨owner,
      h.set (iff_of_false hpc ?_) (fun _ _ => Iff.rfl) h.word h.free hflagging ?_ hsane⟩
    · exact fun howner => hnot ((h.holds t).mpr howner)
    · rintro e rfl
      exact absurd trivial hpc
  | @takes t hpc hfree =>
    have hnone : owner = none := by
      cases owner with
      | none => rfl
      | some u =>
        have hword := h.word u rfl
        rw [hfree, lockFree, UInt32.zero_and] at hword
        exact absurd hword.symm (hT u)
    subst hnone
    refine ⟨some t, h.set (iff_of_true trivial rfl) ?_ ?_ (by simp) (by simp) (by simp) (by simp)⟩
    · intro u hu
      simp [Ne.symm hu]
    · intro u hu
      cases hu
      exact makeOwnerTid_masked _ _
  | @flags t expected hpc hsame =>
    have hnot : ¬ (s.pcs t).Holds := by simp [hpc, Pc.Holds]
    refine ⟨owner, h.set (iff_of_false (by simp [Pc.Holds]) ?_) (fun _ _ => Iff.rfl) ?_ ?_
      (by simp) (by simp) (by simp)⟩
    · exact fun howner => hnot ((h.holds t).mpr howner)
    · intro u hu
      rw [owner_or_flag, ← hsame]
      exact h.word u hu
    · intro hnone
      exact absurd (hsame ▸ h.free hnone) (h.flagging t expected hpc)
  | @unlocks t hpc =>
    have howner := (h.holds t).mp (by simp [hpc, Pc.Holds])
    refine ⟨owner, h.set (iff_of_true trivial howner) (fun _ _ => Iff.rfl) h.word h.free (by simp)
      ?_ (by simp)⟩
    intro e heq
    cases heq
    exact h.word t howner
  | @fails t _ hpc =>
    have howner := (h.holds t).mp (by simp [hpc, Pc.Holds])
    refine ⟨owner, h.set (iff_of_true trivial howner) (fun _ _ => Iff.rfl) h.word h.free (by simp)
      ?_ (by simp)⟩
    intro e heq
    cases heq
    exact h.word t howner
  | @releases t _ hpc _ =>
    have howner := (h.holds t).mp (by simp [hpc, Pc.Holds])
    refine ⟨none, h.set (by simp [Pc.Holds]) ?_ (by simp) (fun _ => rfl) (by simp) (by simp)
      (by simp)⟩
    intro u hu
    rw [howner]
    simp [Ne.symm hu]
  | @sends t sides hpc =>
    have hnot : ¬ (s.pcs t).Holds := by simp [hpc, Pc.Holds]
    have hset : Owned T { s.at t .idle with lockUint32 := s.lockUint32 } owner := by
      refine h.set (iff_of_false (by simp [Pc.Holds]) ?_) (fun _ _ => Iff.rfl) h.word h.free
        (by simp) (by simp) (by simp)
      exact fun howner => hnot ((h.holds t).mpr howner)
    exact ⟨owner, hset.holds, hset.word, hset.free, hset.flagging, hset.releasing, hset.sane⟩
  | @delivers x rest _ =>
    have hwake (u : θ) {pc : Pc} (hne : pc ≠ .trying) :
        (if s.pcs u = .asleep ∧ T.side u = x then Pc.trying else s.pcs u) = pc → s.pcs u = pc := by
      intro heq
      split at heq
      · exact absurd heq.symm hne
      · exact heq
    refine ⟨owner, ?_, h.word, h.free, ?_, ?_, ?_⟩
    · intro u
      rw [← h.holds u]
      by_cases hu : s.pcs u = .asleep ∧ T.side u = x
      · simp [hu, Pc.Holds]
      · simp only [if_neg hu]
    · exact fun u e hu => h.flagging u e (hwake u (by simp) hu)
    · exact fun u e hu => h.releasing u e (hwake u (by simp) hu)
    · exact fun u hu => h.sane u (hwake u (by simp) hu)

end Moves

theorem mem_route {x y : Side} {sides : List Side} : x ∈ route y sides ↔ x ∈ sides := by
  unfold route
  by_cases hx : x = y
  · subst hx
    split
    · split
      · simp_all
      · simp_all [(peer_ne x).symm]
    · split <;> simp_all
  · obtain rfl := Side.eq_peer hx
    split
    · split <;> simp_all
    · split
      · simp_all [peer_ne y]
      · simp_all

def UnderWay (s : State θ) (x : Side) : Prop :=
  (∃ t sides, s.pcs t = .signalling sides ∧ x ∈ sides) ∨ ∃ r ∈ s.pending, x ∈ r

/-- A thread that sleeps has its side's flag in the word, or will be signalled. -/
def Watched (T : Threads θ) (s : State θ) : Prop :=
  ∀ t, s.pcs t = .asleep →
    s.lockUint32 &&& waitingFlag (T.side t) ≠ 0 ∨ UnderWay s (T.side t)

section Waiting
variable [DecidableEq θ] {x : Side}

theorem UnderWay.set (h : UnderWay s x) {t : θ} {pc : Pc} (w : UInt32)
    (hpc : ∀ sides, s.pcs t ≠ .signalling sides) :
    UnderWay { s.at t pc with lockUint32 := w } x := by
  obtain ⟨u, sides, hu, hx⟩ | hpending := h
  · have hut : u ≠ t := by
      rintro rfl
      exact hpc sides hu
    exact .inl ⟨u, sides, by simpa [State.at, Function.update_of_ne hut] using hu, hx⟩
  · exact .inr hpending

theorem Watched.set (h : Watched T s) {t : θ} {pc : Pc} {w : UInt32}
    (hpc : ∀ sides, s.pcs t ≠ .signalling sides)
    (hword : ∀ y, s.lockUint32 &&& waitingFlag y ≠ 0 → w &&& waitingFlag y ≠ 0)
    (hself : pc = .asleep → w &&& waitingFlag (T.side t) ≠ 0) :
    Watched T { s.at t pc with lockUint32 := w } := by
  intro u hu
  by_cases hut : u = t
  · subst hut
    exact .inl (hself (by simpa [State.at] using hu))
  · obtain hflag | hway := h u (by simpa [State.at, Function.update_of_ne hut] using hu)
    · exact .inl (hword _ hflag)
    · exact .inr (hway.set w hpc)

theorem Watched.moves (h : Watched T s) {i : Input θ} (hok : FlagSeen T s i)
    (hm : Moves T i s s') : Watched T s' := by
  cases hm with
  | @walks t pc _ hsig _ _ _ _ hasleep =>
    apply h.set (t := t) hsig (fun _ => id)
    intro heq
    obtain ⟨rfl, hchecking⟩ := hasleep heq
    exact hok hchecking
  | takes hpc hfree =>
    refine h.set (by simp [hpc]) (fun y hflag => ?_) (by simp)
    rw [hfree, lockFree, UInt32.zero_and] at hflag
    exact absurd rfl hflag
  | flags hpc hsame =>
    refine h.set (by simp [hpc]) (fun y hflag => ?_) (by simp)
    exact flag_or (hsame ▸ hflag) _
  | @unlocks t hpc => exact h.set (t := t) (by simp [hpc]) (fun _ => id) (by simp)
  | @fails t _ hpc => exact h.set (t := t) (by simp [hpc]) (fun _ => id) (by simp)
  | @releases t expectedState hpc hsame =>
    intro u hu
    have hut : u ≠ t := by
      rintro rfl
      simp [State.at] at hu
    obtain hflag | hway := h u (by simpa [State.at, Function.update_of_ne hut] using hu)
    · exact .inr (.inl ⟨t, sidesToSignal expectedState, by simp [State.at],
        mem_sidesToSignal.mpr (hsame ▸ hflag)⟩)
    · exact .inr (hway.set _ (by simp [hpc]))
  | @sends t sides hpc =>
    intro u hu
    have hut : u ≠ t := by
      rintro rfl
      simp [State.at] at hu
    obtain hflag | ⟨v, sides', hv, hx⟩ | ⟨r, hr, hx⟩ :=
      h u (by simpa [State.at, Function.update_of_ne hut] using hu)
    · exact .inl hflag
    · by_cases hvt : v = t
      · rw [hvt, hpc] at hv
        cases hv
        exact .inr (.inr ⟨_, List.mem_cons_self, mem_route.mpr hx⟩)
      · refine .inr (.inl ⟨v, sides', ?_, hx⟩)
        simpa [State.at, Function.update_of_ne hvt] using hv
    · exact .inr (.inr ⟨r, List.mem_cons_of_mem _ hr, hx⟩)
  | @delivers x rest hmem =>
    intro u hu
    have hasleep : s.pcs u = .asleep ∧ T.side u ≠ x := by
      by_cases hwake : s.pcs u = .asleep ∧ T.side u = x
      · simp [hwake] at hu
      · simp only [if_neg hwake] at hu
        exact ⟨hu, fun hx => hwake ⟨hu, hx⟩⟩
    obtain hflag | ⟨v, sides', hv, hx⟩ | ⟨r, hr, hx⟩ := h u hasleep.1
    · exact .inl hflag
    · refine .inr (.inl ⟨v, sides', ?_, hx⟩)
      simp [hv]
    · by_cases hsame : r = x :: rest
      · subst hsame
        obtain rfl | hrest := List.mem_cons.mp hx
        · exact absurd rfl hasleep.2
        · exact .inr (.inr ⟨rest, List.mem_cons_self, hrest⟩)
      · exact .inr (.inr ⟨r, List.mem_cons_of_mem _ ((List.mem_erase_of_ne hsame).mpr hr), hx⟩)

end Waiting

/-- The thread ids of the processes that use the lock. -/
def KernelTids (T : Threads θ) : Prop :=
  ∀ t, T.tid t ≠ 0 ∧ (T.tid t).toNat < 0x00400000

theorem owned_init : Owned T ({} : State θ) none :=
  ⟨by simp [Pc.Holds], by simp, fun _ => rfl, by simp, by simp, by simp⟩

section Runs
variable [DecidableEq θ] {tr : List Unit}

theorem step_of_machine {i : Input θ} {es : List Unit} (hs : (machine T).step s i = some (s', es)) :
    step T s i = some s' := by
  obtain ⟨s₁, hstep, heq⟩ := Option.map_eq_some_iff.mp hs
  cases heq
  exact hstep

/-- At most one thread holds the lock, it is the one in the lock word, and no thread that
unlocks what it locked comes to a fatal end. -/
theorem one_holder (hT : KernelTids T) (run : (machine T).Run (fun _ _ => True) {} tr s) :
    (∀ t u, (s.pcs t).Holds → (s.pcs u).Holds → t = u) ∧
    (∀ t, (s.pcs t).Holds →
      s.lockUint32 &&& ownerMask = makeOwnerTid (T.side t) (T.tid t)) ∧
    ((∀ t, ¬ (s.pcs t).Holds) → s.lockUint32 = lockFree) ∧ ∀ t, s.pcs t ≠ .fatal := by
  obtain ⟨owner, howned⟩ : ∃ owner, Owned T s owner := by
    apply run.invariant (P := fun _ s => ∃ owner, Owned T s owner)
    · exact ⟨none, owned_init⟩
    · intro tr es s s' i h _ hs
      obtain ⟨owner, howned⟩ := id h
      exact Owned.moves (fun t => makeOwnerTid_ne_zero (hT t).1 (hT t).2) h
        (moves_of_step howned (step_of_machine hs))
  refine ⟨?_, fun t ht => howned.word t ((howned.holds t).mp ht), ?_, howned.sane⟩
  · intro t u ht hu
    have hsome := (howned.holds t).mp ht
    rw [(howned.holds u).mp hu] at hsome
    exact (Option.some.inj hsome).symm
  · intro hnone
    apply howned.free
    cases owner with
    | none => rfl
    | some t => exact absurd ((howned.holds t).mpr rfl) (hnone t)

def guestAndHost : Threads Bool :=
  ⟨fun t => if t then .host else .guest, fun t => if t then 2 else 1⟩

theorem kernelTids_guestAndHost : KernelTids guestAndHost := by
  unfold KernelTids
  decide

theorem one_holder_guest :
    ∃ tr, ∃ s : State Bool, (machine guestAndHost).Run (fun _ _ => True) {} tr s ∧
      s.lockUint32 = 1 ∧ s.pcs false = .holding ∧ ¬ (s.pcs true).Holds := by
  obtain ⟨tr, s, run, hword, hpc⟩ := Machine.run_of_exec (machine guestAndHost)
    (fun _ _ => True) {} [.lock false, .tryLock false, .lock true, .tryLock true]
    (fun s _ => s.lockUint32 = 1 ∧ s.pcs false = .holding) (by decide +kernel)
  refine ⟨tr, s, run, hword, hpc, fun hother => ?_⟩
  have hsame := (one_holder kernelTids_guestAndHost run).1 false true (by simp [hpc, Pc.Holds])
    hother
  cases hsame

/-- As long as no thread sleeps on a value without its side's flag, a sleeping thread will be
signalled: the signal is under way, or the holder will send it with its unlocking. -/
theorem waiter_is_signalled (hT : KernelTids T) (run : (machine T).Run (FlagSeen T) {} tr s)
    {t : θ} (ht : s.pcs t = .asleep) :
    UnderWay s (T.side t) ∨
      (∃ u, (s.pcs u).Holds) ∧ T.side t ∈ sidesToSignal s.lockUint32 := by
  obtain ⟨⟨owner, howned⟩, hwatched⟩ : (∃ owner, Owned T s owner) ∧ Watched T s := by
    apply run.invariant (P := fun _ s => (∃ owner, Owned T s owner) ∧ Watched T s)
    · exact ⟨⟨none, owned_init⟩, by intro t ht; simp at ht⟩
    · intro tr es s s' i h hok hs
      obtain ⟨⟨owner, howned⟩, hwatched⟩ := h
      have hm := moves_of_step howned (step_of_machine hs)
      exact ⟨Owned.moves (fun t => makeOwnerTid_ne_zero (hT t).1 (hT t).2) ⟨owner, howned⟩ hm,
        hwatched.moves hok hm⟩
  obtain hflag | hway := hwatched t ht
  · right
    cases owner with
    | none =>
      rw [howned.free rfl, lockFree, UInt32.zero_and] at hflag
      exact absurd rfl hflag
    | some u => exact ⟨⟨u, (howned.holds u).mpr rfl⟩, mem_sidesToSignal.mpr hflag⟩
  · exact .inl hway

instance (T : Threads θ) (s : State θ) (i : Input θ) : Decidable (FlagSeen T s i) :=
  match i with
  | .waitForSignal t => inferInstanceAs (Decidable
      (s.pcs t = .checking s.lockUint32 → s.lockUint32 &&& waitingFlag (T.side t) ≠ 0))
  | .lock _ | .tryLock _ | .wakeEarly _ | .unlock _ | .unlockCommon _ | .sendSignal _
  | .deliver _ _ => inferInstanceAs (Decidable True)

def hostComesLate : List (Input Bool) :=
  [.lock false, .tryLock false, .lock true, .tryLock true, .tryLock true]

theorem waiter_is_signalled_host :
    ∃ tr, ∃ s : State Bool, (machine guestAndHost).Run (FlagSeen guestAndHost) {} tr s ∧
      s.pcs true = .asleep ∧ (UnderWay s .host ∨
        (∃ u, (s.pcs u).Holds) ∧ .host ∈ sidesToSignal s.lockUint32) := by
  obtain ⟨tr, s, run, hasleep⟩ := Machine.run_of_exec (machine guestAndHost)
    (FlagSeen guestAndHost) {}
    (hostComesLate ++ [.waitForSignal true, .tryLock true, .waitForSignal true])
    (fun s _ => s.pcs true = .asleep) (by decide +kernel)
  exact ⟨tr, s, run, hasleep, waiter_is_signalled kernelTids_guestAndHost run hasleep⟩

theorem waiter_left_behind :
    ∃ tr, ∃ s : State Bool, (machine guestAndHost).Run (fun _ _ => True) {} tr s ∧
      s.lockUint32 = lockFree ∧ s.pcs true = .asleep ∧ s.pcs false = .idle ∧
      ∀ r ∈ s.pending, r = [] := by
  exact Machine.run_of_exec (machine guestAndHost) (fun _ _ => True) {}
    (hostComesLate ++ [.unlock false, .unlockCommon false, .sendSignal false, .deliver .host [],
      .lock false, .tryLock false, .waitForSignal true, .unlock false, .unlockCommon false,
      .sendSignal false])
    (fun s _ => s.lockUint32 = lockFree ∧ s.pcs true = .asleep ∧ s.pcs false = .idle ∧
      ∀ r ∈ s.pending, r = []) (by decide +kernel)

end Runs

end Rpi3Device.Vsoc.WaitingLock
