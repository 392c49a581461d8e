import Rpi3Device.TransitionSystem

/-!
# Signals across the shared memory window

Each side of the window has a table in which its peer leaves the offsets it wants to have
signalled, and a flag that says an interrupt is on its way. A sender puts its offset in the
first node that is free or has the offset already, going on from a hash of the offset, and
interrupts the other side unless the flag was up. A worker on each side waits for the flag,
clears the table from end to end, wakes what waits at each offset it finds, and sends a
round-trip signal back.

Every compare-and-exchange is a step of its own, and so is each of the two halves of
`MaybeInterruptPeer`.
-/

namespace Rpi3Device.Vsoc
open TransitionSystem

inductive Side where
  | guest
  | host
  deriving DecidableEq

def Side.peer : Side → Side
  | .guest => .host
  | .host => .guest

@[simp] theorem Side.peer_peer (x : Side) : x.peer.peer = x := by
  cases x <;> rfl

theorem Side.eq_peer {x y : Side} (h : x ≠ y) : x = y.peer := by
  cases x <;> cases y <;> simp_all [Side.peer]

namespace SignalTable

def uaddrOffsetMask : UInt32 := 0xFFFFFFFC
def uaddrOffsetRoundTripFlag : UInt32 := 1

/-- The incoming signal table of a side, and whether its kernel has an interrupt for it. -/
structure Incoming where
  offsets : ℕ → UInt32 := fun _ => 0
  interruptSignalled : Bool := false
  interrupt : Bool := false

def Incoming.put (l : Incoming) (hash : ℕ) (offset : UInt32) : Incoming :=
  { l with offsets := Function.update l.offsets hash offset }

inductive Sending where
  | storing (hash : ℕ) (offset : UInt32)
  | upgrading (hash : ℕ) (offset expected : UInt32)
  | interrupting
  | raising
  deriving DecidableEq

/-- `none` when the offset is not naturally aligned, which is fatal. -/
def sendSignalToPeer (numNodesLg2 : ℕ) (offset : UInt32) (roundTrip : Bool) : Option Sending :=
  if offset &&& ~~~uaddrOffsetMask ≠ 0 then none
  else
    let hash := (offset >>> 2).toNat &&& (2 ^ numNodesLg2 - 1)
    some (.storing hash (if roundTrip then offset ||| uaddrOffsetRoundTripFlag else offset))

/-- The next step of a sender: the table after it, what is left to do, and whether the offset
is now in the table. -/
def Sending.step (numNodesLg2 : ℕ) (l : Incoming) : Sending → Incoming × Option Sending × Bool
  | .storing hash offset =>
    let expected := l.offsets hash
    if expected = 0 then (l.put hash offset, some .interrupting, true)
    else if expected = offset then (l, none, true)
    else if expected &&& uaddrOffsetMask ≠ offset &&& uaddrOffsetMask then
      (l, some (.storing ((hash + 1) &&& (2 ^ numNodesLg2 - 1)) offset), false)
    else if expected &&& uaddrOffsetRoundTripFlag ≠ 0 then (l, none, true)
    else (l, some (.upgrading hash offset expected), false)
  | .upgrading hash offset expected =>
    if l.offsets hash = expected then (l.put hash offset, none, true)
    else if l.offsets hash = offset then (l, none, true)
    else (l, some (.storing hash offset), false)
  | .interrupting =>
    if l.interruptSignalled then (l, none, false)
    else ({ l with interruptSignalled := true }, some .raising, false)
  | .raising => ({ l with interrupt := true }, none, false)

inductive Worker where
  | top
  | blocked
  | scanning (i : ℕ)
  | handling (i : ℕ) (rawOffset : UInt32)
  | resending (i : ℕ) (p : Sending)
  deriving DecidableEq

/-- A thread asked for an offset to be signalled on the other side; the offset is in that
side's table; a worker signalled it to the waiters of its side. -/
inductive Event where
  | called (dest : Side) (offset : UInt32) (roundTrip : Bool)
  | posted (dest : Side) (offset : UInt32) (roundTrip : Bool)
  | woken (here : Side) (offset : UInt32)
  deriving DecidableEq

structure State (θ : Type*) where
  incoming : Side → Incoming := fun _ => {}
  senders : θ → Option Sending := fun _ => none
  workers : Side → Worker := fun _ => .top

structure SidesToSignal where
  peer : Bool
  ourSide : Bool

inductive Input (θ : Type*) where
  | sendSignal (t : θ) (sides : SidesToSignal) (offset : UInt32)
  | sender (t : θ)
  | worker (x : Side)

def Sending.offset? : Sending → Option UInt32
  | .storing _ offset | .upgrading _ offset _ => some offset
  | _ => none

def postedEvents (dest : Side) (p : Sending) (stored : Bool) : List Event :=
  match p.offset? with
  | some offset =>
    if stored then
      [.posted dest (offset &&& uaddrOffsetMask) (offset &&& uaddrOffsetRoundTripFlag ≠ 0)]
    else []
  | none => []

def afterResend (i : ℕ) : Option Sending → Worker
  | some q => .resending i q
  | none => .scanning (i + 1)

section Steps
variable {θ : Type*} [DecidableEq θ] (numNodesLg2 : ℕ) (side : θ → Side)

def sendSignal (s : State θ) (t : θ) (sides : SidesToSignal) (offset : UInt32) :
    Option (State θ × List Event) :=
  if sides.peer then
    (sendSignalToPeer numNodesLg2 offset sides.ourSide).map fun p =>
      ({ s with senders := Function.update s.senders t (some p) },
        [.called (side t).peer offset sides.ourSide])
  else if sides.ourSide then some (s, [.woken (side t) offset])
  else some (s, [])

/-- A step of a worker that is on its way back to the peer with a round-trip signal. -/
def resend (s : State θ) (x : Side) (i : ℕ) (p : Sending) : State θ × List Event :=
  let r := p.step numNodesLg2 (s.incoming x.peer)
  ({ s with
      incoming := Function.update s.incoming x.peer r.1
      workers := Function.update s.workers x (afterResend i r.2.1) }, postedEvents x.peer p r.2.2)

def handle (s : State θ) (x : Side) (i : ℕ) (rawOffset : UInt32) : State θ × List Event :=
  let offset := rawOffset &&& uaddrOffsetMask
  let next := if rawOffset &&& uaddrOffsetRoundTripFlag ≠ 0 then
      match sendSignalToPeer numNodesLg2 offset false with
      | some p => Worker.resending i p
      | none => .scanning (i + 1)
    else .scanning (i + 1)
  ({ s with workers := Function.update s.workers x next }, [.woken x offset])

def work (s : State θ) (x : Side) : State θ × List Event :=
  let l := s.incoming x
  let go (l : Incoming) (w : Worker) : State θ :=
    { s with
      incoming := Function.update s.incoming x l
      workers := Function.update s.workers x w }
  match s.workers x with
  | .top =>
    if l.interruptSignalled then (go { l with interruptSignalled := false } (.scanning 0), [])
    else (go l .blocked, [])
  | .blocked => if l.interrupt then (go { l with interrupt := false } .top, []) else (s, [])
  | .scanning i =>
    if i < 2 ^ numNodesLg2 then
      let rawOffset := l.offsets i
      if rawOffset = 0 then (go l (.scanning (i + 1)), [])
      else (go (l.put i 0) (.handling i rawOffset), [])
    else (go l .top, [])
  | .handling i rawOffset => handle numNodesLg2 s x i rawOffset
  | .resending i p => resend numNodesLg2 s x i p

def step (s : State θ) : Input θ → Option (State θ × List Event)
  | .sendSignal t sides offset =>
    match s.senders t with
    | none => sendSignal numNodesLg2 side s t sides offset
    | some _ => none
  | .sender t =>
    match s.senders t with
    | none => none
    | some p =>
      let dest := (side t).peer
      let r := p.step numNodesLg2 (s.incoming dest)
      some ({ s with
        incoming := Function.update s.incoming dest r.1
        senders := Function.update s.senders t r.2.1 }, postedEvents dest p r.2.2)
  | .worker x => some (work numNodesLg2 s x)

def machine : Machine (State θ) (Input θ) Event := ⟨step numNodesLg2 side⟩

end Steps

/-- Nothing of a region that is waited for lies at its very beginning. -/
def InRegion {θ : Type*} (_ : State θ) : Input θ → Prop
  | .sendSignal _ _ offset => offset ≠ 0
  | _ => True

instance {θ : Type*} (s : State θ) (i : Input θ) : Decidable (InRegion s i) :=
  match i with
  | .sendSignal _ _ offset => inferInstanceAs (Decidable (offset ≠ 0))
  | .sender _ => inferInstanceAs (Decidable True)
  | .worker _ => inferInstanceAs (Decidable True)

section Words

theorem masked_masked (x : UInt32) :
    x &&& uaddrOffsetMask &&& uaddrOffsetMask = x &&& uaddrOffsetMask := by
  rw [UInt32.and_assoc, UInt32.and_self]

theorem or_and (x y z : UInt32) : (x ||| y) &&& z = x &&& z ||| y &&& z := by
  apply UInt32.toBitVec_inj.mp
  simp [BitVec.and_or_distrib_right]

theorem masked_eq {offset : UInt32} (h : offset &&& ~~~uaddrOffsetMask = 0) :
    offset &&& uaddrOffsetMask = offset := by
  have hall : uaddrOffsetMask ||| ~~~uaddrOffsetMask = -1 := UInt32.or_not_self
  have hsplit := or_and uaddrOffsetMask (~~~uaddrOffsetMask) offset
  rw [hall, UInt32.and_comm, UInt32.and_neg_one, UInt32.and_comm, UInt32.and_comm _ offset, h,
    UInt32.or_zero] at hsplit
  exact hsplit.symm

theorem masked_or_flag (offset : UInt32) :
    (offset ||| uaddrOffsetRoundTripFlag) &&& uaddrOffsetMask = offset &&& uaddrOffsetMask := by
  have hflag : uaddrOffsetRoundTripFlag &&& uaddrOffsetMask = 0 := by decide
  rw [or_and, hflag, UInt32.or_zero]

theorem masked_ne_zero {x : UInt32} (h : x &&& uaddrOffsetMask ≠ 0) : x ≠ 0 := by
  rintro rfl
  exact h UInt32.zero_and

end Words

variable {numNodesLg2 : ℕ} {l : Incoming} {p : Sending}

def Sending.Valid (numNodesLg2 : ℕ) : Sending → Prop
  | .storing hash offset => hash < 2 ^ numNodesLg2 ∧ offset &&& uaddrOffsetMask ≠ 0
  | .upgrading hash offset expected =>
    hash < 2 ^ numNodesLg2 ∧ offset &&& uaddrOffsetMask ≠ 0 ∧
      expected &&& uaddrOffsetMask = offset &&& uaddrOffsetMask ∧
      expected &&& uaddrOffsetRoundTripFlag = 0
  | _ => True

inductive Sending.Moves (numNodesLg2 : ℕ) (l : Incoming) :
    Sending → Incoming → Option Sending → Bool → Prop where
  | stored {hash offset} : hash < 2 ^ numNodesLg2 → offset &&& uaddrOffsetMask ≠ 0 →
      l.offsets hash = 0 →
      Moves numNodesLg2 l (.storing hash offset) (l.put hash offset) (some .interrupting) true
  | found {p hash offset} : p.offset? = some offset → hash < 2 ^ numNodesLg2 →
      offset &&& uaddrOffsetMask ≠ 0 →
      l.offsets hash &&& uaddrOffsetMask = offset &&& uaddrOffsetMask →
      (offset &&& uaddrOffsetRoundTripFlag ≠ 0 →
        l.offsets hash &&& uaddrOffsetRoundTripFlag ≠ 0) →
      Moves numNodesLg2 l p l none true
  | upgraded {hash offset expected} : hash < 2 ^ numNodesLg2 → offset &&& uaddrOffsetMask ≠ 0 →
      l.offsets hash &&& uaddrOffsetMask = offset &&& uaddrOffsetMask →
      l.offsets hash &&& uaddrOffsetRoundTripFlag = 0 →
      Moves numNodesLg2 l (.upgrading hash offset expected) (l.put hash offset) none true
  | goesOn {p q offset} : q.Valid numNodesLg2 → p.offset? = some offset →
      q.offset? = some offset → Moves numNodesLg2 l p l (some q) false
  | wasSignalled : l.interruptSignalled → Moves numNodesLg2 l .interrupting l none false
  | signals :
      Moves numNodesLg2 l .interrupting { l with interruptSignalled := true } (some .raising) false
  | raises : Moves numNodesLg2 l .raising { l with interrupt := true } none false

theorem Sending.moves (hp : p.Valid numNodesLg2) : p.Moves numNodesLg2 l
    (p.step numNodesLg2 l).1 (p.step numNodesLg2 l).2.1 (p.step numNodesLg2 l).2.2 := by
  cases p with
  | storing hash offset =>
    obtain ⟨hhash, hoffset⟩ := hp
    simp only [Sending.step]
    by_cases hfree : l.offsets hash = 0
    · rw [if_pos hfree]
      exact .stored hhash hoffset hfree
    rw [if_neg hfree]
    by_cases hsame : l.offsets hash = offset
    · rw [if_pos hsame]
      exact .found rfl hhash hoffset (by rw [hsame]) (by rw [hsame]; exact id)
    rw [if_neg hsame]
    by_cases hother : l.offsets hash &&& uaddrOffsetMask ≠ offset &&& uaddrOffsetMask
    · rw [if_pos hother]
      refine .goesOn ⟨?_, hoffset⟩ rfl rfl
      rw [Nat.and_two_pow_sub_one_eq_mod]
      exact Nat.mod_lt _ (Nat.two_pow_pos _)
    rw [if_neg hother]
    have hmask := not_not.mp hother
    by_cases hflag : l.offsets hash &&& uaddrOffsetRoundTripFlag ≠ 0
    · rw [if_pos hflag]
      exact .found rfl hhash hoffset hmask fun _ => hflag
    · rw [if_neg hflag]
      exact .goesOn ⟨hhash, hoffset, hmask, not_not.mp hflag⟩ rfl rfl
  | upgrading hash offset expected =>
    obtain ⟨hhash, hoffset, hmask, hflag⟩ := hp
    simp only [Sending.step]
    by_cases hswap : l.offsets hash = expected
    · rw [if_pos hswap]
      exact .upgraded hhash hoffset (hswap ▸ hmask) (hswap ▸ hflag)
    rw [if_neg hswap]
    by_cases hsame : l.offsets hash = offset
    · rw [if_pos hsame]
      exact .found rfl hhash hoffset (by rw [hsame]) (by rw [hsame]; exact id)
    · rw [if_neg hsame]
      exact .goesOn ⟨hhash, hoffset⟩ rfl rfl
  | interrupting =>
    simp only [Sending.step]
    split
    · exact .wasSignalled ‹_›
    · exact .signals
  | raising => exact .raises

theorem sendSignalToPeer_valid {offset : UInt32} {roundTrip : Bool}
    (h : sendSignalToPeer numNodesLg2 offset roundTrip = some p)
    (hoffset : offset &&& uaddrOffsetMask ≠ 0) :
    p.Valid numNodesLg2 ∧ ∃ stored, p.offset? = some stored ∧
      stored &&& uaddrOffsetMask = offset &&& uaddrOffsetMask := by
  have hhash : (offset >>> 2).toNat &&& (2 ^ numNodesLg2 - 1) < 2 ^ numNodesLg2 := by
    rw [Nat.and_two_pow_sub_one_eq_mod]
    exact Nat.mod_lt _ (Nat.two_pow_pos _)
  have hmask : (if roundTrip then offset ||| uaddrOffsetRoundTripFlag else offset) &&&
      uaddrOffsetMask = offset &&& uaddrOffsetMask := by
    split
    · exact masked_or_flag offset
    · rfl
  simp only [sendSignalToPeer] at h
  split at h
  · cases h
  · cases h
    exact ⟨⟨hhash, hmask ▸ hoffset⟩, _, rfl, hmask⟩

/-- The worker will still come to a node of the table in the scan it is in. -/
def Worker.Ahead (j : ℕ) : Worker → Prop
  | .scanning i => i ≤ j
  | .handling i _ | .resending i _ => i < j
  | _ => False

/-- A table with something in it will be scanned: the flag is up, or will be, or the worker
is on its way. A worker that sleeps while the flag is up will be interrupted. -/
structure Delivering (numNodesLg2 : ℕ) (l : Incoming) (w : Worker) (sends : Sending → Prop) :
    Prop where
  valid : ∀ p, sends p → p.Valid numNodesLg2
  aligned : ∀ i < 2 ^ numNodesLg2, l.offsets i ≠ 0 → l.offsets i &&& uaddrOffsetMask ≠ 0
  handled : ∀ i rawOffset, w = .handling i rawOffset → rawOffset &&& uaddrOffsetMask ≠ 0
  reach : ∀ i < 2 ^ numNodesLg2, l.offsets i ≠ 0 →
    l.interruptSignalled ∨ sends .interrupting ∨ w.Ahead i
  wake : w = .blocked → l.interruptSignalled → l.interrupt ∨ sends .raising

section Directions
variable {w : Worker} {sends sends' : Sending → Prop}

theorem Delivering.keep (h : Delivering numNodesLg2 l w sends) {l' : Incoming}
    (hvalid : ∀ p, sends' p → p.Valid numNodesLg2)
    (hslots : ∀ i < 2 ^ numNodesLg2, l'.offsets i ≠ 0 →
      l.offsets i ≠ 0 ∧ l'.offsets i &&& uaddrOffsetMask = l.offsets i &&& uaddrOffsetMask)
    (hsignalled : l'.interruptSignalled = l.interruptSignalled)
    (hinterrupt : l'.interrupt = l.interrupt)
    (hinterrupting : sends .interrupting → sends' .interrupting)
    (hraising : sends .raising → sends' .raising) : Delivering numNodesLg2 l' w sends' where
  valid := hvalid
  aligned := by
    intro i hi hslot
    obtain ⟨hold, hmask⟩ := hslots i hi hslot
    rw [hmask]
    exact h.aligned i hi hold
  handled := h.handled
  reach := by
    intro i hi hslot
    rw [hsignalled]
    obtain hflag | hsender | hahead := h.reach i hi (hslots i hi hslot).1
    · exact .inl hflag
    · exact .inr (.inl (hinterrupting hsender))
    · exact .inr (.inr hahead)
  wake := by
    intro hblocked hflag
    rw [hsignalled] at hflag
    rw [hinterrupt]
    obtain hraised | hsender := h.wake hblocked hflag
    · exact .inl hraised
    · exact .inr (hraising hsender)

theorem Delivering.mono (h : Delivering numNodesLg2 l w sends)
    (hsends : ∀ p, sends p → sends' p) (hvalid : ∀ p, sends' p → sends p ∨ p.Valid numNodesLg2) :
    Delivering numNodesLg2 l w sends' := by
  refine h.keep ?_ (fun i _ hslot => ⟨hslot, rfl⟩) rfl rfl (hsends _) (hsends _)
  intro p hp
  obtain hold | hnew := hvalid p hp
  · exact h.valid p hold
  · exact hnew

theorem put_self (l : Incoming) (hash : ℕ) (offset : UInt32) :
    (l.put hash offset).offsets hash = offset := by
  simp [Incoming.put]

theorem put_other (l : Incoming) {hash i : ℕ} (offset : UInt32) (hi : i ≠ hash) :
    (l.put hash offset).offsets i = l.offsets i := by
  simp [Incoming.put, hi]

theorem Delivering.send (h : Delivering numNodesLg2 l w sends) {l' : Incoming}
    {next : Option Sending} {stored : Bool} (hm : p.Moves numNodesLg2 l l' next stored)
    (hothers : ∀ q, sends q → q = p ∨ sends' q) (hnext : ∀ q, next = some q → sends' q)
    (hvalid : ∀ q, sends' q → next = some q ∨ sends q) :
    Delivering numNodesLg2 l' w sends' := by
  have hvalid' : ∀ q, sends' q → q.Valid numNodesLg2 := by
    intro q hq
    obtain hnew | hold := hvalid q hq
    · cases hm with
      | stored => cases hnew; trivial
      | goesOn hq' => cases hnew; exact hq'
      | signals => cases hnew; trivial
      | _ => cases hnew
    · exact h.valid q hold
  have hstays {q : Sending} (hne : q ≠ p) (hq : sends q) : sends' q := by
    obtain hself | hother := hothers q hq
    · exact absurd hself hne
    · exact hother
  have hstore {offset : UInt32} (hp : p.offset? = some offset) {q : Sending}
      (hq : q.offset? = none) : q ≠ p := by
    rintro rfl
    rw [hp] at hq
    cases hq
  cases hm with
  | stored hhash hoffset hfree =>
    rename_i hash offset
    refine ⟨hvalid', ?_, h.handled, fun i hi hslot => .inr (.inl (hnext _ rfl)), ?_⟩
    · intro i hi hslot
      by_cases hih : i = hash
      · rw [hih, put_self]
        exact hoffset
      · rw [put_other l offset hih] at hslot ⊢
        exact h.aligned i hi hslot
    · intro hblocked hflag
      obtain hinterrupt | hsender := h.wake hblocked hflag
      · exact .inl hinterrupt
      · exact .inr (hstays (by simp) hsender)
  | found hoffset _ _ _ _ =>
    exact h.keep hvalid' (fun i _ hslot => ⟨hslot, rfl⟩) rfl rfl
      (hstays (hstore hoffset rfl)) (hstays (hstore hoffset rfl))
  | upgraded hhash hoffset hmask hflag =>
    rename_i hash offset expected
    refine h.keep hvalid' ?_ rfl rfl (hstays (by simp)) (hstays (by simp))
    intro i hi hslot
    by_cases hih : i = hash
    · rw [hih, put_self]
      exact ⟨masked_ne_zero (hmask ▸ hoffset), hmask.symm⟩
    · rw [put_other l offset hih] at hslot ⊢
      exact ⟨hslot, rfl⟩
  | goesOn _ hoffset _ =>
    exact h.keep hvalid' (fun i _ hslot => ⟨hslot, rfl⟩) rfl rfl
      (hstays (hstore hoffset rfl)) (hstays (hstore hoffset rfl))
  | wasSignalled hflag =>
    refine ⟨hvalid', h.aligned, h.handled, fun i _ _ => .inl hflag, ?_⟩
    intro hblocked _
    obtain hinterrupt | hsender := h.wake hblocked hflag
    · exact .inl hinterrupt
    · exact .inr (hstays (by simp) hsender)
  | signals =>
    exact ⟨hvalid', h.aligned, h.handled, fun i _ _ => .inl rfl, fun _ _ => .inr (hnext _ rfl)⟩
  | raises =>
    refine ⟨hvalid', h.aligned, h.handled, ?_, fun _ _ => .inl rfl⟩
    intro i hi hslot
    obtain hflag | hsender | hahead := h.reach i hi hslot
    · exact .inl hflag
    · exact .inr (.inl (hstays (by simp) hsender))
    · exact .inr (.inr hahead)

inductive Worker.Receives (numNodesLg2 : ℕ) (l : Incoming) : Worker → Incoming → Worker → Prop where
  | starts : l.interruptSignalled →
      Receives numNodesLg2 l .top { l with interruptSignalled := false } (.scanning 0)
  | sleeps : l.interruptSignalled = false → Receives numNodesLg2 l .top l .blocked
  | wakes : Receives numNodesLg2 l .blocked { l with interrupt := false } .top
  | skips {i} : l.offsets i = 0 → Receives numNodesLg2 l (.scanning i) l (.scanning (i + 1))
  | takes {i} : i < 2 ^ numNodesLg2 → l.offsets i ≠ 0 →
      Receives numNodesLg2 l (.scanning i) (l.put i 0) (.handling i (l.offsets i))
  | ends {i} : ¬ i < 2 ^ numNodesLg2 → Receives numNodesLg2 l (.scanning i) l .top

theorem Worker.Receives.not_resending {l' : Incoming} {w' : Worker}
    (hw : w.Receives numNodesLg2 l l' w') (i : ℕ) (q : Sending) :
    w ≠ .resending i q ∧ w' ≠ .resending i q := by
  cases hw <;> simp

theorem Delivering.receive (h : Delivering numNodesLg2 l w sends) {l' : Incoming} {w' : Worker}
    (hw : w.Receives numNodesLg2 l l' w') : Delivering numNodesLg2 l' w' sends := by
  cases hw with
  | starts hflag =>
    exact ⟨h.valid, h.aligned, by simp, fun i _ _ => .inr (.inr (Nat.zero_le i)), by simp⟩
  | sleeps hflag =>
    refine ⟨h.valid, h.aligned, by simp, ?_, by simp [hflag]⟩
    intro i hi hslot
    exact h.reach i hi hslot
  | wakes =>
    refine ⟨h.valid, h.aligned, by simp, ?_, by simp⟩
    intro i hi hslot
    exact h.reach i hi hslot
  | skips hfree =>
    rename_i i
    refine ⟨h.valid, h.aligned, by simp, ?_, by simp⟩
    intro j hj hslot
    obtain hflag | hsender | hahead := h.reach j hj hslot
    · exact .inl hflag
    · exact .inr (.inl hsender)
    · refine .inr (.inr (lt_of_le_of_ne hahead ?_))
      rintro rfl
      exact hslot hfree
  | takes hi hslot =>
    rename_i i
    refine ⟨h.valid, ?_, ?_, ?_, by simp⟩
    · intro j hj hslot'
      have hji : j ≠ i := by
        rintro rfl
        exact hslot' (put_self l j 0)
      rw [put_other l 0 hji] at hslot' ⊢
      exact h.aligned j hj hslot'
    · intro j rawOffset heq
      cases heq
      exact h.aligned i hi hslot
    · intro j hj hslot'
      have hji : j ≠ i := by
        rintro rfl
        exact hslot' (put_self l j 0)
      rw [put_other l 0 hji] at hslot'
      obtain hflag | hsender | hahead := h.reach j hj hslot'
      · exact .inl hflag
      · exact .inr (.inl hsender)
      · exact .inr (.inr (lt_of_le_of_ne hahead hji.symm))
  | ends hend =>
    refine ⟨h.valid, h.aligned, by simp, ?_, by simp⟩
    intro j hj hslot
    obtain hflag | hsender | hahead := h.reach j hj hslot
    · exact .inl hflag
    · exact .inr (.inl hsender)
    · exact absurd (lt_of_le_of_lt hahead hj) hend

theorem Delivering.pass (h : Delivering numNodesLg2 l w sends) {w' : Worker}
    (hahead : ∀ j, w.Ahead j → w'.Ahead j) (hblocked : w' ≠ .blocked)
    (hhandling : ∀ i rawOffset, w' ≠ .handling i rawOffset) :
    Delivering numNodesLg2 l w' sends where
  valid := h.valid
  aligned := h.aligned
  handled := fun i rawOffset heq => absurd heq (hhandling i rawOffset)
  reach := by
    intro i hi hslot
    obtain hflag | hsender | hold := h.reach i hi hslot
    · exact .inl hflag
    · exact .inr (.inl hsender)
    · exact .inr (.inr (hahead i hold))
  wake := fun heq => absurd heq hblocked

end Directions

def Event.Posts (x : Side) (offset : UInt32) (e : Event) : Prop :=
  ∃ roundTrip, e = .posted x offset roundTrip

def Held (numNodesLg2 : ℕ) (l : Incoming) (w : Worker) (offset : UInt32) : Prop :=
  (∃ i < 2 ^ numNodesLg2, l.offsets i ≠ 0 ∧ l.offsets i &&& uaddrOffsetMask = offset) ∨
    ∃ i rawOffset, w = .handling i rawOffset ∧ rawOffset &&& uaddrOffsetMask = offset

/-- The offset is on its way to the side, or from it back to the peer. -/
def HeldBack (numNodesLg2 : ℕ) (l : Incoming) (w : Worker) (offset : UInt32) : Prop :=
  (∃ i < 2 ^ numNodesLg2, l.offsets i &&& uaddrOffsetRoundTripFlag ≠ 0 ∧
      l.offsets i &&& uaddrOffsetMask = offset) ∨
    (∃ i rawOffset, w = .handling i rawOffset ∧
      rawOffset &&& uaddrOffsetRoundTripFlag ≠ 0 ∧ rawOffset &&& uaddrOffsetMask = offset) ∨
    ∃ i p stored, w = .resending i p ∧ p.offset? = some stored ∧
      stored &&& uaddrOffsetMask = offset

/-- What has been posted and not been woken, or not been sent back, is still there. -/
structure Tracked (numNodesLg2 : ℕ) (x : Side) (tr : List Event) (l : Incoming) (w : Worker) :
    Prop where
  held : ∀ offset, Unanswered (Event.Posts x offset) (· = .woken x offset) tr →
    Held numNodesLg2 l w offset
  back : ∀ offset, Unanswered (· = .posted x offset true) (Event.Posts x.peer offset) tr →
    HeldBack numNodesLg2 l w offset

section Tracking
variable {x : Side} {tr : List Event} {w : Worker}

theorem Tracked.other (h : Tracked numNodesLg2 x tr l w) {e : Event}
    (he : ∀ offset, ¬ e.Posts x offset) : Tracked numNodesLg2 x (tr ++ [e]) l w where
  held := by
    intro offset hdue
    obtain hask | ⟨hdue, -⟩ := unanswered_snoc.mp hdue
    · exact absurd hask (he offset)
    · exact h.held offset hdue
  back := by
    intro offset hdue
    obtain hask | ⟨hdue, -⟩ := unanswered_snoc.mp hdue
    · exact absurd ⟨true, hask⟩ (he offset)
    · exact h.back offset hdue

theorem Tracked.receive (h : Tracked numNodesLg2 x tr l w) {l' : Incoming} {w' : Worker}
    (hw : w.Receives numNodesLg2 l l' w') : Tracked numNodesLg2 x tr l' w' := by
  refine ⟨fun offset hdue => ?_, fun offset hdue => ?_⟩
  · have hheld := h.held offset hdue
    cases hw with
    | takes hi hslot =>
      rename_i i
      obtain ⟨j, hj, hslot', hmask⟩ | ⟨j, rawOffset, heq, -⟩ := hheld
      · by_cases hji : j = i
        · exact .inr ⟨i, _, rfl, hji ▸ hmask⟩
        · refine .inl ⟨j, hj, ?_⟩
          rw [put_other l 0 hji]
          exact ⟨hslot', hmask⟩
      · cases heq
    | _ =>
      obtain hslot | ⟨j, rawOffset, heq, -⟩ := hheld
      · exact .inl hslot
      · cases heq
  · have hback := h.back offset hdue
    cases hw with
    | takes hi hslot =>
      rename_i i
      obtain ⟨j, hj, hflag, hmask⟩ | ⟨j, rawOffset, heq, -⟩ | ⟨j, p, stored, heq, -⟩ := hback
      · by_cases hji : j = i
        · exact .inr (.inl ⟨i, _, rfl, hji ▸ hflag, hji ▸ hmask⟩)
        · refine .inl ⟨j, hj, ?_⟩
          rw [put_other l 0 hji]
          exact ⟨hflag, hmask⟩
      · cases heq
      · cases heq
    | _ =>
      obtain hslot | ⟨j, rawOffset, heq, -⟩ | ⟨j, p, stored, heq, -⟩ := hback
      · exact .inl hslot
      · cases heq
      · cases heq

theorem Tracked.handle {i : ℕ} {rawOffset : UInt32} {w' : Worker}
    (h : Tracked numNodesLg2 x tr l (.handling i rawOffset))
    (hnext : rawOffset &&& uaddrOffsetRoundTripFlag ≠ 0 →
      ∃ p stored, w' = .resending i p ∧ p.offset? = some stored ∧
        stored &&& uaddrOffsetMask = rawOffset &&& uaddrOffsetMask) :
    Tracked numNodesLg2 x (tr ++ [.woken x (rawOffset &&& uaddrOffsetMask)]) l w' where
  held := by
    intro offset hdue
    obtain ⟨_, hask⟩ | ⟨hdue, hnot⟩ := unanswered_snoc.mp hdue
    · cases hask
    · obtain hslot | ⟨j, raw, heq, hmask⟩ := h.held offset hdue
      · exact .inl hslot
      · cases heq
        exact absurd (congrArg _ hmask) hnot
  back := by
    intro offset hdue
    obtain hask | ⟨hdue, hnot⟩ := unanswered_snoc.mp hdue
    · cases hask
    · obtain hslot | ⟨j, raw, heq, hflag, hmask⟩ | ⟨j, p, stored, heq, -⟩ := h.back offset hdue
      · exact .inl hslot
      · cases heq
        obtain ⟨p, stored, hw', hstored, hsame⟩ := hnext hflag
        exact .inr (.inr ⟨i, p, stored, hw', hstored, hsame.trans hmask⟩)
      · cases heq

section Senders
variable {l' : Incoming} {next : Option Sending} {stored : Bool}

theorem Sending.Moves.slot (hm : p.Moves numNodesLg2 l l' next stored) {i : ℕ}
    (hslot : l.offsets i ≠ 0) :
    l'.offsets i &&& uaddrOffsetMask = l.offsets i &&& uaddrOffsetMask ∧
      (l.offsets i &&& uaddrOffsetRoundTripFlag ≠ 0 →
        l'.offsets i &&& uaddrOffsetRoundTripFlag ≠ 0) := by
  cases hm with
  | stored _ _ hfree =>
    have hi : i ≠ _ := fun heq => hslot (heq ▸ hfree)
    rw [put_other l _ hi]
    exact ⟨rfl, id⟩
  | upgraded hhash hoffset hmask hflag =>
    rename_i hash offset expected
    by_cases hi : i = hash
    · rw [hi, put_self]
      exact ⟨hmask.symm, fun h => absurd hflag h⟩
    · rw [put_other l offset hi]
      exact ⟨rfl, id⟩
  | _ => exact ⟨rfl, id⟩

theorem Sending.Moves.in_table (hm : p.Moves numNodesLg2 l l' next true) :
    ∃ offset hash, p.offset? = some offset ∧ hash < 2 ^ numNodesLg2 ∧
      offset &&& uaddrOffsetMask ≠ 0 ∧
      l'.offsets hash &&& uaddrOffsetMask = offset &&& uaddrOffsetMask ∧
      (offset &&& uaddrOffsetRoundTripFlag ≠ 0 →
        l'.offsets hash &&& uaddrOffsetRoundTripFlag ≠ 0) := by
  cases hm with
  | stored hhash hoffset _ =>
    refine ⟨_, _, rfl, hhash, hoffset, ?_⟩
    rw [put_self]
    exact ⟨rfl, id⟩
  | found hp hhash hoffset hmask hflag => exact ⟨_, _, hp, hhash, hoffset, hmask, hflag⟩
  | upgraded hhash hoffset _ _ =>
    refine ⟨_, _, rfl, hhash, hoffset, ?_⟩
    rw [put_self]
    exact ⟨rfl, id⟩

theorem Sending.Moves.not_stored (hm : p.Moves numNodesLg2 l l' next false) {offset : UInt32}
    (hp : p.offset? = some offset) : ∃ q, next = some q ∧ q.offset? = some offset := by
  cases hm with
  | goesOn _ hoffset hq => exact ⟨_, rfl, by rw [hq, ← hoffset, hp]⟩
  | _ => cases hp

theorem postedEvents_false (x : Side) (p : Sending) : postedEvents x p false = [] := by
  unfold postedEvents
  cases p.offset? with
  | none => rfl
  | some offset => rfl

theorem postedEvents_true (x : Side) {offset : UInt32} (hp : p.offset? = some offset) :
    postedEvents x p true = [.posted x (offset &&& uaddrOffsetMask)
      (decide (offset &&& uaddrOffsetRoundTripFlag ≠ 0))] := by
  simp only [postedEvents, hp, if_true]

theorem Held.send {offset : UInt32} (h : Held numNodesLg2 l w offset)
    {sends : Sending → Prop} (hd : Delivering numNodesLg2 l w sends)
    (hm : p.Moves numNodesLg2 l l' next stored) : Held numNodesLg2 l' w offset := by
  obtain ⟨i, hi, hslot, hmask⟩ | hhandling := h
  · have hsame := (hm.slot hslot).1
    refine .inl ⟨i, hi, masked_ne_zero ?_, hsame.trans hmask⟩
    rw [hsame]
    exact hd.aligned i hi hslot
  · exact .inr hhandling

theorem HeldBack.send {offset : UInt32} (h : HeldBack numNodesLg2 l w offset)
    (hm : p.Moves numNodesLg2 l l' next stored) : HeldBack numNodesLg2 l' w offset := by
  obtain ⟨i, hi, hflag, hmask⟩ | hother := h
  · have hslot : l.offsets i ≠ 0 := by
      intro hzero
      rw [hzero] at hflag
      exact hflag UInt32.zero_and
    obtain ⟨hsame, hstays⟩ := hm.slot hslot
    exact .inl ⟨i, hi, hstays hflag, hsame.trans hmask⟩
  · exact .inr hother

theorem Tracked.send (h : Tracked numNodesLg2 x tr l w) {sends : Sending → Prop}
    (hd : Delivering numNodesLg2 l w sends) (hm : p.Moves numNodesLg2 l l' next stored) :
    Tracked numNodesLg2 x (tr ++ postedEvents x p stored) l' w := by
  cases stored with
  | false =>
    rw [postedEvents_false, List.append_nil]
    exact ⟨fun offset hdue => (h.held offset hdue).send hd hm,
      fun offset hdue => (h.back offset hdue).send hm⟩
  | true =>
    obtain ⟨posted, hash, hp, hhash, hposted, hmask, hflag⟩ := hm.in_table
    rw [postedEvents_true x hp]
    refine ⟨fun offset hdue => ?_, fun offset hdue => ?_⟩
    · obtain ⟨_, hask⟩ | ⟨hdue, -⟩ := unanswered_snoc.mp hdue
      · cases hask
        exact .inl ⟨hash, hhash, masked_ne_zero (hmask ▸ hposted), hmask⟩
      · exact (h.held offset hdue).send hd hm
    · obtain hask | ⟨hdue, -⟩ := unanswered_snoc.mp hdue
      · obtain ⟨-, rfl, hround⟩ := Event.posted.inj hask
        exact .inl ⟨hash, hhash, hflag (of_decide_eq_true hround), hmask⟩
      · exact (h.back offset hdue).send hm

theorem Tracked.resend {i : ℕ} {lp : Incoming}
    (h : Tracked numNodesLg2 x tr l (.resending i p))
    (hm : p.Moves numNodesLg2 lp l' next stored) :
    Tracked numNodesLg2 x (tr ++ postedEvents x.peer p stored) l (afterResend i next) := by
  cases stored with
  | false =>
    rw [postedEvents_false, List.append_nil]
    refine ⟨fun offset hdue => ?_, fun offset hdue => ?_⟩
    · obtain hslot | ⟨j, raw, heq, -⟩ := h.held offset hdue
      · exact .inl hslot
      · cases heq
    · obtain hslot | ⟨j, raw, heq, -⟩ | ⟨j, p', posted, heq, hp, hmask⟩ := h.back offset hdue
      · exact .inl hslot
      · cases heq
      · cases heq
        obtain ⟨q, rfl, hq⟩ := hm.not_stored hp
        exact .inr (.inr ⟨i, q, posted, rfl, hq, hmask⟩)
  | true =>
    obtain ⟨posted, hash, hp, -⟩ := hm.in_table
    rw [postedEvents_true x.peer hp]
    refine ⟨fun offset hdue => ?_, fun offset hdue => ?_⟩
    · obtain ⟨_, hask⟩ | ⟨hdue, -⟩ := unanswered_snoc.mp hdue
      · cases x <;> cases hask
      · obtain hslot | ⟨j, raw, heq, -⟩ := h.held offset hdue
        · exact .inl hslot
        · cases heq
    · obtain hask | ⟨hdue, hnot⟩ := unanswered_snoc.mp hdue
      · cases x <;> cases hask
      · obtain hslot | ⟨j, raw, heq, -⟩ | ⟨j, p', stored', heq, hp', hmask⟩ := h.back offset hdue
        · exact .inl hslot
        · cases heq
        · cases heq
          rw [hp] at hp'
          cases hp'
          exact absurd ⟨_, by rw [hmask]⟩ hnot

end Senders

end Tracking

section System
variable {θ : Type*} {side : θ → Side} {s : State θ} {tr : List Event} {x : Side}

def Sends (side : θ → Side) (s : State θ) (x : Side) (p : Sending) : Prop :=
  (∃ t, (side t).peer = x ∧ s.senders t = some p) ∨ ∃ i, s.workers x.peer = .resending i p

def Sound (numNodesLg2 : ℕ) (side : θ → Side) (tr : List Event) (s : State θ) : Prop :=
  ∀ x, Delivering numNodesLg2 (s.incoming x) (s.workers x) (Sends side s x) ∧
    Tracked numNodesLg2 x tr (s.incoming x) (s.workers x)

variable [DecidableEq θ]

theorem sends_of_thread {t : θ} {next : Option Sending} (l : Side → Incoming) {q : Sending}
    (h : Sends side { s with incoming := l, senders := Function.update s.senders t next } x q) :
    ((side t).peer = x ∧ next = some q) ∨ Sends side s x q := by
  obtain ⟨u, hu, hq⟩ | hworker := h
  · by_cases hut : u = t
    · subst hut
      exact .inl ⟨hu, by simpa using hq⟩
    · exact .inr (.inl ⟨u, hu, by simpa [Function.update_of_ne hut] using hq⟩)
  · exact .inr (.inr hworker)

theorem thread_sends {t : θ} {next : Option Sending} (l : Side → Incoming) {q : Sending}
    (h : Sends side s x q) :
    ((side t).peer = x ∧ s.senders t = some q) ∨
      Sends side { s with incoming := l, senders := Function.update s.senders t next } x q := by
  obtain ⟨u, hu, hq⟩ | hworker := h
  · by_cases hut : u = t
    · subst hut
      exact .inl ⟨hu, hq⟩
    · exact .inr (.inl ⟨u, hu, by simpa [Function.update_of_ne hut] using hq⟩)
  · exact .inr (.inr hworker)

theorem Sound.sendSignal (h : Sound numNodesLg2 side tr s) {t : θ} {sides : SidesToSignal}
    {offset : UInt32} {s' : State θ} {es : List Event} (hidle : s.senders t = none)
    (hoffset : offset ≠ 0)
    (hs : sendSignal numNodesLg2 side s t sides offset = some (s', es)) :
    Sound numNodesLg2 side (tr ++ es) s' := by
  simp only [SignalTable.sendSignal] at hs
  split at hs
  · obtain ⟨p, hp, heq⟩ := Option.map_eq_some_iff.mp hs
    cases heq
    have hmasked : offset &&& uaddrOffsetMask ≠ 0 := by
      simp only [sendSignalToPeer] at hp
      split at hp
      · cases hp
      · rename_i haligned
        rw [masked_eq (not_not.mp haligned)]
        exact hoffset
    obtain ⟨hvalid, -⟩ := sendSignalToPeer_valid hp hmasked
    intro x
    obtain ⟨hd, ht⟩ := h x
    refine ⟨hd.mono (fun q hq => ?_) (fun q hq => ?_), ht.other ?_⟩
    · obtain ⟨-, hself⟩ | hother := thread_sends s.incoming hq
      · rw [hidle] at hself
        cases hself
      · exact hother
    · obtain ⟨-, hnew⟩ | hold := sends_of_thread s.incoming hq
      · cases hnew
        exact .inr hvalid
      · exact .inl hold
    · rintro posted ⟨roundTrip, heq⟩
      cases heq
  · split at hs <;> cases hs
    · intro x
      obtain ⟨hd, ht⟩ := h x
      refine ⟨hd, ht.other ?_⟩
      rintro posted ⟨roundTrip, heq⟩
      cases heq
    · simpa using h

theorem Tracked.posted_other {w : Worker} {y : Side} (hxy : x ≠ y)
    (h : Tracked numNodesLg2 x tr l w) (p : Sending) (stored : Bool) :
    Tracked numNodesLg2 x (tr ++ postedEvents y p stored) l w := by
  unfold postedEvents
  split
  · split
    · refine h.other ?_
      rintro offset ⟨roundTrip, heq⟩
      exact hxy (Event.posted.inj heq).1.symm
    · rwa [List.append_nil]
  · rwa [List.append_nil]

theorem Sound.sender (h : Sound numNodesLg2 side tr s) {t : θ} {p : Sending}
    (hp : s.senders t = some p) {l' : Incoming} {next : Option Sending} {stored : Bool}
    (hm : p.Moves numNodesLg2 (s.incoming (side t).peer) l' next stored) :
    Sound numNodesLg2 side (tr ++ postedEvents (side t).peer p stored)
      { s with
        incoming := Function.update s.incoming (side t).peer l'
        senders := Function.update s.senders t next } := by
  intro x
  obtain ⟨hd, ht⟩ := h x
  by_cases hx : x = (side t).peer
  · subst hx
    simp only [Function.update_self]
    refine ⟨hd.send hm ?_ ?_ ?_, ht.send hd hm⟩
    · intro q hq
      obtain ⟨-, hself⟩ | hother := thread_sends _ hq
      · rw [hp] at hself
        exact .inl (Option.some.inj hself).symm
      · exact .inr hother
    · intro q hnext
      exact .inl ⟨t, rfl, by simp [hnext]⟩
    · intro q hq
      obtain ⟨-, hnew⟩ | hold := sends_of_thread _ hq
      · exact .inl hnew
      · exact .inr hold
  · simp only [Function.update_of_ne hx]
    refine ⟨hd.mono (fun q hq => ?_) (fun q hq => ?_), ht.posted_other hx p stored⟩
    · obtain ⟨hside, -⟩ | hother := thread_sends _ hq
      · exact absurd hside.symm hx
      · exact hother
    · obtain ⟨hside, -⟩ | hold := sends_of_thread _ hq
      · exact absurd hside.symm hx
      · exact .inl hold

section Workers
variable {y : Side} {w' : Worker}

omit [DecidableEq θ]

theorem sends_of_worker (l : Side → Incoming) {q : Sending}
    (h : Sends side { s with incoming := l, workers := Function.update s.workers x w' } y q) :
    (y = x.peer ∧ ∃ i, w' = .resending i q) ∨ Sends side s y q := by
  obtain hthread | ⟨i, hi⟩ := h
  · exact .inr (.inl hthread)
  · by_cases hyx : y.peer = x
    · subst hyx
      exact .inl ⟨(Side.peer_peer y).symm, i, by simpa using hi⟩
    · exact .inr (.inr ⟨i, by simpa [Function.update_of_ne hyx] using hi⟩)

theorem worker_sends (l : Side → Incoming) {q : Sending} (h : Sends side s y q) :
    (y = x.peer ∧ ∃ i, s.workers x = .resending i q) ∨
      Sends side { s with incoming := l, workers := Function.update s.workers x w' } y q := by
  obtain hthread | ⟨i, hi⟩ := h
  · exact .inr (.inl hthread)
  · by_cases hyx : y.peer = x
    · subst hyx
      exact .inl ⟨(Side.peer_peer y).symm, i, hi⟩
    · exact .inr (.inr ⟨i, by simpa [Function.update_of_ne hyx] using hi⟩)

theorem peer_ne (x : Side) : x.peer ≠ x := by
  cases x <;> simp [Side.peer]

theorem Sound.receive (h : Sound numNodesLg2 side tr s) {l' : Incoming}
    (hw : (s.workers x).Receives numNodesLg2 (s.incoming x) l' w') :
    Sound numNodesLg2 side tr { s with
      incoming := Function.update s.incoming x l'
      workers := Function.update s.workers x w' } := by
  intro y
  obtain ⟨hd, ht⟩ := h y
  have hstays (q : Sending) (hq : Sends side s y q) : Sends side { s with
      incoming := Function.update s.incoming x l'
      workers := Function.update s.workers x w' } y q := by
    obtain ⟨-, i, hi⟩ | hother := worker_sends _ hq
    · exact absurd hi (hw.not_resending i q).1
    · exact hother
  have hold (q : Sending) (hq : Sends side { s with
      incoming := Function.update s.incoming x l'
      workers := Function.update s.workers x w' } y q) : Sends side s y q := by
    obtain ⟨-, i, hi⟩ | hother := sends_of_worker _ hq
    · exact absurd hi (hw.not_resending i q).2
    · exact hother
  by_cases hyx : y = x
  · subst hyx
    simp only [Function.update_self]
    exact ⟨(hd.receive hw).mono hstays fun q hq => .inl (hold q hq), ht.receive hw⟩
  · simp only [Function.update_of_ne hyx]
    exact ⟨hd.mono hstays fun q hq => .inl (hold q hq), ht⟩

theorem Sound.handle (h : Sound numNodesLg2 side tr s) {i : ℕ} {rawOffset : UInt32}
    (hw : s.workers x = .handling i rawOffset) :
    Sound numNodesLg2 side (tr ++ (handle numNodesLg2 s x i rawOffset).2)
      (handle numNodesLg2 s x i rawOffset).1 := by
  have hmasked := (h x).1.handled i rawOffset hw
  have haligned : ¬ (rawOffset &&& uaddrOffsetMask &&& ~~~uaddrOffsetMask ≠ 0) := by
    rw [UInt32.and_assoc, UInt32.and_not_self, UInt32.and_zero]
    exact not_not.mpr rfl
  -- the worker either goes on scanning or starts to send the offset back
  obtain ⟨w', hnext, hs'⟩ : ∃ w', (w' = .scanning (i + 1) ∧
        rawOffset &&& uaddrOffsetRoundTripFlag = 0 ∨ ∃ p, w' = .resending i p ∧
        p.Valid numNodesLg2 ∧ ∃ stored, p.offset? = some stored ∧
          stored &&& uaddrOffsetMask = rawOffset &&& uaddrOffsetMask) ∧
      SignalTable.handle numNodesLg2 s x i rawOffset =
        ({ s with workers := Function.update s.workers x w' },
          [.woken x (rawOffset &&& uaddrOffsetMask)]) := by
    simp only [SignalTable.handle]
    by_cases hflag : rawOffset &&& uaddrOffsetRoundTripFlag ≠ 0
    · obtain ⟨p, hp⟩ : ∃ p, sendSignalToPeer numNodesLg2 (rawOffset &&& uaddrOffsetMask) false =
          some p := by
        simp only [sendSignalToPeer, if_neg haligned]
        exact ⟨_, rfl⟩
      have hback := sendSignalToPeer_valid hp (by rwa [masked_masked])
      rw [masked_masked] at hback
      rw [if_pos hflag, hp]
      exact ⟨_, .inr ⟨p, rfl, hback⟩, rfl⟩
    · rw [if_neg hflag]
      exact ⟨_, .inl ⟨rfl, not_not.mp hflag⟩, rfl⟩
  rw [hs']
  intro y
  obtain ⟨hd, ht⟩ := h y
  have hstays (q : Sending) (hq : Sends side s y q) :
      Sends side { s with workers := Function.update s.workers x w' } y q := by
    obtain ⟨-, j, hj⟩ | hother := worker_sends s.incoming hq
    · rw [hw] at hj
      cases hj
    · exact hother
  have hnew (q : Sending)
      (hq : Sends side { s with workers := Function.update s.workers x w' } y q) :
      Sends side s y q ∨ q.Valid numNodesLg2 := by
    obtain ⟨-, j, hj⟩ | hold := sends_of_worker s.incoming hq
    · obtain ⟨hscan, -⟩ | ⟨p, hp, hvalid, -⟩ := hnext
      · rw [hscan] at hj
        cases hj
      · rw [hp] at hj
        cases hj
        exact .inr hvalid
    · exact .inl hold
  by_cases hyx : y = x
  · subst hyx
    simp only [Function.update_self]
    refine ⟨?_, ?_⟩
    · refine (hd.pass ?_ ?_ ?_).mono hstays hnew
      · intro j hj
        rw [hw] at hj
        obtain ⟨rfl, -⟩ | ⟨p, rfl, -⟩ := hnext
        · exact hj
        · exact hj
      · obtain ⟨rfl, -⟩ | ⟨p, rfl, -⟩ := hnext <;> simp
      · obtain ⟨rfl, -⟩ | ⟨p, rfl, -⟩ := hnext <;> simp
    · rw [hw] at ht
      refine ht.handle fun hflag => ?_
      obtain ⟨-, hnone⟩ | ⟨p, hp, -, stored, hstored, hmask⟩ := hnext
      · exact absurd hnone hflag
      · exact ⟨p, stored, hp, hstored, hmask⟩
  · simp only [Function.update_of_ne hyx]
    refine ⟨hd.mono hstays hnew, ht.other ?_⟩
    rintro offset ⟨roundTrip, heq⟩
    cases heq

theorem afterResend_eq_resending {i j : ℕ} {next : Option Sending} {q : Sending}
    (h : afterResend i next = .resending j q) : next = some q := by
  cases next with
  | some p => exact congrArg some (Worker.resending.inj h).2
  | none => cases h

theorem Sound.resend (h : Sound numNodesLg2 side tr s) {i : ℕ} {p : Sending}
    (hw : s.workers x = .resending i p) :
    Sound numNodesLg2 side (tr ++ (resend numNodesLg2 s x i p).2)
      (resend numNodesLg2 s x i p).1 := by
  have hsends : Sends side s x.peer p := .inr ⟨i, by rw [Side.peer_peer, hw]⟩
  have hm := Sending.moves (l := s.incoming x.peer) ((h x.peer).1.valid p hsends)
  simp only [SignalTable.resend]
  generalize p.step numNodesLg2 (s.incoming x.peer) = r at hm
  intro y
  obtain ⟨hd, ht⟩ := h y
  by_cases hyx : y = x
  · subst hyx
    rw [hw] at ht
    simp only [Function.update_self, Function.update_of_ne (peer_ne y).symm]
    refine ⟨(hd.pass ?_ ?_ ?_).mono (fun q hq => ?_) (fun q hq => ?_), ht.resend hm⟩
    · intro j hj
      rw [hw] at hj
      cases r.2.1 <;> exact hj
    · cases r.2.1 <;> simp [afterResend]
    · cases r.2.1 <;> simp [afterResend]
    · obtain ⟨hpeer, -⟩ | hother := worker_sends _ hq
      · exact absurd hpeer.symm (peer_ne y)
      · exact hother
    · obtain ⟨hpeer, -⟩ | hold := sends_of_worker _ hq
      · exact absurd hpeer.symm (peer_ne y)
      · exact .inl hold
  · obtain rfl := Side.eq_peer hyx
    simp only [Function.update_self, Function.update_of_ne (peer_ne x)]
    refine ⟨hd.send hm (fun q hq => ?_) (fun q hnext => ?_) (fun q hq => ?_), ht.send hd hm⟩
    · obtain ⟨-, j, hj⟩ | hother := worker_sends _ hq
      · rw [hw] at hj
        exact .inl (Worker.resending.inj hj).2.symm
      · exact .inr hother
    · refine .inr ⟨i, ?_⟩
      simp only [Side.peer_peer, Function.update_self, hnext, afterResend]
    · obtain ⟨-, j, hj⟩ | hold := sends_of_worker _ hq
      · exact .inl (afterResend_eq_resending hj)
      · exact .inr hold

theorem Sound.work (h : Sound numNodesLg2 side tr s) (x : Side) :
    Sound numNodesLg2 side (tr ++ (work numNodesLg2 s x).2) (work numNodesLg2 s x).1 := by
  simp only [SignalTable.work]
  split
  · rename_i hw
    split
    · rename_i hflag
      rw [List.append_nil]
      exact h.receive (hw ▸ .starts hflag)
    · rename_i hflag
      rw [List.append_nil]
      exact h.receive (hw ▸ .sleeps (Bool.eq_false_iff.mpr hflag))
  · rename_i hw
    split
    · rw [List.append_nil]
      exact h.receive (hw ▸ .wakes)
    · rwa [List.append_nil]
  · rename_i i hw
    split
    · rename_i hi
      split
      · rename_i hfree
        rw [List.append_nil]
        exact h.receive (hw ▸ .skips hfree)
      · rename_i hslot
        rw [List.append_nil]
        exact h.receive (hw ▸ .takes hi hslot)
    · rename_i hend
      rw [List.append_nil]
      exact h.receive (hw ▸ .ends hend)
  · exact h.handle ‹_›
  · exact h.resend ‹_›

end Workers

theorem Sound.step (h : Sound numNodesLg2 side tr s) {i : Input θ} {s' : State θ}
    {es : List Event} (hok : InRegion s i) (hs : step numNodesLg2 side s i = some (s', es)) :
    Sound numNodesLg2 side (tr ++ es) s' := by
  cases i with
  | sendSignal t sides offset =>
    simp only [SignalTable.step] at hs
    split at hs
    · exact h.sendSignal ‹_› hok hs
    · cases hs
  | sender t =>
    simp only [SignalTable.step] at hs
    split at hs
    · cases hs
    · rename_i p hp
      cases hs
      exact h.sender hp (Sending.moves ((h _).1.valid p (.inl ⟨t, rfl, hp⟩)))
  | worker x =>
    simp only [SignalTable.step, Option.some.injEq] at hs
    obtain ⟨rfl, rfl⟩ := Prod.ext_iff.mp hs
    exact h.work x

omit [DecidableEq θ] in
theorem sound_init : Sound numNodesLg2 side [] ({} : State θ) := by
  intro x
  constructor
  · refine ⟨?_, fun i _ hslot => absurd rfl hslot, by simp, fun i _ hslot => absurd rfl hslot,
      by simp⟩
    intro p hp
    obtain ⟨t, -, ht⟩ | ⟨i, hi⟩ := hp
    · cases ht
    · cases hi
  · exact ⟨fun _ h => absurd h (unanswered_nil _ _), fun _ h => absurd h (unanswered_nil _ _)⟩

def Requested (side : θ → Side) (tr : List Event) (s : State θ) : Prop :=
  ∀ x offset roundTrip,
    Unanswered (· = .called x offset roundTrip) (· = .posted x offset roundTrip) tr →
    ∃ p, Sends side s x p ∧ postedEvents x p true = [.posted x offset roundTrip]

theorem postedEvents_ne_nil {y : Side} {p : Sending} {es : List Event} {e : Event}
    (h : postedEvents y p true = e :: es) : ∃ offset, p.offset? = some offset := by
  unfold postedEvents at h
  cases hp : p.offset? with
  | none =>
    rw [hp] at h
    cases h
  | some offset => exact ⟨offset, rfl⟩

omit [DecidableEq θ] in
theorem Requested.keep (h : Requested side tr s) {s' : State θ} {es : List Event}
    (hcalled : ∀ x offset roundTrip, .called x offset roundTrip ∉ es)
    (hstays : ∀ x p, Sends side s x p → Sends side s' x p ∨ p.offset? = none ∨
      es = postedEvents x p true ∨ ∃ q, Sends side s' x q ∧ q.offset? = p.offset?) :
    Requested side (tr ++ es) s' := by
  intro x offset roundTrip hdue
  have hnot (e : Event) (he : e ∈ es) : ¬ e = .called x offset roundTrip := by
    rintro rfl
    exact hcalled x offset roundTrip he
  obtain ⟨hdue, hposted⟩ := unanswered_of_append hdue hnot
  obtain ⟨p, hp, hevents⟩ := h x offset roundTrip hdue
  obtain ⟨stored, hstored⟩ := postedEvents_ne_nil hevents
  obtain hsame | hnone | rfl | ⟨q, hq, hoffset⟩ := hstays x p hp
  · exact ⟨p, hsame, hevents⟩
  · rw [hnone] at hstored
    cases hstored
  · exact absurd rfl (hposted _ (by rw [hevents]; exact List.mem_singleton_self _))
  · refine ⟨q, hq, ?_⟩
    unfold postedEvents at hevents ⊢
    rwa [hoffset]

theorem called_not_posted (x y : Side) (p : Sending) (stored : Bool) (offset : UInt32)
    (roundTrip : Bool) : .called x offset roundTrip ∉ postedEvents y p stored := by
  unfold postedEvents
  split
  · split <;> simp
  · simp

theorem Sending.Moves.stays_or_posts {p : Sending} {l l' : Incoming} {next : Option Sending}
    {stored : Bool} (hm : p.Moves numNodesLg2 l l' next stored) (x : Side) :
    p.offset? = none ∨ postedEvents x p stored = postedEvents x p true ∨
      ∃ q, next = some q ∧ q.offset? = p.offset? := by
  cases stored with
  | true => exact .inr (.inl rfl)
  | false =>
    cases hp : p.offset? with
    | none => exact .inl rfl
    | some offset =>
      obtain ⟨q, hnext, hq⟩ := hm.not_stored hp
      exact .inr (.inr ⟨q, hnext, hq⟩)

theorem Requested.call (h : Requested side tr s) {t : θ} {offset : UInt32} {roundTrip : Bool}
    {p : Sending} (hidle : s.senders t = none)
    (hp : sendSignalToPeer numNodesLg2 offset roundTrip = some p) :
    Requested side (tr ++ [.called (side t).peer offset roundTrip])
      { s with senders := Function.update s.senders t (some p) } := by
  intro x off rt hdue
  obtain hask | ⟨hdue, -⟩ := unanswered_snoc.mp hdue
  · cases hask
    refine ⟨p, .inl ⟨t, rfl, by simp⟩, ?_⟩
    simp only [sendSignalToPeer] at hp
    split at hp
    · cases hp
    · rename_i haligned
      have hmask := masked_eq (not_not.mp haligned)
      have hflag : offset &&& uaddrOffsetRoundTripFlag = 0 := by
        have hoff : uaddrOffsetMask &&& uaddrOffsetRoundTripFlag = 0 := by decide
        rw [← hmask, UInt32.and_assoc, hoff, UInt32.and_zero]
      cases hp
      rw [postedEvents_true _ rfl]
      cases roundTrip with
      | true =>
        have hset : (offset ||| uaddrOffsetRoundTripFlag) &&& uaddrOffsetRoundTripFlag ≠ 0 := by
          rw [or_and, hflag, UInt32.zero_or]
          decide
        simp [masked_or_flag, hmask, hset]
      | false => simp [hmask, hflag]
  · obtain ⟨q, hq, hevents⟩ := h x off rt hdue
    refine ⟨q, ?_, hevents⟩
    obtain ⟨-, hself⟩ | hother := thread_sends s.incoming hq
    · rw [hidle] at hself
      cases hself
    · exact hother

theorem Requested.sender (h : Requested side tr s) {t : θ} {p : Sending}
    (hp : s.senders t = some p) {l' : Incoming} {next : Option Sending} {stored : Bool}
    (hm : p.Moves numNodesLg2 (s.incoming (side t).peer) l' next stored) :
    Requested side (tr ++ postedEvents (side t).peer p stored)
      { s with
        incoming := Function.update s.incoming (side t).peer l'
        senders := Function.update s.senders t next } := by
  apply h.keep (fun x offset roundTrip => called_not_posted x _ p stored offset roundTrip)
  intro x q hq
  obtain ⟨hside, hself⟩ | hother := thread_sends _ hq
  · rw [hp] at hself
    cases hself
    obtain hnone | hposts | ⟨q, hnext, hoffset⟩ := hm.stays_or_posts x
    · exact .inr (.inl hnone)
    · exact .inr (.inr (.inl (hside ▸ hposts)))
    · exact .inr (.inr (.inr ⟨q, .inl ⟨t, hside, by simp [hnext]⟩, hoffset⟩))
  · exact .inl hother

omit [DecidableEq θ] in
theorem Requested.worker (h : Requested side tr s) {x : Side} {w' : Worker} {es : List Event}
    (l : Side → Incoming) (hcalled : ∀ y offset roundTrip, .called y offset roundTrip ∉ es)
    (hresending : ∀ i p, s.workers x = .resending i p → p.offset? = none ∨
      es = postedEvents x.peer p true ∨ ∃ j q, w' = .resending j q ∧ q.offset? = p.offset?) :
    Requested side (tr ++ es)
      { s with incoming := l, workers := Function.update s.workers x w' } := by
  apply h.keep hcalled
  intro y p hp
  obtain ⟨rfl, i, hi⟩ | hother := worker_sends (x := x) l hp
  · obtain hnone | hposts | ⟨j, q, hq, hoffset⟩ := hresending i p hi
    · exact .inr (.inl hnone)
    · exact .inr (.inr (.inl hposts))
    · exact .inr (.inr (.inr ⟨q, .inr ⟨j, by simp [hq]⟩, hoffset⟩))
  · exact .inl hother

omit [DecidableEq θ] in
theorem Requested.work (hsound : Sound numNodesLg2 side tr s) (h : Requested side tr s)
    (x : Side) :
    Requested side (tr ++ (work numNodesLg2 s x).2) (work numNodesLg2 s x).1 := by
  simp only [SignalTable.work]
  split
  · rename_i hw
    split <;> exact h.worker _ (by simp) (by simp [hw])
  · rename_i hw
    split
    · exact h.worker _ (by simp) (by simp [hw])
    · rwa [List.append_nil]
  · rename_i i hw
    split
    · split <;> exact h.worker _ (by simp) (by simp [hw])
    · exact h.worker _ (by simp) (by simp [hw])
  · rename_i i rawOffset hw
    exact h.worker s.incoming (by simp [SignalTable.handle]) (by simp [hw])
  · rename_i i p hw
    have hsends : Sends side s x.peer p := .inr ⟨i, by rw [Side.peer_peer, hw]⟩
    have hm := Sending.moves (l := s.incoming x.peer) ((hsound x.peer).1.valid p hsends)
    apply h.worker _ (fun y offset roundTrip => called_not_posted y _ p _ offset roundTrip)
    intro j q hq
    rw [hw] at hq
    cases hq
    obtain hnone | hposts | ⟨q, hnext, hoffset⟩ := hm.stays_or_posts x.peer
    · exact .inl hnone
    · exact .inr (.inl hposts)
    · exact .inr (.inr ⟨i, q, by rw [hnext, afterResend], hoffset⟩)

theorem Requested.step (hsound : Sound numNodesLg2 side tr s) (h : Requested side tr s)
    {i : Input θ} {s' : State θ} {es : List Event}
    (hs : step numNodesLg2 side s i = some (s', es)) : Requested side (tr ++ es) s' := by
  cases i with
  | sendSignal t sides offset =>
    simp only [SignalTable.step] at hs
    split at hs
    · rename_i hidle
      simp only [SignalTable.sendSignal] at hs
      split at hs
      · obtain ⟨p, hp, heq⟩ := Option.map_eq_some_iff.mp hs
        cases heq
        exact h.call hidle hp
      · split at hs <;> cases hs
        · exact h.keep (by simp) fun x p hp => .inl hp
        · exact h.keep (by simp) fun x p hp => .inl hp
    · cases hs
  | sender t =>
    simp only [SignalTable.step] at hs
    split at hs
    · cases hs
    · rename_i p hp
      cases hs
      exact h.sender hp (Sending.moves ((hsound _).1.valid p (.inl ⟨t, rfl, hp⟩)))
  | worker x =>
    simp only [SignalTable.step, Option.some.injEq] at hs
    obtain ⟨rfl, rfl⟩ := Prod.ext_iff.mp hs
    exact h.work hsound x

/-- No thread is in `SendSignalToPeer`, and the workers sleep with no interrupt on its way. -/
def Quiet (s : State θ) : Prop :=
  (∀ t, s.senders t = none) ∧ ∀ x, s.workers x = .blocked ∧ (s.incoming x).interrupt = false

omit [DecidableEq θ] in
theorem Quiet.not_sends (h : Quiet s) (x : Side) (p : Sending) : ¬ Sends side s x p := by
  intro hp
  obtain ⟨t, -, ht⟩ | ⟨i, hi⟩ := hp
  · rw [h.1 t] at ht
    cases ht
  · rw [(h.2 _).1] at hi
    cases hi

omit [DecidableEq θ] in
theorem Sound.table_empty (h : Sound numNodesLg2 side tr s) (hquiet : Quiet s) (x : Side) {i : ℕ}
    (hi : i < 2 ^ numNodesLg2) : (s.incoming x).offsets i = 0 := by
  by_contra hslot
  obtain ⟨hworker, hinterrupt⟩ := hquiet.2 x
  obtain ⟨hd, -⟩ := h x
  obtain hflag | hsender | hahead := hd.reach i hi hslot
  · obtain hraised | hsender := hd.wake hworker hflag
    · rw [hinterrupt] at hraised
      cases hraised
    · exact hquiet.not_sends x _ hsender
  · exact hquiet.not_sends x _ hsender
  · rw [hworker] at hahead
    exact hahead

omit [DecidableEq θ] in
theorem Sound.posted_is_woken (hsound : Sound numNodesLg2 side tr s) (hquiet : Quiet s)
    {pre post : List Event} {offset : UInt32} {roundTrip : Bool}
    (htr : tr = pre ++ .posted x offset roundTrip :: post) :
    .woken x offset ∈ post ∧ (roundTrip → .woken x.peer offset ∈ post) := by
  have hanswered (y : Side) {pre post : List Event} {rt : Bool}
      (htr : tr = pre ++ .posted y offset rt :: post) : .woken y offset ∈ post := by
    have hnone : ¬ Unanswered (Event.Posts y offset) (· = .woken y offset)
        (pre ++ .posted y offset rt :: post) := by
      rw [← htr]
      intro hdue
      obtain ⟨i, hi, hslot, -⟩ | ⟨i, rawOffset, heq, -⟩ := (hsound y).2.held offset hdue
      · exact hslot (hsound.table_empty hquiet y hi)
      · rw [(hquiet.2 y).1] at heq
        cases heq
    obtain ⟨e, he, rfl⟩ := answered_of_not hnone ⟨rt, rfl⟩
    exact he
  refine ⟨hanswered x htr, ?_⟩
  rintro rfl
  have hback : ¬ Unanswered (· = .posted x offset true) (Event.Posts x.peer offset)
      (pre ++ .posted x offset true :: post) := by
    rw [← htr]
    intro hdue
    obtain ⟨i, hi, hflag, -⟩ | ⟨i, rawOffset, heq, -⟩ | ⟨i, p, stored, heq, -⟩ :=
      (hsound x).2.back offset hdue
    · rw [hsound.table_empty hquiet x hi] at hflag
      exact hflag UInt32.zero_and
    · rw [(hquiet.2 x).1] at heq
      cases heq
    · rw [(hquiet.2 x).1] at heq
      cases heq
  obtain ⟨e, he, rt, rfl⟩ := answered_of_not hback rfl
  obtain ⟨front, back, rfl⟩ := List.append_of_mem he
  have hlater : tr = (pre ++ .posted x offset true :: front) ++
      .posted x.peer offset rt :: back := by
    rw [htr]
    simp
  exact List.mem_append_right _ (List.mem_cons_of_mem _ (hanswered x.peer hlater))

/-- Once everything is quiet, every offset that a thread asked to have signalled has been
signalled since on the other side, and on its own side too if it asked for both. -/
theorem signal_is_delivered (run : (machine numNodesLg2 side).Run InRegion {} tr s)
    (hquiet : Quiet s) {pre post : List Event} {offset : UInt32} {ourSide : Bool}
    (htr : tr = pre ++ .called x offset ourSide :: post) :
    .woken x offset ∈ post ∧ (ourSide → .woken x.peer offset ∈ post) := by
  have hboth : Sound numNodesLg2 side tr s ∧ Requested side tr s := by
    apply run.invariant (P := fun tr s => Sound numNodesLg2 side tr s ∧ Requested side tr s)
    · exact ⟨sound_init, fun _ _ _ h => absurd h (unanswered_nil _ _)⟩
    · intro tr es s s' i h hok hs
      exact ⟨h.1.step hok hs, h.2.step h.1 hs⟩
  obtain ⟨hsound, hrequested⟩ := hboth
  have hposted : ¬ Unanswered (· = .called x offset ourSide) (· = .posted x offset ourSide)
      (pre ++ .called x offset ourSide :: post) := by
    rw [← htr]
    intro hdue
    obtain ⟨p, hp, -⟩ := hrequested x offset ourSide hdue
    exact hquiet.not_sends x p hp
  obtain ⟨e, he, rfl⟩ := answered_of_not hposted rfl
  obtain ⟨front, back, rfl⟩ := List.append_of_mem he
  have hlater : tr = (pre ++ .called x offset ourSide :: front) ++
      .posted x offset ourSide :: back := by
    rw [htr]
    simp
  obtain ⟨hthere, hhere⟩ := hsound.posted_is_woken hquiet hlater
  refine ⟨List.mem_append_right _ (List.mem_cons_of_mem _ hthere), fun hround => ?_⟩
  exact List.mem_append_right _ (List.mem_cons_of_mem _ (hhere hround))

theorem signal_is_delivered_to_both :
    ∃ tr s, (machine 1 fun _ : Unit => Side.guest).Run InRegion {} tr s ∧
      .woken .host 8 ∈ tr ∧ .woken .guest 8 ∈ tr := by
  obtain ⟨tr, s, run, hquiet, htr⟩ := Machine.run_of_exec
    (machine 1 fun _ : Unit => Side.guest) InRegion {}
    (Input.sendSignal () ⟨true, true⟩ 8 :: List.replicate 3 (.sender ()) ++
      List.replicate 11 (.worker .host) ++ List.replicate 8 (.worker .guest))
    (fun s tr => (s.senders () = none ∧
        (s.workers .guest = .blocked ∧ (s.incoming .guest).interrupt = false) ∧
        s.workers .host = .blocked ∧ (s.incoming .host).interrupt = false) ∧
      tr = .called .host 8 true :: tr.tail)
    (by decide +kernel)
  obtain ⟨hsenders, hguest, hhost⟩ := hquiet
  have hfront : tr = [] ++ .called .host 8 true :: tr.tail := htr
  have hdelivered := signal_is_delivered run
    ⟨fun _ => hsenders, fun x => by cases x; exacts [hguest, hhost]⟩ hfront
  exact ⟨tr, s, run, List.mem_of_mem_tail hdelivered.1, List.mem_of_mem_tail (hdelivered.2 rfl)⟩

end System

end SignalTable

end Rpi3Device.Vsoc
