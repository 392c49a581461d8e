import Rpi3Device.Vsoc.SignalTable

/-!
# Sockets forwarded across the shared memory window

A process on each side forwards sockets over sixteen pairs of packet queues. The host takes a
pair that is inactive for a new connection, counts it in `seq_num` and signals the guest, which
looks for a pair that the host has connected. Each side then has a sender, which copies its
socket into one queue of the pair, and a receiver, which copies the other queue into its socket;
each closes its end of its queue when it is done. A process that starts closes the ends which
its predecessor left open.

Every section under `queue_state_lock_` is one step here, and so is every write and every read
of a packet queue; a write that finds no room is a step that comes later. A process dies between
two steps, and no lock is taken between two. The number of the connection that has a pair is not
in the code: it counts the connections that the host opened.
-/

namespace Rpi3Device.Vsoc.SocketForward
open TransitionSystem

def kNumQueues : ℕ := 16
def kMaxPacketSize : ℕ := 8192
def sizeofHeader : ℕ := 12
def kMaxPayloadSize : ℕ := kMaxPacketSize - sizeofHeader

inductive MessageType where
  | DATA
  | BEGIN
  | END
  deriving DecidableEq

structure Packet where
  messageType : MessageType
  generation : UInt32 := 0
  payload : List UInt8 := []
  deriving DecidableEq

def Packet.makeBegin (generation : UInt32) : Packet := ⟨.BEGIN, generation, []⟩
def Packet.makeEnd (generation : UInt32) : Packet := ⟨.END, generation, []⟩
def Packet.makeData (payload : List UInt8) : Packet := ⟨.DATA, 0, payload⟩

/-- No check of `Send` or `Recv` is against the packet: it is no empty data and not too long. -/
def Packet.Sendable (p : Packet) : Prop :=
  ¬ (p.messageType = .DATA ∧ p.payload = []) ∧ p.payload.length ≤ kMaxPayloadSize

instance (p : Packet) : Decidable p.Sendable := inferInstanceAs (Decidable (_ ∧ _))

inductive QueueState where
  | inactive
  | hostConnected
  | bothConnected
  | hostClosed
  | guestClosed
  deriving DecidableEq

def otherSideClosed : Side → QueueState
  | .host => .guestClosed
  | .guest => .hostClosed

def thisSideClosed (x : Side) : QueueState := otherSideClosed x.peer

def QueueState.markDisconnected (q : QueueState) (x : Side) : QueueState :=
  if q = otherSideClosed x then .inactive else thisSideClosed x

def QueueState.reset (q : QueueState) (x : Side) : QueueState :=
  if q = .hostConnected ∨ q = otherSideClosed x then .inactive
  else if q = .bothConnected then thisSideClosed x
  else q

structure Queue where
  packets : List Packet := []
  queueState : QueueState := .inactive

/-- The queue of each side is the one it writes. -/
structure QueuePair where
  queue : Side → Queue := fun _ => {}
  port : UInt32 := 0
  owner : ℕ := 0

def QueuePair.mapState (pair : QueuePair) (f : Side → QueueState → QueueState) : QueuePair :=
  { pair with queue := fun d => { pair.queue d with queueState := f d (pair.queue d).queueState } }

def QueuePair.setPackets (pair : QueuePair) (d : Side) (packets : List Packet) : QueuePair :=
  { pair with queue := Function.update pair.queue d { pair.queue d with packets } }

inductive SenderPc where
  | reading
  | checking (p : Packet)
  | writing (p : Packet)
  | built
  | idle
  | closing
  | marking
  | gone
  deriving DecidableEq

inductive ReceiverPc where
  | waiting
  | skipping
  | receiving
  | closing
  | marking
  | gone
  deriving DecidableEq

structure Connection where
  id : ℕ
  generation : UInt32 := 0
  sender : SenderPc := .reading
  receiver : ReceiverPc := .waiting

inductive CleanUp where
  | looking (i : ℕ)
  | checking (i : ℕ) (last : Bool)
  | writing (i : ℕ) (last : Bool)
  | resetting (i : ℕ)
  deriving DecidableEq

inductive Process where
  | starting
  | cleaning (generation : UInt32) (pc : CleanUp)
  | running
  | aborted
  deriving DecidableEq

inductive Opener where
  | idle
  | scanning (i : ℕ) (port : UInt32)
  | building (c : ℕ)

inductive Acceptor where
  | awaiting
  | scanning (i : ℕ)
  | building (c : ℕ)
  deriving DecidableEq

inductive Event where
  | opened (c : ℕ) (port : UInt32)
  | accepted (c : ℕ) (port : UInt32)
  | wrote (x : Side) (c : ℕ) (p : Packet)
  | received (x : Side) (c : ℕ) (p : Packet)
  | failed (x : Side)
  deriving DecidableEq

structure State (θ : Type*) where
  queues : ℕ → QueuePair := fun _ => {}
  seqNum : UInt32 := 0
  generationNum : UInt32 := 0
  serial : ℕ := 0
  process : Side → Process := fun _ => .starting
  openers : θ → Opener := fun _ => .idle
  acceptor : Acceptor := .awaiting
  lastSeqNumber : UInt32 := 0
  connections : Side → ℕ → Option Connection := fun _ _ => none

inductive Input (θ : Type*) where
  | restart (x : Side)
  | cleanUp (x : Side)
  | openConnection (t : θ) (port : UInt32)
  | opener (t : θ)
  | acceptor
  | sender (x : Side) (c : ℕ) (data : List UInt8)
  | receiver (x : Side) (c : ℕ) (socketOk : Bool)

section Steps
variable {θ : Type*}

def State.setPair (s : State θ) (i : ℕ) (pair : QueuePair) : State θ :=
  { s with queues := Function.update s.queues i pair }

def State.setConnection (s : State θ) (x : Side) (c : ℕ) (k : Connection) : State θ :=
  { s with
    connections := Function.update s.connections x
      (Function.update (s.connections x) c (some k)) }

def State.setProcess (s : State θ) (x : Side) (p : Process) : State θ :=
  { s with process := Function.update s.process x p }

def State.setPackets (s : State θ) (i : ℕ) (d : Side) (packets : List Packet) : State θ :=
  s.setPair i ((s.queues i).setPackets d packets)

def State.mapState (s : State θ) (i : ℕ) (f : Side → QueueState → QueueState) : State θ :=
  s.setPair i ((s.queues i).mapState f)

def State.packets (s : State θ) (i : ℕ) (d : Side) : List Packet := ((s.queues i).queue d).packets

def State.owner (s : State θ) (i : ℕ) : ℕ := (s.queues i).owner

def State.port (s : State θ) (i : ℕ) : UInt32 := (s.queues i).port

def State.queueState (s : State θ) (i : ℕ) (d : Side) : QueueState :=
  ((s.queues i).queue d).queueState

def State.mark (s : State θ) (i : ℕ) (d x : Side) : State θ :=
  s.mapState i fun d' q => if d' = d then q.markDisconnected x else q

def State.fail (s : State θ) (x : Side) : State θ × List Event :=
  (s.setProcess x .aborted, [.failed x])

/-- `none` when a check of `Send` fails; otherwise whether the packet is to be written. -/
def sendCheck (q : QueueState) (x : Side) (p : Packet) : Option Bool :=
  if ¬ p.Sendable then none
  else if q = otherSideClosed x then some false
  else if q = .inactive then none
  else some true

def afterSend (generation : UInt32) (p : Packet) (sent : Bool) : SenderPc :=
  match p.messageType with
  | .BEGIN => .built
  | .DATA => if sent then .idle else .checking (.makeEnd generation)
  | .END => .closing

def State.send (s : State θ) (x : Side) (c : ℕ) (k : Connection) (data : List UInt8) :
    Option (State θ × List Event) :=
  let go (pc : SenderPc) : State θ := s.setConnection x c { k with sender := pc }
  match k.sender with
  | .reading =>
    some (s.setConnection x c { k with
      generation := s.generationNum, sender := .checking (.makeBegin s.generationNum) }, [])
  | .checking p =>
    match sendCheck (s.queueState k.id x) x p with
    | none => some (s.fail x)
    | some true => some (go (.writing p), [])
    | some false => some (go (afterSend k.generation p false), [])
  | .writing p =>
    some ((go (afterSend k.generation p true)).setPackets k.id x (s.packets k.id x ++ [p]),
      [.wrote x c p])
  | .idle =>
    if data.length ≤ kMaxPayloadSize then
      some (go (.checking (if data = [] then .makeEnd k.generation else .makeData data)), [])
    else none
  | .closing =>
    if x = .host ∧ s.queueState k.id x = .hostConnected then some (go .closing, [])
    else some (go .marking, [])
  | .marking => some ((go .gone).mark k.id x x, [])
  | .built | .gone => none

def State.receive (s : State θ) (x : Side) (c : ℕ) (k : Connection) (socketOk : Bool) :
    Option (State θ × List Event) :=
  let go (pc : ReceiverPc) : State θ := s.setConnection x c { k with receiver := pc }
  match k.receiver with
  | .skipping =>
    match s.packets k.id x.peer with
    | [] => none
    | p :: rest =>
      let again := p.messageType ≠ .BEGIN ∨ p.generation < k.generation
      some ((go (if again then .skipping else .receiving)).setPackets k.id x.peer rest, [])
  | .receiving =>
    match s.packets k.id x.peer with
    | [] => none
    | p :: rest =>
      if p.messageType = .BEGIN then
        some ((go .receiving).setPackets k.id x.peer rest, [])
      else if ¬ p.Sendable then some ((s.setPackets k.id x.peer rest).fail x)
      else
        let more := p.messageType ≠ .END ∧ socketOk
        some ((go (if more then .receiving else .closing)).setPackets k.id x.peer rest,
          [.received x c p])
  | .closing =>
    if x = .host ∧ s.queueState k.id x.peer = .hostConnected then some (go .closing, [])
    else some (go .marking, [])
  | .marking => some ((go .gone).mark k.id x.peer x, [])
  | .waiting | .gone => none

def State.launch (s : State θ) (x : Side) (c : ℕ) : Option (State θ) :=
  match s.connections x c with
  | some k =>
    if k.sender = .built ∧ k.receiver = .waiting then
      some (s.setConnection x c { k with sender := .idle, receiver := .skipping })
    else none
  | none => none

def State.acquire (s : State θ) (i : ℕ) (port : UInt32) : State θ :=
  { (s.setConnection .host (s.serial + 1) { id := i }).setPair i
      { ((s.queues i).mapState fun _ _ => .hostConnected) with port, owner := s.serial + 1 } with
    seqNum := s.seqNum + 1
    serial := s.serial + 1 }

def State.join (s : State θ) (i : ℕ) : State θ :=
  (s.setConnection .guest (s.owner i) { id := i }).mapState i fun _ _ => .bothConnected

def State.stepCleanUp (s : State θ) (x : Side) : Option (State θ × List Event) :=
  let go (g : UInt32) (pc : CleanUp) : State θ := s.setProcess x (.cleaning g pc)
  let after (i : ℕ) (last : Bool) : CleanUp := if last then .resetting i else .checking i true
  match s.process x with
  | .starting => some (go s.generationNum (.looking 0), [])
  | .cleaning g (.looking i) =>
    if i < kNumQueues then
      let q := s.queueState i x
      if x = .guest ∧ q = .hostConnected then
        some ((go g (.checking i false)).mapState i fun _ _ => .bothConnected, [])
      else if q = .bothConnected ∨ q = .hostConnected then some (go g (.checking i false), [])
      else some (go g (.resetting i), [])
    else some ({ s.setProcess x .running with generationNum := s.generationNum + 1 }, [])
  | .cleaning g (.checking i last) =>
    match sendCheck (s.queueState i x) x (if last then .makeEnd g else .makeBegin g) with
    | none => some (s.fail x)
    | some true => some (go g (.writing i last), [])
    | some false => some (go g (after i last), [])
  | .cleaning g (.writing i last) =>
    let p : Packet := if last then .makeEnd g else .makeBegin g
    some ((go g (after i last)).setPackets i x (s.packets i x ++ [p]), [])
  | .cleaning g (.resetting i) =>
    some ((go g (.looking (i + 1))).mapState i fun _ q => q.reset x, [])
  | .running | .aborted => none

def State.restart [DecidableEq θ] (s : State θ) (x : Side) : State θ :=
  { s.setProcess x .starting with
    connections := Function.update s.connections x fun _ => none
    openers := if x = .host then fun _ => .idle else s.openers
    acceptor := if x = .guest then .awaiting else s.acceptor
    lastSeqNumber := if x = .guest then 0 else s.lastSeqNumber }

def State.stepAcceptor (s : State θ) : Option (State θ × List Event) :=
  match s.acceptor with
  | .awaiting =>
    if s.seqNum = s.lastSeqNumber then some (s, [])
    else some ({ s with lastSeqNumber := s.lastSeqNumber + 1, acceptor := .scanning 0 }, [])
  | .scanning i =>
    if i < kNumQueues then
      if s.queueState i .host = .hostConnected then
        if s.queueState i .guest = .hostConnected then
          some ({ s.join i with acceptor := .building (s.owner i) }, [])
        else some (s.fail .guest)
      else some ({ s with acceptor := .scanning (i + 1) }, [])
    else some ({ s with acceptor := .awaiting }, [])
  | .building c =>
    match s.connections .guest c with
    | some k =>
      (s.launch .guest c).map fun s' =>
        ({ s' with acceptor := .awaiting }, [.accepted c (s.port k.id)])
    | none => none

variable [DecidableEq θ]

def State.stepOpener (s : State θ) (t : θ) : Option (State θ × List Event) :=
  let go (s : State θ) (o : Opener) : State θ := { s with openers := Function.update s.openers t o }
  match s.openers t with
  | .idle => none
  | .scanning i port =>
    if i < kNumQueues then
      if s.queueState i .host = .inactive ∧ s.queueState i .guest = .inactive then
        some (go (s.acquire i port) (.building (s.serial + 1)), [.opened (s.serial + 1) port])
      else some (go s (.scanning (i + 1) port), [])
    else some (go s (.scanning 0 port), [])
  | .building c => (s.launch .host c).map fun s' => (go s' .idle, [])

def step (s : State θ) : Input θ → Option (State θ × List Event)
  | .restart x => some (s.restart x, [])
  | .cleanUp x => s.stepCleanUp x
  | .openConnection t port =>
    match s.process .host, s.openers t with
    | .running, .idle =>
      some ({ s with openers := Function.update s.openers t (.scanning 0 port) }, [])
    | _, _ => none
  | .opener t => if s.process .host = .running then s.stepOpener t else none
  | .acceptor => if s.process .guest = .running then s.stepAcceptor else none
  | .sender x c data =>
    match s.process x, s.connections x c with
    | .running, some k => s.send x c k data
    | _, _ => none
  | .receiver x c socketOk =>
    match s.process x, s.connections x c with
    | .running, some k => s.receive x c k socketOk
    | _, _ => none

def machine (θ : Type*) [DecidableEq θ] : Machine (State θ) (Input θ) Event := ⟨step⟩

end Steps

/-- The host takes no pair of queues that a starting guest is about to reset: it has looked at
the pair when it was inactive. -/
def Undisturbed {θ : Type*} (s : State θ) : Input θ → Prop
  | .opener t =>
    match s.openers t, s.process .guest with
    | .scanning j _, .cleaning _ (.resetting i) => i ≠ j
    | _, _ => True
  | _ => True

instance {θ : Type*} (s : State θ) (i : Input θ) : Decidable (Undisturbed s i) := by
  unfold Undisturbed
  split
  · split <;> infer_instance
  all_goals infer_instance

section QueueStates

def QueueState.saysOpen : QueueState → Side → Bool
  | .inactive, _ => false
  | .hostConnected, x => x = .host
  | .bothConnected, _ => true
  | .hostClosed, x => x = .guest
  | .guestClosed, x => x = .host

namespace QueueState
variable {q : QueueState} {x y : Side}

theorem saysOpen_markDisconnected (h : q.saysOpen x) (hq : q ≠ .hostConnected) :
    (q.markDisconnected x).saysOpen y ↔ y ≠ x ∧ q.saysOpen y := by
  cases q <;> cases x <;> cases y <;> simp_all [saysOpen, markDisconnected, otherSideClosed,
    thisSideClosed, Side.peer]

theorem saysOpen_reset (hq : x = .guest → q ≠ .hostConnected) :
    (q.reset x).saysOpen y ↔ y ≠ x ∧ q.saysOpen y := by
  cases q <;> cases x <;> cases y <;> simp_all [saysOpen, reset, otherSideClosed,
    thisSideClosed, Side.peer]

theorem markDisconnected_ne : q.markDisconnected x ≠ .hostConnected := by
  cases q <;> cases x <;> simp [markDisconnected, otherSideClosed, thisSideClosed, Side.peer]

theorem reset_ne : q.reset x ≠ .hostConnected := by
  cases q <;> cases x <;> simp [reset, otherSideClosed, thisSideClosed, Side.peer]

theorem ne_inactive (h : q.saysOpen x) : q ≠ .inactive := by
  intro hq
  simp [hq, saysOpen] at h

theorem ne_hostConnected (h : q.saysOpen .guest) : q ≠ .hostConnected := by
  intro hq
  simp [hq, saysOpen] at h

theorem ne_inactive_of_reset (h : q.reset x ≠ .inactive) : q ≠ .inactive := by
  cases q <;> cases x <;> simp_all [reset, otherSideClosed]

end QueueState

theorem sendCheck_ne_none {q : QueueState} {x : Side} {p : Packet} (hp : p.Sendable)
    (hq : q.saysOpen x) : sendCheck q x p ≠ none := by
  have hne := QueueState.ne_inactive hq
  unfold sendCheck
  rw [if_neg (by simpa using hp)]
  split
  · simp
  · simp

end QueueStates

section Views
variable {θ : Type*} (s : State θ)

variable (i j c c' : ℕ) (d d' x y : Side) (ps : List Packet) (k : Connection) (pr : Process)
  (f : Side → QueueState → QueueState)

@[simp] theorem queueState_setPackets :
    (s.setPackets i d ps).queueState j d' = s.queueState j d' := by
  simp only [State.queueState, State.setPackets, State.setPair, QueuePair.setPackets]
  by_cases hj : j = i
  · subst hj
    by_cases hd : d' = d
    · subst hd
      simp
    · simp [hd]
  · simp [hj]

@[simp] theorem queueState_mapState :
    (s.mapState i f).queueState j d =
      if j = i then f d (s.queueState i d) else s.queueState j d := by
  simp only [State.queueState, State.mapState, State.setPair, QueuePair.mapState]
  by_cases hj : j = i <;> simp [hj]

@[simp] theorem queueState_setConnection :
    (s.setConnection x c k).queueState = s.queueState := rfl

@[simp] theorem queueState_setProcess : (s.setProcess x pr).queueState = s.queueState := rfl

@[simp] theorem packets_setPackets : (s.setPackets i d ps).packets j d' =
    if j = i ∧ d' = d then ps else s.packets j d' := by
  simp only [State.packets, State.setPackets, State.setPair, QueuePair.setPackets]
  by_cases hj : j = i
  · subst hj
    by_cases hd : d' = d
    · subst hd
      simp
    · simp [hd]
  · simp [hj]

@[simp] theorem packets_mapState : (s.mapState i f).packets j d = s.packets j d := by
  simp only [State.packets, State.mapState, State.setPair, QueuePair.mapState]
  by_cases hj : j = i <;> simp [hj]

@[simp] theorem packets_setConnection : (s.setConnection x c k).packets = s.packets := rfl

@[simp] theorem packets_setProcess : (s.setProcess x pr).packets = s.packets := rfl

@[simp] theorem owner_setPackets : (s.setPackets i d ps).owner = s.owner := by
  funext j
  simp only [State.owner, State.setPackets, State.setPair, QueuePair.setPackets]
  by_cases hj : j = i <;> simp [hj]

@[simp] theorem owner_mapState : (s.mapState i f).owner = s.owner := by
  funext j
  simp only [State.owner, State.mapState, State.setPair, QueuePair.mapState]
  by_cases hj : j = i <;> simp [hj]

@[simp] theorem port_setPackets : (s.setPackets i d ps).port = s.port := by
  funext j
  simp only [State.port, State.setPackets, State.setPair, QueuePair.setPackets]
  by_cases hj : j = i <;> simp [hj]

@[simp] theorem port_mapState : (s.mapState i f).port = s.port := by
  funext j
  simp only [State.port, State.mapState, State.setPair, QueuePair.mapState]
  by_cases hj : j = i <;> simp [hj]

@[simp] theorem owner_setConnection : (s.setConnection x c k).owner = s.owner := rfl

@[simp] theorem owner_setProcess : (s.setProcess x pr).owner = s.owner := rfl

@[simp] theorem process_setPackets : (s.setPackets i d ps).process = s.process := rfl

@[simp] theorem process_mapState : (s.mapState i f).process = s.process := rfl

@[simp] theorem process_setConnection : (s.setConnection x c k).process = s.process := rfl

@[simp] theorem process_setProcess :
    (s.setProcess x pr).process y = if y = x then pr else s.process y := by
  by_cases hy : y = x <;> simp [State.setProcess, hy]

@[simp] theorem connections_setPackets :
    (s.setPackets i d ps).connections = s.connections := rfl

@[simp] theorem connections_mapState : (s.mapState i f).connections = s.connections := rfl

@[simp] theorem connections_setConnection : (s.setConnection x c k).connections y c' =
    if y = x ∧ c' = c then some k else s.connections y c' := by
  by_cases hy : y = x
  · subst hy
    by_cases hc : c' = c <;> simp [State.setConnection, hc]
  · simp [State.setConnection, hy]

@[simp] theorem connections_setProcess : (s.setProcess x pr).connections = s.connections := rfl

@[simp] theorem serial_setPackets : (s.setPackets i d ps).serial = s.serial := rfl

@[simp] theorem serial_mapState : (s.mapState i f).serial = s.serial := rfl

@[simp] theorem serial_setConnection : (s.setConnection x c k).serial = s.serial := rfl

@[simp] theorem serial_setProcess : (s.setProcess x pr).serial = s.serial := rfl

end Views

section Ends

def Connection.Holds (k : Connection) (x d : Side) : Prop :=
  if d = x then k.sender ≠ .gone else k.receiver ≠ .gone

def Connection.Marks (k : Connection) (x d : Side) : Prop :=
  if d = x then k.sender = .marking else k.receiver = .marking

theorem Connection.Marks.holds {k : Connection} {x d : Side} (h : k.Marks x d) :
    k.Holds x d := by
  unfold Marks at h
  unfold Holds
  split <;> simp_all

def CleanUp.attended : CleanUp → Option ℕ
  | .looking _ => none
  | .checking i _ | .writing i _ | .resetting i => some i

def CleanUp.index : CleanUp → ℕ
  | .looking i | .checking i _ | .writing i _ | .resetting i => i

def CleanUp.sends : CleanUp → Bool
  | .checking _ _ | .writing _ _ => true
  | _ => false

end Ends

end Rpi3Device.Vsoc.SocketForward
