import Rpi3Device.Vsoc.SocketForwardPairs

/-!
# What a forwarded connection carries

Packets stay in a queue when its reader closes its end early, and the next connection with the
pair finds them there. A receiver takes the BEGIN of its own connection before it closes, so
what it leaves holds no BEGIN and the next receiver skips it. While no process is restarted,
the bytes that a side passes on to its socket are those that the other side has read from its
own, in order, and all of them when the END comes.
-/

namespace Rpi3Device.Vsoc.SocketForward
open TransitionSystem

def Undying {θ : Type*} (_ : State θ) : Input θ → Prop
  | .restart _ => False
  | _ => True

instance {θ : Type*} (s : State θ) (i : Input θ) : Decidable (Undying s i) :=
  match i with
  | .restart _ => inferInstanceAs (Decidable False)
  | .opener _ | .cleanUp _ | .openConnection _ _ | .acceptor | .sender _ _ _ | .receiver _ _ _ =>
    inferInstanceAs (Decidable True)

def ready {θ : Type*} (generation seqNum : UInt32) : State θ :=
  { process := fun _ => .running
    generationNum := generation
    seqNum
    lastSeqNumber := seqNum }

def Event.writtenBy (x : Side) (c : ℕ) : Event → Option Packet
  | .wrote y c' p => if y = x ∧ c' = c then some p else none
  | _ => none

def Event.receivedBy (x : Side) (c : ℕ) : Event → Option Packet
  | .received y c' p => if y = x ∧ c' = c then some p else none
  | _ => none

def written (x : Side) (c : ℕ) (tr : List Event) : List Packet := tr.filterMap (Event.writtenBy x c)

def received (x : Side) (c : ℕ) (tr : List Event) : List Packet :=
  tr.filterMap (Event.receivedBy x c)

def payloads (ps : List Packet) : List UInt8 :=
  (ps.filter fun p => p.messageType = .DATA).flatMap Packet.payload

section Packets

@[simp] theorem written_append (x : Side) (c : ℕ) (tr es : List Event) :
    written x c (tr ++ es) = written x c tr ++ written x c es := List.filterMap_append

@[simp] theorem received_append (x : Side) (c : ℕ) (tr es : List Event) :
    received x c (tr ++ es) = received x c tr ++ received x c es := List.filterMap_append

@[simp] theorem written_nil (x : Side) (c : ℕ) : written x c [] = [] := rfl

@[simp] theorem received_nil (x : Side) (c : ℕ) : received x c [] = [] := rfl

theorem written_wrote (x y : Side) (c c' : ℕ) (p : Packet) :
    written x c [.wrote y c' p] = if y = x ∧ c' = c then [p] else [] := by
  by_cases h : y = x ∧ c' = c <;> simp [written, Event.writtenBy, h]

theorem received_received (x y : Side) (c c' : ℕ) (p : Packet) :
    received x c [.received y c' p] = if y = x ∧ c' = c then [p] else [] := by
  by_cases h : y = x ∧ c' = c <;> simp [received, Event.receivedBy, h]

def NoBegin (ps : List Packet) : Prop := ∀ p ∈ ps, p.messageType ≠ .BEGIN

def Orderly (ps : List Packet) : Prop := ∀ front p rest, ps = front ++ p :: rest →
  (p.messageType = .BEGIN → front = []) ∧ (p.messageType = .END → rest = [])

theorem orderly_nil : Orderly [] := by
  intro front p rest h
  simp at h

theorem orderly_snoc {ps : List Packet} {q : Packet} (h : Orderly ps)
    (hend : ∀ p ∈ ps, p.messageType ≠ .END) (hbegin : q.messageType = .BEGIN → ps = []) :
    Orderly (ps ++ [q]) := by
  intro front p rest heq
  rcases List.eq_nil_or_concat rest with rfl | ⟨rest, r, rfl⟩
  · obtain ⟨rfl, hq⟩ := List.append_inj' heq rfl
    obtain rfl := List.singleton_inj.mp hq
    exact ⟨hbegin, fun _ => rfl⟩
  · rw [List.concat_eq_append, ← List.cons_append, ← List.append_assoc] at heq
    obtain ⟨rfl, -⟩ := List.append_inj' heq rfl
    refine ⟨(h front p rest rfl).1, ?_⟩
    intro hp
    exact absurd hp (hend p (by simp))

end Packets

inductive Stage where
  | before
  | during
  | after

def SenderPc.stage : SenderPc → Stage
  | .reading => .before
  | .checking p | .writing p => if p.messageType = .BEGIN then .before else .during
  | .built | .idle => .during
  | .closing | .marking | .gone => .after

def ReceiverPc.stage : ReceiverPc → Stage
  | .waiting | .skipping => .before
  | .receiving => .during
  | .closing | .marking | .gone => .after

def Wrote (ps : List Packet) : Stage → Prop
  | .before => ps = []
  | .during => Orderly ps ∧ ∀ p ∈ ps, p.messageType ≠ .END
  | .after => Orderly ps

def Got (ps got : List Packet) : Stage → Prop
  | .before => got = []
  | _ => ∃ b rest, b.messageType = .BEGIN ∧ ps = b :: (got ++ rest)

/-- What is in a queue: a receiver that has not begun finds packets of earlier connections
first, and has skipped some. -/
def Queued (ps got queue : List Packet) : Stage → Prop
  | .before => ∃ stale skipped rest, ps = skipped ++ rest ∧ queue = stale ++ rest ∧
      NoBegin stale ∧ NoBegin skipped
  | .during => ∃ b, b.messageType = .BEGIN ∧ ps = b :: (got ++ queue)
  | .after => NoBegin queue

section Stages
variable {ps got queue : List Packet} {p : Packet} {stage : Stage}

theorem Wrote.orderly (h : Wrote ps stage) : Orderly ps := by
  cases stage with
  | before =>
    obtain rfl : ps = [] := h
    exact orderly_nil
  | during => exact h.1
  | after => exact h

theorem Got.append (h : Got ps got stage) (more : List Packet) : Got (ps ++ more) got stage := by
  cases stage with
  | before => exact h
  | during | after =>
    obtain ⟨b, rest, hb, rfl⟩ := h
    exact ⟨b, rest ++ more, hb, by simp⟩

theorem Queued.append (h : Queued ps got queue stage)
    (hp : p.messageType = .BEGIN → ps = []) (hgot : Got ps got stage) :
    Queued (ps ++ [p]) got (queue ++ [p]) stage := by
  cases stage with
  | before =>
    obtain ⟨stale, skipped, rest, rfl, rfl, hstale, hskipped⟩ := h
    exact ⟨stale, skipped, rest ++ [p], by simp, by simp, hstale, hskipped⟩
  | during =>
    obtain ⟨b, hb, rfl⟩ := h
    exact ⟨b, hb, by simp⟩
  | after =>
    intro q hq
    obtain hq | hq := List.mem_append.mp hq
    · exact h q hq
    · obtain ⟨b, rest, -, rfl⟩ := hgot
      rw [List.mem_singleton.mp hq]
      intro hbegin
      simpa using hp hbegin

theorem Queued.skip (h : Queued ps got (p :: queue) .before) (hp : p.messageType ≠ .BEGIN) :
    Queued ps got queue .before := by
  obtain ⟨stale, skipped, rest, rfl, hq, hstale, hskipped⟩ := h
  cases stale with
  | nil =>
    obtain rfl : p :: queue = rest := hq
    refine ⟨[], skipped ++ [p], queue, by simp, rfl, by simp [NoBegin], ?_⟩
    intro q hq
    obtain hq | hq := List.mem_append.mp hq
    · exact hskipped q hq
    · rw [List.mem_singleton.mp hq]
      exact hp
  | cons r stale =>
    obtain ⟨rfl, rfl⟩ := List.cons.inj hq
    exact ⟨stale, skipped, rest, rfl, rfl, fun q hq => hstale q (by simp [hq]), hskipped⟩

theorem Queued.begin (h : Queued ps got (p :: queue) .before) (hps : Orderly ps)
    (hp : p.messageType = .BEGIN) : ps = p :: queue := by
  obtain ⟨stale, skipped, rest, rfl, hq, hstale, hskipped⟩ := h
  cases stale with
  | nil =>
    obtain rfl : p :: queue = rest := hq
    obtain rfl := (hps skipped p queue rfl).1 hp
    rfl
  | cons r stale =>
    obtain ⟨rfl, -⟩ := List.cons.inj hq
    exact absurd hp (hstale p (by simp))

end Stages

section Views
variable {θ : Type*} (s : State θ)

def State.sending (x : Side) (c : ℕ) : Stage :=
  match s.connections x c with
  | some k => k.sender.stage
  | none => .before

def State.receiving (x : Side) (c : ℕ) : Stage :=
  match s.connections x c with
  | some k => k.receiver.stage
  | none => .before

theorem sending_setConnection (x y : Side) (c c' : ℕ) (k : Connection) :
    (s.setConnection x c k).sending y c' =
      if y = x ∧ c' = c then k.sender.stage else s.sending y c' := by
  simp only [State.sending, connections_setConnection]
  by_cases h : y = x ∧ c' = c <;> simp only [h, if_true, if_false, and_self]

theorem receiving_setConnection (x y : Side) (c c' : ℕ) (k : Connection) :
    (s.setConnection x c k).receiving y c' =
      if y = x ∧ c' = c then k.receiver.stage else s.receiving y c' := by
  simp only [State.receiving, connections_setConnection]
  by_cases h : y = x ∧ c' = c <;> simp only [h, if_true, if_false, and_self]

end Views

structure Flow {θ : Type*} (tr : List Event) (s : State θ) : Prop where
  wrote : ∀ x c, Wrote (written x c tr) (s.sending x c)
  got : ∀ x c, Got (written x.peer c tr) (received x c tr) (s.receiving x c)
  queued : ∀ i x, Queued (written x.peer (s.owner i) tr) (received x (s.owner i) tr)
    (s.packets i x.peer) (s.receiving x (s.owner i))

section Flows
variable {θ : Type*} {s s' : State θ} {tr : List Event} {x : Side} {c : ℕ} {k : Connection}

theorem sending_eq (hk : s.connections x c = some k) : s.sending x c = k.sender.stage := by
  simp [State.sending, hk]

theorem receiving_eq (hk : s.connections x c = some k) : s.receiving x c = k.receiver.stage := by
  simp [State.receiving, hk]

theorem sending_none (hk : s.connections x c = none) : s.sending x c = .before := by
  simp [State.sending, hk]

theorem receiving_none (hk : s.connections x c = none) : s.receiving x c = .before := by
  simp [State.receiving, hk]

theorem Flow.of_view (h : Flow tr s) (hsending : s'.sending = s.sending)
    (hreceiving : s'.receiving = s.receiving) (howner : s'.owner = s.owner)
    (hpackets : ∀ i d, s'.packets i d = s.packets i d) : Flow tr s' := by
  obtain ⟨h1, h2, h3⟩ := h
  constructor <;> simp only [hsending, hreceiving, howner, hpackets] <;> assumption

theorem Flow.mapState (h : Flow tr s) {i : ℕ} {f : Side → QueueState → QueueState} :
    Flow tr (s.mapState i f) :=
  h.of_view rfl rfl (by simp) (by simp)

theorem Flow.setConnection (h : Flow tr s) {k' : Connection} (hk : s.connections x c = some k)
    (hreceiver : k'.receiver.stage = k.receiver.stage)
    (hwrote : Wrote (written x c tr) k'.sender.stage) : Flow tr (s.setConnection x c k') := by
  have hreceiving : (s.setConnection x c k').receiving = s.receiving := by
    funext y c'
    rw [receiving_setConnection]
    split
    · rename_i heq
      obtain ⟨rfl, rfl⟩ := heq
      rw [hreceiver, receiving_eq hk]
    · rfl
  refine ⟨?_, ?_, ?_⟩
  · intro y c'
    rw [sending_setConnection]
    split
    · rename_i heq
      obtain ⟨rfl, rfl⟩ := heq
      exact hwrote
    · exact h.wrote y c'
  · rw [hreceiving]
    exact h.got
  · rw [hreceiving]
    exact h.queued

theorem Flow.write (h : Flow tr s) {k' : Connection} {p : Packet}
    (hk : s.connections x c = some k) (howner : s.owner k.id = c)
    (hdistinct : ∀ i, s.owner i = c → i = k.id) (hreceiver : k'.receiver = k.receiver)
    (hbegin : p.messageType = .BEGIN → written x c tr = [])
    (hwrote : Wrote (written x c tr ++ [p]) k'.sender.stage) :
    Flow (tr ++ [.wrote x c p])
      ((s.setConnection x c k').setPackets k.id x (s.packets k.id x ++ [p])) := by
  have hreceiving : ((s.setConnection x c k').setPackets k.id x
      (s.packets k.id x ++ [p])).receiving = s.receiving := by
    funext y c'
    change (s.setConnection x c k').receiving y c' = _
    rw [receiving_setConnection]
    split
    · rename_i heq
      obtain ⟨rfl, rfl⟩ := heq
      rw [hreceiver, receiving_eq hk]
    · rfl
  have hreceived : ∀ y c', received y c' [.wrote x c p] = [] := fun _ _ => rfl
  refine ⟨?_, ?_, ?_⟩
  · intro y c'
    change Wrote _ ((s.setConnection x c k').sending y c')
    rw [sending_setConnection, written_append, written_wrote]
    by_cases heq : y = x ∧ c' = c
    · obtain ⟨rfl, rfl⟩ := heq
      simpa using hwrote
    · have hne : ¬ (x = y ∧ c = c') := fun hparts => heq ⟨hparts.1.symm, hparts.2.symm⟩
      rw [if_neg heq, if_neg hne, List.append_nil]
      exact h.wrote y c'
  · intro y c'
    rw [hreceiving, written_append, received_append, hreceived, List.append_nil]
    exact (h.got y c').append _
  · intro i y
    rw [hreceiving, owner_setPackets, owner_setConnection, packets_setPackets,
      packets_setConnection, written_append, received_append, hreceived, List.append_nil,
      written_wrote]
    by_cases heq : i = k.id ∧ y.peer = x
    · obtain ⟨rfl, rfl⟩ := heq
      have hq := h.queued k.id y
      have hg := h.got y (s.owner k.id)
      rw [howner] at hq hg ⊢
      simpa using hq.append hbegin hg
    · have hne : ¬ (x = y.peer ∧ c = s.owner i) := by
        intro hparts
        exact heq ⟨hdistinct i hparts.2.symm, hparts.1.symm⟩
      rw [if_neg heq, if_neg hne, List.append_nil]
      exact h.queued i y

theorem Flow.pop (h : Flow tr s) {k' : Connection} {rest : List Packet} {es : List Event}
    (hk : s.connections x c = some k) (howner : s.owner k.id = c)
    (hdistinct : ∀ i, s.owner i = c → i = k.id) (hsender : k'.sender = k.sender)
    (hwritten : ∀ y c', written y c' es = [])
    (hreceived : ∀ y c', ¬ (y = x ∧ c' = c) → received y c' es = [])
    (hgot : Got (written x.peer c tr) (received x c (tr ++ es)) k'.receiver.stage)
    (hqueued : Queued (written x.peer c tr) (received x c (tr ++ es)) rest k'.receiver.stage) :
    Flow (tr ++ es) ((s.setConnection x c k').setPackets k.id x.peer rest) := by
  have hsending : ((s.setConnection x c k').setPackets k.id x.peer rest).sending =
      s.sending := by
    funext y c'
    change (s.setConnection x c k').sending y c' = _
    rw [sending_setConnection]
    split
    · rename_i heq
      obtain ⟨rfl, rfl⟩ := heq
      rw [hsender, sending_eq hk]
    · rfl
  refine ⟨?_, ?_, ?_⟩
  · intro y c'
    rw [hsending, written_append, hwritten, List.append_nil]
    exact h.wrote y c'
  · intro y c'
    change Got _ _ ((s.setConnection x c k').receiving y c')
    rw [receiving_setConnection, written_append, hwritten, List.append_nil]
    by_cases heq : y = x ∧ c' = c
    · obtain ⟨rfl, rfl⟩ := heq
      simpa using hgot
    · rw [if_neg heq, received_append, hreceived y c' heq, List.append_nil]
      exact h.got y c'
  · intro i y
    change Queued _ _ _ ((s.setConnection x c k').receiving y _)
    rw [owner_setPackets, owner_setConnection, receiving_setConnection, packets_setPackets,
      packets_setConnection, written_append, hwritten, List.append_nil]
    by_cases heq : y = x ∧ s.owner i = c
    · obtain ⟨rfl, rfl⟩ := heq
      obtain rfl := hdistinct i rfl
      simpa using hqueued
    · have hne : ¬ (i = k.id ∧ y.peer = x.peer) := by
        rintro ⟨rfl, hpeer⟩
        refine heq ⟨?_, howner⟩
        simpa using congrArg Side.peer hpeer
      rw [if_neg heq, if_neg hne, received_append, hreceived y _ heq, List.append_nil]
      exact h.queued i y

theorem wrote_afterSend_false {ps : List Packet} {g : UInt32} {p : Packet}
    (h : Wrote ps (SenderPc.checking p).stage) : Wrote ps (afterSend g p false).stage := by
  unfold afterSend
  cases hp : p.messageType with
  | BEGIN =>
    obtain rfl : ps = [] := by simpa [SenderPc.stage, hp, Wrote] using h
    exact ⟨orderly_nil, by simp⟩
  | DATA => simpa [SenderPc.stage, hp, Packet.makeEnd] using h
  | END => exact h.orderly

theorem wrote_afterSend_true {ps : List Packet} {g : UInt32} {p : Packet}
    (h : Wrote ps (SenderPc.writing p).stage) : Wrote (ps ++ [p]) (afterSend g p true).stage := by
  unfold afterSend
  cases hp : p.messageType with
  | BEGIN =>
    obtain rfl : ps = [] := by simpa [SenderPc.stage, hp, Wrote] using h
    exact ⟨orderly_snoc orderly_nil (by simp) (by simp), by simp [hp]⟩
  | DATA =>
    obtain ⟨horderly, hend⟩ : Wrote ps .during := by simpa [SenderPc.stage, hp] using h
    refine ⟨orderly_snoc horderly hend (by simp [hp]), ?_⟩
    intro q hq
    obtain hq | hq := List.mem_append.mp hq
    · exact hend q hq
    · simp [List.mem_singleton.mp hq, hp]
  | END =>
    obtain ⟨horderly, hend⟩ : Wrote ps .during := by simpa [SenderPc.stage, hp] using h
    exact orderly_snoc horderly hend (by simp [hp])

theorem afterSend_ne_begin {g : UInt32} {p q : Packet} {sent : Bool}
    (h : afterSend g p sent = .checking q ∨ afterSend g p sent = .writing q) :
    q.messageType ≠ .BEGIN := by
  unfold afterSend at h
  cases hp : p.messageType with
  | DATA =>
    cases sent with
    | true => simp [hp] at h
    | false =>
      obtain rfl : Packet.makeEnd g = q := by simpa [hp] using h
      simp [Packet.makeEnd]
  | _ => simp [hp] at h

/-- While no process is restarted there is one generation, and a pair keeps both connections
of its owner until they are closed. -/
structure Lasting (g : UInt32) (s : State θ) : Prop where
  process : ∀ x, s.process x = .running
  generationNum : s.generationNum = g
  generation : ∀ x c k, s.connections x c = some k → k.generation = 0 ∨ k.generation = g
  queued : ∀ i d, ∀ p ∈ s.packets i d, p.messageType = .BEGIN → p.generation = g
  pending : ∀ x c k p, s.connections x c = some k →
    k.sender = .checking p ∨ k.sender = .writing p → p.messageType = .BEGIN → p.generation = g
  named : ∀ x c k, s.connections x c = some k → c ≤ s.serial
  nobody : ∀ x, s.connections x 0 = none
  opened : ∀ i, s.owner i ≠ 0 → ∃ k, s.connections .host (s.owner i) = some k ∧ k.id = i
  joined : ∀ i, s.owner i ≠ 0 → s.queueState i .host ≠ .hostConnected →
    ∃ k, s.connections .guest (s.owner i) = some k ∧ k.id = i
  unmet : ∀ i, s.queueState i .host = .hostConnected → s.connections .guest (s.owner i) = none

variable {g : UInt32}

theorem Lasting.setConnection (h : Lasting g s) {k' : Connection}
    (hk : s.connections x c = some k) (hid : k'.id = k.id)
    (hgeneration : k'.generation = 0 ∨ k'.generation = g)
    (hpending : ∀ p, k'.sender = .checking p ∨ k'.sender = .writing p →
      p.messageType = .BEGIN → p.generation = g) : Lasting g (s.setConnection x c k') where
  process := h.process
  generationNum := h.generationNum
  generation y c' k₁ hk₁ := by
    rw [connections_setConnection] at hk₁
    split at hk₁
    · obtain rfl := Option.some.inj hk₁
      exact hgeneration
    · exact h.generation y c' k₁ hk₁
  queued := h.queued
  pending y c' k₁ p hk₁ := by
    rw [connections_setConnection] at hk₁
    split at hk₁
    · obtain rfl := Option.some.inj hk₁
      exact hpending p
    · exact h.pending y c' k₁ p hk₁
  named y c' k₁ hk₁ := by
    rw [connections_setConnection] at hk₁
    split at hk₁
    · rename_i heq
      rw [heq.2]
      exact h.named x c k hk
    · exact h.named y c' k₁ hk₁
  nobody y := by
    rw [connections_setConnection, if_neg]
    · exact h.nobody y
    · rintro ⟨rfl, rfl⟩
      simp [h.nobody] at hk
  opened i hi := by
    obtain ⟨k₁, hk₁, rfl⟩ := h.opened i hi
    rw [owner_setConnection, connections_setConnection]
    split
    · rename_i heq
      obtain ⟨rfl, rfl⟩ := heq
      obtain rfl := Option.some.inj (hk.symm.trans hk₁)
      exact ⟨k', rfl, hid⟩
    · exact ⟨k₁, hk₁, rfl⟩
  joined i hi hq := by
    obtain ⟨k₁, hk₁, rfl⟩ := h.joined i hi hq
    rw [owner_setConnection, connections_setConnection]
    split
    · rename_i heq
      obtain ⟨rfl, rfl⟩ := heq
      obtain rfl := Option.some.inj (hk.symm.trans hk₁)
      exact ⟨k', rfl, hid⟩
    · exact ⟨k₁, hk₁, rfl⟩
  unmet i hi := by
    have hnone := h.unmet i hi
    rw [owner_setConnection, connections_setConnection, if_neg]
    · exact hnone
    · rintro ⟨rfl, rfl⟩
      simp [hk] at hnone

theorem Lasting.setPackets (h : Lasting g s) {i : ℕ} {d : Side} {ps : List Packet}
    (hps : ∀ p ∈ ps, p.messageType = .BEGIN → p.generation = g) :
    Lasting g (s.setPackets i d ps) := by
  obtain ⟨h1, h2, h3, h4, h5, h6, h7, h8, h9, h10⟩ := h
  refine ⟨h1, h2, h3, ?_, h5, h6, h7, by simpa using h8, by simpa using h9, by simpa using h10⟩
  intro j d' p hp
  rw [packets_setPackets] at hp
  split at hp
  · exact hps p hp
  · exact h4 j d' p hp

theorem Lasting.mapState (h : Lasting g s) {i : ℕ} {f : Side → QueueState → QueueState}
    (hold : s.queueState i .host ≠ .hostConnected)
    (hnew : f .host (s.queueState i .host) ≠ .hostConnected) : Lasting g (s.mapState i f) := by
  have hsame : ∀ j, (s.mapState i f).queueState j .host = .hostConnected ↔
      s.queueState j .host = .hostConnected := by
    intro j
    rw [queueState_mapState]
    split
    · rename_i hj
      simp [hj, hold, hnew]
    · rfl
  obtain ⟨h1, h2, h3, h4, h5, h6, h7, h8, h9, h10⟩ := h
  refine ⟨h1, h2, h3, by simpa using h4, h5, h6, h7, by simpa using h8, ?_, ?_⟩
  · intro j hj hq
    rw [owner_mapState] at hj ⊢
    exact h9 j hj fun hq' => hq ((hsame j).mpr hq')
  · intro j hj
    rw [owner_mapState]
    exact h10 j ((hsame j).mp hj)

theorem Lasting.pair (h : Lasting g s) (hkept : Kept s) (hk : s.connections x c = some k)
    {d : Side} (hd : k.Holds x d) :
    s.owner k.id = c ∧ ∀ i, s.owner i = c → i = k.id := by
  have howner := hkept.threads.owned x c k d hk hd
  refine ⟨howner, ?_⟩
  intro i hi
  refine hkept.words.distinct i k.id (hi.trans howner.symm) ?_
  intro hzero
  have hnone := h.nobody x
  rw [← hzero, hi, hk] at hnone
  simp at hnone

theorem Lasting.mark (hkept : Kept s) {k' : Connection} {d : Side}
    (hk : s.connections x c = some k) (hd : k.Marks x d)
    (hnext : Lasting g (s.setConnection x c k')) :
    Lasting g ((s.setConnection x c k').mark k.id d x) := by
  have hne := hkept.marked hk hd
  have hhost : s.queueState k.id .host ≠ .hostConnected := by
    have hpaired := hkept.words.paired k.id
    cases d <;> simp_all
  apply hnext.mapState
  · exact hhost
  · split
    · exact QueueState.markDisconnected_ne
    · exact hhost

theorem Flow.send (h : Flow tr s) (hkept : Kept s) (hlast : Lasting g s) {data : List UInt8}
    {es : List Event} (hk : s.connections x c = some k)
    (hs : s.send x c k data = some (s', es)) (hnone : NoneFailed es) :
    Lasting g s' ∧ Flow (tr ++ es) s' := by
  have hw := h.wrote x c
  rw [sending_eq hk] at hw
  have hgeneration := hlast.generation x c k hk
  have hpending := hlast.pending x c k
  unfold State.send at hs
  split at hs
  case h_1 hpc =>
    obtain ⟨rfl, rfl⟩ := Prod.mk.inj (Option.some.inj hs)
    refine ⟨hlast.setConnection hk rfl (.inr hlast.generationNum) ?_, ?_⟩
    · intro p hp _
      obtain rfl : Packet.makeBegin s.generationNum = p := by simpa using hp
      exact hlast.generationNum
    · rw [List.append_nil]
      refine h.setConnection hk rfl ?_
      rw [hpc] at hw
      simpa [SenderPc.stage, Packet.makeBegin] using hw
  case h_2 p hpc =>
    rw [hpc] at hw
    split at hs
    case h_1 =>
      obtain ⟨rfl, rfl⟩ := Prod.mk.inj (Option.some.inj hs)
      exact absurd (List.mem_singleton_self _) (hnone x)
    case h_2 =>
      obtain ⟨rfl, rfl⟩ := Prod.mk.inj (Option.some.inj hs)
      rw [List.append_nil]
      refine ⟨hlast.setConnection hk rfl hgeneration ?_, h.setConnection hk rfl hw⟩
      intro q hq
      obtain rfl : p = q := by simpa using hq
      exact hpending p hk (.inl hpc)
    case h_3 =>
      obtain ⟨rfl, rfl⟩ := Prod.mk.inj (Option.some.inj hs)
      rw [List.append_nil]
      refine ⟨hlast.setConnection hk rfl hgeneration ?_,
        h.setConnection hk rfl (wrote_afterSend_false hw)⟩
      intro q hq hbegin
      exact absurd hbegin (afterSend_ne_begin hq)
  case h_3 p hpc =>
    rw [hpc] at hw
    obtain ⟨rfl, rfl⟩ := Prod.mk.inj (Option.some.inj hs)
    obtain ⟨howner, hdistinct⟩ := hlast.pair hkept hk (d := x) (by
      simp [Connection.Holds, hpc])
    have hnext : Lasting g
        (s.setConnection x c { k with sender := afterSend k.generation p true }) := by
      refine hlast.setConnection hk rfl hgeneration ?_
      intro q hq hbegin
      exact absurd hbegin (afterSend_ne_begin hq)
    refine ⟨hnext.setPackets ?_, h.write hk howner hdistinct rfl ?_ (wrote_afterSend_true hw)⟩
    · intro q hq
      obtain hq | hq := List.mem_append.mp hq
      · exact hlast.queued _ _ q hq
      · rw [List.mem_singleton.mp hq]
        exact hpending p hk (.inr hpc)
    · intro hbegin
      simpa [SenderPc.stage, hbegin, Wrote] using hw
  case h_4 hpc =>
    rw [hpc] at hw
    split at hs
    · obtain ⟨rfl, rfl⟩ := Prod.mk.inj (Option.some.inj hs)
      have hnext : ∀ p, p = (if data = [] then Packet.makeEnd k.generation
          else Packet.makeData data) → p.messageType ≠ .BEGIN := by
        rintro p rfl
        split <;> simp [Packet.makeEnd, Packet.makeData]
      rw [List.append_nil]
      refine ⟨hlast.setConnection hk rfl hgeneration ?_, h.setConnection hk rfl ?_⟩
      · intro q hq hbegin
        refine absurd hbegin (hnext q ?_)
        simpa [eq_comm] using hq
      · simpa [SenderPc.stage, hnext] using hw
    · simp at hs
  case h_5 hpc =>
    rw [hpc] at hw
    split at hs <;>
    · obtain ⟨rfl, rfl⟩ := Prod.mk.inj (Option.some.inj hs)
      rw [List.append_nil]
      exact ⟨hlast.setConnection hk rfl hgeneration (by simp), h.setConnection hk rfl hw⟩
  case h_6 hpc =>
    rw [hpc] at hw
    obtain ⟨rfl, rfl⟩ := Prod.mk.inj (Option.some.inj hs)
    rw [List.append_nil]
    have hlast' : Lasting g (s.setConnection x c { k with sender := .gone }) :=
      hlast.setConnection hk rfl hgeneration (by simp)
    have hflow : Flow tr (s.setConnection x c { k with sender := .gone }) :=
      h.setConnection hk rfl hw
    exact ⟨Lasting.mark hkept hk (by simp [Connection.Marks, hpc]) hlast', hflow.mapState⟩
  case h_7 => simp at hs
  case h_8 => simp at hs

theorem Flow.receive (h : Flow tr s) (hkept : Kept s) (hlast : Lasting g s) {socketOk : Bool}
    {es : List Event} (hk : s.connections x c = some k)
    (hs : s.receive x c k socketOk = some (s', es)) (hnone : NoneFailed es) :
    Lasting g s' ∧ Flow (tr ++ es) s' := by
  have hpeer : x.peer ≠ x := by cases x <;> simp [Side.peer]
  have hw := h.wrote x c
  rw [sending_eq hk] at hw
  have hsame : ∀ pc, Lasting g (s.setConnection x c { k with receiver := pc }) :=
    fun pc => hlast.setConnection hk rfl (hlast.generation x c k hk) fun p =>
      hlast.pending x c k p hk
  unfold State.receive at hs
  split at hs
  case h_1 hpc =>
    obtain ⟨howner, hdistinct⟩ := hlast.pair hkept hk (d := x.peer) (by
      simp [Connection.Holds, hpeer, hpc])
    have hq := h.queued k.id x
    have hg := h.got x c
    rw [howner, receiving_eq hk, hpc] at hq
    rw [receiving_eq hk, hpc] at hg
    split at hs
    · simp at hs
    · rename_i p rest hps
      obtain ⟨rfl, rfl⟩ := Prod.mk.inj (Option.some.inj hs)
      rw [hps] at hq
      refine ⟨(hsame _).setPackets fun q hq => hlast.queued k.id x.peer q (by simp [hps, hq]), ?_⟩
      by_cases hp : p.messageType = .BEGIN
      · have hgeneration := hlast.queued k.id x.peer p (by simp [hps]) hp
        have hlt : ¬ p.generation < k.generation := by
          rw [hgeneration, UInt32.not_lt]
          obtain hk₀ | hk₀ := hlast.generation x c k hk <;> simp [hk₀]
        have hwritten := hq.begin (h.wrote x.peer c).orderly hp
        have hgot : received x c tr = [] := hg
        refine h.pop hk howner hdistinct rfl (fun _ _ => rfl) (fun _ _ _ => rfl) ?_ ?_
        · simp only [hp, hlt, ne_eq, not_true_eq_false, or_self, if_false, List.append_nil]
          exact ⟨p, rest, hp, by rw [hwritten, hgot, List.nil_append]⟩
        · simp only [hp, hlt, ne_eq, not_true_eq_false, or_self, if_false, List.append_nil]
          exact ⟨p, hp, by rw [hwritten, hgot, List.nil_append]⟩
      · refine h.pop hk howner hdistinct rfl (fun _ _ => rfl) (fun _ _ _ => rfl) ?_ ?_
        · simp only [hp, ne_eq, not_false_eq_true, true_or, if_true, List.append_nil]
          exact hg
        · simp only [hp, ne_eq, not_false_eq_true, true_or, if_true, List.append_nil]
          exact hq.skip hp
  case h_2 hpc =>
    obtain ⟨howner, hdistinct⟩ := hlast.pair hkept hk (d := x.peer) (by
      simp [Connection.Holds, hpeer, hpc])
    have hq := h.queued k.id x
    rw [howner, receiving_eq hk, hpc] at hq
    split at hs
    · simp at hs
    · rename_i p rest hps
      rw [hps] at hq
      obtain ⟨b, hb, hwritten⟩ := hq
      have horderly := (h.wrote x.peer c).orderly
      have hrest : ∀ q ∈ rest, q.messageType = .BEGIN → q.generation = g :=
        fun q hq => hlast.queued k.id x.peer q (by simp [hps, hq])
      split at hs
      · rename_i hp
        have hfront := (horderly (b :: received x c tr) p rest (by simp [hwritten])).1 hp
        simp at hfront
      · split at hs
        · obtain ⟨rfl, rfl⟩ := Prod.mk.inj (Option.some.inj hs)
          exact absurd (List.mem_singleton_self _) (hnone x)
        · obtain ⟨rfl, rfl⟩ := Prod.mk.inj (Option.some.inj hs)
          have hgot : received x c (tr ++ [.received x c p]) = received x c tr ++ [p] := by
            rw [received_append, received_received, if_pos ⟨rfl, rfl⟩]
          have htaken : written x.peer c tr = b :: (received x c tr ++ [p] ++ rest) := by
            simp [hwritten]
          refine ⟨(hsame _).setPackets hrest, ?_⟩
          refine h.pop hk howner hdistinct rfl (fun _ _ => rfl) ?_ ?_ ?_
          · intro y c' hne
            rw [received_received, if_neg]
            rintro ⟨rfl, rfl⟩
            exact hne ⟨rfl, rfl⟩
          · rw [hgot]
            split <;> exact ⟨b, rest, hb, htaken⟩
          · rw [hgot]
            split
            · exact ⟨b, hb, htaken⟩
            · intro q hq hbegin
              obtain ⟨front, back, rfl⟩ := List.append_of_mem hq
              have hfront := (horderly (b :: (received x c tr ++ [p] ++ front)) q back (by
                simp [htaken])).1 hbegin
              simp at hfront
  case h_3 hpc =>
    split at hs <;>
    · obtain ⟨rfl, rfl⟩ := Prod.mk.inj (Option.some.inj hs)
      rw [List.append_nil]
      exact ⟨hsame _, h.setConnection hk (by simp [hpc, ReceiverPc.stage]) hw⟩
  case h_4 hpc =>
    obtain ⟨rfl, rfl⟩ := Prod.mk.inj (Option.some.inj hs)
    rw [List.append_nil]
    have hflow : Flow tr (s.setConnection x c { k with receiver := .gone }) :=
      h.setConnection hk (by simp [hpc, ReceiverPc.stage]) hw
    exact ⟨Lasting.mark hkept hk (by simp [Connection.Marks, hpeer, hpc]) (hsame _),
      hflow.mapState⟩
  case h_5 => simp at hs
  case h_6 => simp at hs

theorem Flow.launch (h : Flow tr s) (hlast : Lasting g s) (hs : s.launch x c = some s') :
    Lasting g s' ∧ Flow tr s' := by
  unfold State.launch at hs
  split at hs
  · rename_i k hk
    split at hs
    · rename_i hpc
      obtain rfl := Option.some.inj hs
      have hw := h.wrote x c
      rw [sending_eq hk, hpc.1] at hw
      exact ⟨hlast.setConnection hk rfl (hlast.generation x c k hk) (by simp),
        h.setConnection hk (by simp [hpc.2, ReceiverPc.stage]) hw⟩
    · simp at hs
  · simp at hs

theorem Lasting.fresh (h : Lasting g s) (y : Side) : s.connections y (s.serial + 1) = none := by
  by_contra hne
  obtain ⟨k, hk⟩ := Option.ne_none_iff_exists'.mp hne
  have := h.named y _ k hk
  omega

theorem Lasting.acquire (hlast : Lasting g s) (hkept : Kept s) {i : ℕ} {port : UInt32} :
    Lasting g (s.acquire i port) := by
  have hold : ∀ j, s.owner j ≠ s.serial + 1 := by
    intro j
    have := hkept.words.bound j
    omega
  refine ⟨hlast.process, hlast.generationNum, ?_, ?_, ?_, ?_, ?_, ?_, ?_, ?_⟩
  · intro y c k hk
    rw [connections_acquire] at hk
    split at hk
    · obtain rfl := Option.some.inj hk
      exact .inl rfl
    · exact hlast.generation y c k hk
  · intro j d
    rw [packets_acquire]
    exact hlast.queued j d
  · intro y c k p hk
    rw [connections_acquire] at hk
    split at hk
    · obtain rfl := Option.some.inj hk
      simp
    · exact hlast.pending y c k p hk
  · intro y c k hk
    rw [connections_acquire] at hk
    split at hk
    · rename_i heq
      exact heq.2.le
    · exact (hlast.named y c k hk).trans (Nat.le_succ _)
  · intro y
    rw [connections_acquire, if_neg (by simp)]
    exact hlast.nobody y
  · intro j hj
    rw [owner_acquire] at hj ⊢
    split
    · rename_i hji
      exact ⟨{ id := i }, by simp, hji.symm⟩
    · rename_i hji
      rw [if_neg hji] at hj
      rw [connections_acquire, if_neg (by simp [hold])]
      exact hlast.opened j hj
  · intro j hj hstate
    rw [queueState_acquire] at hstate
    rw [owner_acquire] at hj ⊢
    by_cases hji : j = i
    · simp [hji] at hstate
    · rw [if_neg hji] at hj hstate ⊢
      rw [connections_acquire, if_neg (by simp)]
      exact hlast.joined j hj hstate
  · intro j hj
    rw [queueState_acquire] at hj
    rw [owner_acquire, connections_acquire, if_neg (by simp)]
    split
    · exact hlast.fresh .guest
    · rename_i hji
      rw [if_neg hji] at hj
      exact hlast.unmet j hj

theorem Flow.acquire (h : Flow tr s) (hkept : Kept s) (hlast : Lasting g s) {i : ℕ}
    {port : UInt32} (hq : ∀ d, s.queueState i d = .inactive) :
    Flow (tr ++ [.opened (s.serial + 1) port]) (s.acquire i port) := by
  have hnew := hlast.fresh
  have hsending : (s.acquire i port).sending = s.sending := by
    funext y c
    by_cases heq : y = .host ∧ c = s.serial + 1
    · obtain ⟨rfl, rfl⟩ := heq
      simp [State.sending, hnew, SenderPc.stage]
    · simp only [State.sending, connections_acquire, if_neg heq]
  have hreceiving : (s.acquire i port).receiving = s.receiving := by
    funext y c
    by_cases heq : y = .host ∧ c = s.serial + 1
    · obtain ⟨rfl, rfl⟩ := heq
      simp [State.receiving, hnew, ReceiverPc.stage]
    · simp only [State.receiving, connections_acquire, if_neg heq]
  have hwritten : ∀ y c c' port, written y c (tr ++ [.opened c' port]) = written y c tr := by
    intro y c c' port
    simp [written, Event.writtenBy]
  have hreceived : ∀ y c c' port, received y c (tr ++ [.opened c' port]) = received y c tr := by
    intro y c c' port
    simp [received, Event.receivedBy]
  refine ⟨?_, ?_, ?_⟩
  · intro y c
    rw [hsending, hwritten]
    exact h.wrote y c
  · intro y c
    rw [hreceiving, hwritten, hreceived]
    exact h.got y c
  · intro j y
    rw [hreceiving, hwritten, hreceived, packets_acquire, owner_acquire]
    split
    · rename_i hji
      subst hji
      have hw := h.wrote y.peer (s.serial + 1)
      rw [sending_none (hnew _)] at hw
      obtain hw : written y.peer (s.serial + 1) tr = [] := hw
      rw [receiving_none (hnew y), hw]
      refine ⟨s.packets j y.peer, [], [], rfl, by simp, ?_, by simp [NoBegin]⟩
      have hleft := h.queued j y
      by_cases hzero : s.owner j = 0
      · have hw₀ := h.wrote y.peer 0
        rw [sending_none (hlast.nobody _)] at hw₀
        obtain hw₀ : written y.peer 0 tr = [] := hw₀
        rw [hzero, receiving_none (hlast.nobody y), hw₀] at hleft
        obtain ⟨stale, skipped, rest, hps, hqueue, hstale, -⟩ := hleft
        obtain ⟨-, rfl⟩ := List.append_eq_nil_iff.mp hps.symm
        rw [hqueue, List.append_nil]
        exact hstale
      · obtain ⟨k, hk, hid⟩ : ∃ k, s.connections y (s.owner j) = some k ∧ k.id = j := by
          cases y with
          | host => exact hlast.opened j hzero
          | guest => exact hlast.joined j hzero (by simp [hq])
        have hgone : k.receiver = .gone := by
          by_contra hne
          have hpeer : y.peer ≠ y := by cases y <;> simp [Side.peer]
          exact hkept.free hq hk (d := y.peer) (by simpa [Connection.Holds, hpeer] using hne) hid
        rw [receiving_eq hk, hgone] at hleft
        exact hleft
    · exact h.queued j y

theorem Flow.join (h : Flow tr s) (hkept : Kept s) (hlast : Lasting g s) {i : ℕ}
    (hq : s.queueState i .host = .hostConnected) : Lasting g (s.join i) ∧ Flow tr (s.join i) := by
  have hnone := hlast.unmet i hq
  have howner : s.owner i ≠ 0 := hkept.words.taken i .host (by simp [hq])
  have hother : ∀ j, j ≠ i → s.owner j ≠ s.owner i := by
    intro j hj heq
    exact hj (hkept.words.distinct j i heq (heq ▸ howner))
  have hconn : ∀ y c, (s.join i).connections y c =
      if y = .guest ∧ c = s.owner i then some { id := i } else s.connections y c :=
    fun y c => connections_setConnection s (s.owner i) c .guest y { id := i }
  have hstate : ∀ j, (s.join i).queueState j .host =
      if j = i then .bothConnected else s.queueState j .host := by
    intro j
    rw [State.join, queueState_mapState]
    rfl
  refine ⟨⟨hlast.process, hlast.generationNum, ?_, ?_, ?_, ?_, ?_, ?_, ?_, ?_⟩,
    h.of_view ?_ ?_ (by simp [State.join]) (by simp [State.join])⟩
  · intro y c k hk
    rw [hconn] at hk
    split at hk
    · obtain rfl := Option.some.inj hk
      exact .inl rfl
    · exact hlast.generation y c k hk
  · intro j d
    rw [State.join, packets_mapState, packets_setConnection]
    exact hlast.queued j d
  · intro y c k p hk
    rw [hconn] at hk
    split at hk
    · obtain rfl := Option.some.inj hk
      simp
    · exact hlast.pending y c k p hk
  · intro y c k hk
    rw [hconn] at hk
    split at hk
    · rename_i heq
      rw [heq.2]
      exact hkept.words.bound i
    · exact hlast.named y c k hk
  · intro y
    rw [hconn, if_neg (by simp [howner.symm])]
    exact hlast.nobody y
  · intro j hj
    rw [State.join, owner_mapState, owner_setConnection] at hj ⊢
    rw [connections_mapState, connections_setConnection, if_neg (by simp)]
    exact hlast.opened j hj
  · intro j hj hs
    rw [hstate] at hs
    rw [hconn]
    rw [State.join, owner_mapState, owner_setConnection] at hj ⊢
    by_cases hji : j = i
    · exact ⟨{ id := i }, by simp [hji], hji.symm⟩
    · rw [if_neg hji] at hs
      rw [if_neg (by simp [hother j hji])]
      exact hlast.joined j hj hs
  · intro j hs
    rw [hstate] at hs
    split at hs
    · simp at hs
    · rename_i hji
      rw [hconn, State.join, owner_mapState, owner_setConnection,
        if_neg (by simp [hother j hji])]
      exact hlast.unmet j hs
  · funext y c
    by_cases heq : y = .guest ∧ c = s.owner i
    · obtain ⟨rfl, rfl⟩ := heq
      simp [State.sending, hconn, hnone, SenderPc.stage]
    · simp only [State.sending, hconn, if_neg heq]
  · funext y c
    by_cases heq : y = .guest ∧ c = s.owner i
    · obtain ⟨rfl, rfl⟩ := heq
      simp [State.receiving, hconn, hnone, ReceiverPc.stage]
    · simp only [State.receiving, hconn, if_neg heq]

theorem undisturbed_of_running (h : Lasting g s) (i : Input θ) : Undisturbed s i := by
  cases i with
  | opener t =>
    simp only [Undisturbed, h.process]
    split <;> simp_all
  | _ => trivial

theorem Flow.stepAcceptor (h : Flow tr s) (hkept : Kept s) (hlast : Lasting g s)
    {es : List Event} (hs : s.stepAcceptor = some (s', es)) (hnone : NoneFailed es) :
    Lasting g s' ∧ Flow (tr ++ es) s' := by
  have hacceptor : ∀ {s₁ : State θ} {tr₁ : List Event} (a : Acceptor) (l : UInt32),
      Lasting g s₁ ∧ Flow tr₁ s₁ →
        Lasting g { s₁ with acceptor := a, lastSeqNumber := l } ∧
          Flow tr₁ { s₁ with acceptor := a, lastSeqNumber := l } := by
    intro s₁ tr₁ a l hparts
    obtain ⟨⟨h1, h2, h3, h4, h5, h6, h7, h8, h9, h10⟩, hflow⟩ := hparts
    exact ⟨⟨h1, h2, h3, h4, h5, h6, h7, h8, h9, h10⟩,
      hflow.of_view rfl rfl rfl fun _ _ => rfl⟩
  unfold State.stepAcceptor at hs
  split at hs
  case h_1 hpc =>
    split at hs
    · obtain ⟨rfl, rfl⟩ := Prod.mk.inj (Option.some.inj hs)
      rw [List.append_nil]
      exact ⟨hlast, h⟩
    · obtain ⟨rfl, rfl⟩ := Prod.mk.inj (Option.some.inj hs)
      rw [List.append_nil]
      exact hacceptor _ _ ⟨hlast, h⟩
  case h_2 i hpc =>
    split at hs
    · split at hs
      · rename_i hq
        split at hs
        · obtain ⟨rfl, rfl⟩ := Prod.mk.inj (Option.some.inj hs)
          rw [List.append_nil]
          exact hacceptor _ _ (h.join hkept hlast hq)
        · obtain ⟨rfl, rfl⟩ := Prod.mk.inj (Option.some.inj hs)
          exact absurd (List.mem_singleton_self _) (hnone .guest)
      · obtain ⟨rfl, rfl⟩ := Prod.mk.inj (Option.some.inj hs)
        rw [List.append_nil]
        exact hacceptor _ _ ⟨hlast, h⟩
    · obtain ⟨rfl, rfl⟩ := Prod.mk.inj (Option.some.inj hs)
      rw [List.append_nil]
      exact hacceptor _ _ ⟨hlast, h⟩
  case h_3 c hpc =>
    split at hs
    · obtain ⟨s₁, hlaunch, heq⟩ := Option.map_eq_some_iff.mp hs
      obtain ⟨rfl, rfl⟩ := Prod.mk.inj heq
      obtain ⟨hlast', hflow⟩ := hacceptor .awaiting s₁.lastSeqNumber (h.launch hlast hlaunch)
      refine ⟨hlast', ?_⟩
      have hsame : ∀ y c' c₁ port, written y c' (tr ++ [.accepted c₁ port]) = written y c' tr ∧
          received y c' (tr ++ [.accepted c₁ port]) = received y c' tr := by
        intro y c' c₁ port
        simp [written, received, Event.writtenBy, Event.receivedBy]
      obtain ⟨hwrote, hgot, hqueued⟩ := hflow
      constructor <;> simp only [hsame] <;> assumption
    · simp at hs

theorem ready_kept (g q : UInt32) : Kept (ready g q : State θ) ∧ Carried (ready g q : State θ) ∧
    Lasting g (ready g q : State θ) ∧ Flow [] (ready g q : State θ) := by
  have hstate : ∀ i d, (ready g q : State θ).queueState i d = .inactive := fun _ _ => rfl
  have howner : ∀ i, (ready g q : State θ).owner i = 0 := fun _ => rfl
  have hconn : ∀ x c, (ready g q : State θ).connections x c = none := fun _ _ => rfl
  have hpackets : ∀ i d, (ready g q : State θ).packets i d = [] := fun _ _ => rfl
  have hprocess : ∀ x, (ready g q : State θ).process x = .running := fun _ => rfl
  refine ⟨⟨?_, ?_⟩, ?_, ?_, ?_⟩
  · constructor <;> simp [hstate, howner, hprocess]
  · constructor <;> simp [hstate, hconn, hprocess, QueueState.saysOpen]
  · constructor <;> simp [hconn, hpackets]
  · refine ⟨hprocess, rfl, ?_, ?_, ?_, ?_, fun x => hconn x 0, ?_, ?_, ?_⟩
    all_goals simp [hstate, howner, hconn, hpackets]
  · constructor
    · intro x c
      rw [sending_none (hconn x c)]
      rfl
    · intro x c
      rw [receiving_none (hconn x c)]
      rfl
    · intro i x
      rw [receiving_none (hconn x _), hpackets]
      exact ⟨[], [], [], rfl, rfl, by simp [NoBegin], by simp [NoBegin]⟩

variable [DecidableEq θ]

theorem Flow.stepOpener (h : Flow tr s) (hkept : Kept s) (hlast : Lasting g s) {t : θ}
    {es : List Event} (hs : s.stepOpener t = some (s', es)) :
    Lasting g s' ∧ Flow (tr ++ es) s' := by
  have hopeners : ∀ {s₁ : State θ} {tr₁ : List Event} (o : θ → Opener),
      Lasting g s₁ ∧ Flow tr₁ s₁ →
        Lasting g { s₁ with openers := o } ∧ Flow tr₁ { s₁ with openers := o } := by
    intro s₁ tr₁ o hparts
    obtain ⟨⟨h1, h2, h3, h4, h5, h6, h7, h8, h9, h10⟩, hflow⟩ := hparts
    exact ⟨⟨h1, h2, h3, h4, h5, h6, h7, h8, h9, h10⟩,
      hflow.of_view rfl rfl rfl fun _ _ => rfl⟩
  unfold State.stepOpener at hs
  split at hs
  case h_1 => simp at hs
  case h_2 i port hpc =>
    split at hs
    · split at hs
      · rename_i hq
        obtain ⟨rfl, rfl⟩ := Prod.mk.inj (Option.some.inj hs)
        refine hopeners _ ⟨hlast.acquire hkept, h.acquire hkept hlast ?_⟩
        intro d
        cases d with
        | guest => exact hq.2
        | host => exact hq.1
      · obtain ⟨rfl, rfl⟩ := Prod.mk.inj (Option.some.inj hs)
        rw [List.append_nil]
        exact hopeners _ ⟨hlast, h⟩
    · obtain ⟨rfl, rfl⟩ := Prod.mk.inj (Option.some.inj hs)
      rw [List.append_nil]
      exact hopeners _ ⟨hlast, h⟩
  case h_3 c hpc =>
    obtain ⟨s₁, hlaunch, heq⟩ := Option.map_eq_some_iff.mp hs
    obtain ⟨rfl, rfl⟩ := Prod.mk.inj heq
    rw [List.append_nil]
    exact hopeners _ (h.launch hlast hlaunch)

theorem Flow.step (h : Flow tr s) (hkept : Kept s) (hlast : Lasting g s) {i : Input θ}
    {es : List Event} (hok : Undying s i) (hs : step s i = some (s', es))
    (hnone : NoneFailed es) : Lasting g s' ∧ Flow (tr ++ es) s' := by
  unfold SocketForward.step at hs
  cases i with
  | restart x => exact hok.elim
  | cleanUp x =>
    simp only [State.stepCleanUp, hlast.process, reduceCtorEq] at hs
  | openConnection t port =>
    dsimp only at hs
    split at hs
    · obtain ⟨rfl, rfl⟩ := Prod.mk.inj (Option.some.inj hs)
      obtain ⟨h1, h2, h3, h4, h5, h6, h7, h8, h9, h10⟩ := hlast
      rw [List.append_nil]
      exact ⟨⟨h1, h2, h3, h4, h5, h6, h7, h8, h9, h10⟩, h.of_view rfl rfl rfl fun _ _ => rfl⟩
    · simp at hs
  | opener t =>
    obtain ⟨-, hs⟩ := Option.ite_none_right_eq_some.mp hs
    exact h.stepOpener hkept hlast hs
  | acceptor =>
    obtain ⟨-, hs⟩ := Option.ite_none_right_eq_some.mp hs
    exact h.stepAcceptor hkept hlast hs hnone
  | sender x c data =>
    dsimp only at hs
    split at hs
    · rename_i k hrun hk
      exact h.send hkept hlast hk hs hnone
    · simp at hs
  | receiver x c socketOk =>
    dsimp only at hs
    split at hs
    · rename_i k hrun hk
      exact h.receive hkept hlast hk hs hnone
    · simp at hs

end Flows

theorem payloads_begin {b : Packet} (hb : b.messageType = .BEGIN) (ps : List Packet) :
    payloads (b :: ps) = payloads ps := by
  simp [payloads, hb]

theorem payloads_append (ps qs : List Packet) :
    payloads (ps ++ qs) = payloads ps ++ payloads qs := by
  simp [payloads]

/-- While no process is restarted, the bytes that a side passes on to the socket of a
connection are the first of those that the other side read from its own, and all of them once
the END has come. -/
theorem data_in_order {θ : Type*} [DecidableEq θ] {g q : UInt32} {tr : List Event} {s : State θ}
    (run : (machine θ).Run Undying (ready g q) tr s) (x : Side) (c : ℕ) :
    payloads (received x c tr) <+: payloads (written x.peer c tr) ∧
    ((∃ p ∈ received x c tr, p.messageType = .END) →
      payloads (received x c tr) = payloads (written x.peer c tr)) := by
  obtain ⟨-, -, -, hflow⟩ : Kept s ∧ Carried s ∧ Lasting g s ∧ Flow tr s := by
    refine run.invariant (P := fun tr s => Kept s ∧ Carried s ∧ Lasting g s ∧ Flow tr s)
      (ready_kept g q) ?_
    intro tr es s s' i hparts hok hs
    obtain ⟨hkept, hcarried, hlast, hflow⟩ := hparts
    obtain ⟨hkept', hcarried', hnone⟩ :=
      hkept.step hcarried (undisturbed_of_running hlast i) hs
    exact ⟨hkept', hcarried', hflow.step hkept hlast hok hs hnone⟩
  have hgot := hflow.got x c
  cases hstage : s.receiving x c with
  | before =>
    rw [hstage] at hgot
    obtain hgot : received x c tr = [] := hgot
    simp [hgot, payloads]
  | during | after =>
    rw [hstage] at hgot
    obtain ⟨b, rest, hb, hwritten⟩ := hgot
    rw [hwritten, payloads_begin hb, payloads_append]
    refine ⟨List.prefix_append _ _, ?_⟩
    rintro ⟨p, hp, hend⟩
    obtain ⟨front, back, hsplit⟩ := List.append_of_mem hp
    have hlast := ((hflow.wrote x.peer c).orderly (b :: front) p (back ++ rest) (by
      simp [hwritten, hsplit])).2 hend
    obtain ⟨-, rfl⟩ := List.append_eq_nil_iff.mp hlast
    simp [payloads]

def sendTwo : List (Input Unit) :=
  [Input.openConnection () 5555, .opener ()] ++ acceptOne ++
    [Input.sender .host 1 [1, 2], .sender .host 1 [], .sender .host 1 [], .receiver .guest 1 true,
      .receiver .guest 1 true]

theorem data_in_order_two : ∃ tr s, (machine Unit).Run Undying (ready 0 0) tr s ∧
    payloads (received .guest 1 tr) = [1, 2] ∧
    payloads (received .guest 1 tr) <+: payloads (written .host 1 tr) := by
  obtain ⟨tr, s, run, hreceived⟩ := Machine.run_of_exec (machine Unit) Undying (ready 0 0)
    sendTwo (fun _ tr => payloads (received .guest 1 tr) = [1, 2]) (by decide +kernel)
  obtain ⟨hfirst, -⟩ := data_in_order run .guest 1
  exact ⟨tr, s, run, hreceived, hfirst⟩

end Rpi3Device.Vsoc.SocketForward
