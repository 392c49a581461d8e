import Rpi3Device.Dhcp.ClientSteps

/-!
# The client's interface along runs

A refusal halts the network: it clears the address and takes the interface down.
Nothing on the way back to the next discovery brings the interface up again, so
the discovery is sent while it is down. Giving up on rebinding, on the other
hand, leaves the address of the old lease in place, and so does a configuration
that fails after the address is set. Runs without these steps keep the two
invariants, and each of these steps breaks one.
-/

namespace Rpi3Device.Dhcp
open TransitionSystem Machine

def ClientInput.AllIo (p : IoOutcome → Prop) : ClientInput → Prop
  | .poll _ _ (.readable _ io _ _) => p io
  | _ => True

instance (p : IoOutcome → Prop) [DecidablePred p] : DecidablePred (ClientInput.AllIo p)
  | .poll _ _ (.readable _ io _ _) => inferInstanceAs (Decidable (p io))
  | .poll _ _ .timeout => .isTrue trivial
  | .poll _ _ .failed => .isTrue trivial
  | .evaluate _ _ _ => .isTrue trivial

namespace DhcpClient

theorem haltNetwork_isUp (c : DhcpClient) : (c.haltNetwork allSucceed).mInterface.isUp = false := by
  simp only [haltNetwork]
  exact setInterfaceUp_of_true (setInterfaceUp_succeeds _ false rfl rfl)

theorem haltNetwork_address (c : DhcpClient) {io : IoOutcome} (h : io.setAddress = true) :
    (c.haltNetwork io).mInterface.address = 0 := by
  simp only [haltNetwork]
  exact (setInterfaceUp_frame _ false io).2.trans (by simp [Interface.setAddress, h])

def TakesNak (c : DhcpClient) (input : ClientInput) : Prop :=
  ∃ r ∈ c.answer input, r.1.type = dhcpNak

instance (c : DhcpClient) (input : ClientInput) : Decidable (c.TakesNak input) :=
  inferInstanceAs (Decidable (∃ r ∈ c.answer input, r.1.type = dhcpNak))

def SentUp (tr : List Event) : Prop :=
  ∀ state up message, Event.sent state up message ∈ tr → up = true

theorem sentUp_append {tr es : List Event} : SentUp (tr ++ es) ↔ SentUp tr ∧ SentUp es := by
  simp only [SentUp, List.mem_append]
  constructor
  · intro h
    exact ⟨fun s u m hm => h s u m (.inl hm), fun s u m hm => h s u m (.inr hm)⟩
  · intro hparts s u m hcases
    obtain ⟨h₁, h₂⟩ := hparts
    rcases hcases with hm | hm
    · exact h₁ s u m hm
    · exact h₂ s u m hm

theorem sentUp_nil : SentUp [] := fun _ _ _ h => by simp at h

theorem sentUp_moved (state : State) : SentUp [.moved state] := fun _ _ _ h => by simp at h

theorem sentUp_sent {up : Bool} (hup : up = true) (state : State) (message : Message) :
    SentUp [.sent state up message] := by
  intro s u m h
  simp only [List.mem_singleton, Event.sent.injEq] at h
  exact h.2.1.trans hup

theorem sentUp_step {c c' : DhcpClient} {input : ClientInput} {es : List Event}
    (hup : c.mInterface.isUp = true) (hnak : ¬ c.TakesNak input)
    (ht : c.Transition input c' es) : c'.mInterface.isUp = true ∧ SentUp es := by
  cases ht with
  | start hp hs => exact ⟨hup, sentUp_moved _⟩
  | discover hp hs hm => exact ⟨hup, sentUp_sent hup _ _⟩
  | request hp hs hm => exact ⟨hup, sentUp_sent hup _ _⟩
  | giveUp hp hs ht => exact ⟨hup, sentUp_moved _⟩
  | renew hp hs ht => exact ⟨hup, sentUp_moved _⟩
  | keepLease hp hs ht timeout polling => exact ⟨hup, sentUp_nil⟩
  | rebind hp hs ht => exact ⟨hup, sentUp_moved _⟩
  | wait hp hn polling => exact ⟨hup, sentUp_nil⟩
  | offer hp hs hr ht => exact ⟨hup, sentUp_moved _⟩
  | ack hp hs hr ht hg =>
    refine ⟨c.configureDhcp_isUp _ _ _ _ hup, ?_⟩
    exact fun _ _ _ h => by simp at h
  | ackFailed hp hs hr ht hg polling => exact ⟨c.configureDhcp_isUp _ _ _ _ hup, sentUp_nil⟩
  | nak hp hs hr ht => exact absurd ⟨_, answer_eq hp hs hr _ _ _ _ _, ht⟩ hnak

theorem transition_of_takesNak {c c' : DhcpClient} {input : ClientInput} {es : List Event}
    (hnak : c.TakesNak input) (ht : c.Transition input c' es) :
    ∃ msg io, c.answer input = some (msg, io) ∧ c' = (c.haltNetwork io).enter .init := by
  obtain ⟨r, hanswer, htype⟩ := hnak
  cases ht with
  | wait hp hn polling => exact absurd htype (hn _ hanswer).2
  | offer hp hs hr ht => simp [answer, State.AwaitsAck, hs] at hanswer
  | ack hp hs hr ht hg =>
    rw [answer_eq hp hs hr] at hanswer
    obtain rfl := Option.some.inj hanswer
    simp [ht, dhcpAck, dhcpNak] at htype
  | ackFailed hp hs hr ht hg polling =>
    rw [answer_eq hp hs hr] at hanswer
    obtain rfl := Option.some.inj hanswer
    simp [ht, dhcpAck, dhcpNak] at htype
  | nak hp hs hr ht => exact ⟨_, _, answer_eq hp hs hr _ _ _ _ _, rfl⟩
  | _ => simp [answer] at hanswer

theorem allIo_answer {p : IoOutcome → Prop} {c : DhcpClient} {input : ClientInput}
    {r : Message × IoOutcome} (hio : input.AllIo p) (hr : c.answer input = some r) : p r.2 := by
  obtain ⟨t₁, t₂, packet, n₁, n₂, rfl, -⟩ := input_of_answer hr
  exact hio

theorem discover_down_of_takesNak {c c' : DhcpClient} {input : ClientInput} {es : List Event}
    (hnak : c.TakesNak input) (hio : input.AllIo (· = allSucceed))
    (ht : c.Transition input c' es) (n₁ n₂ n₃ n₄ : UInt64) (a b : Adjustment) :
    ∃ c₁ c₂ message, c'.step (.evaluate n₁ n₂ a) = some (c₁, [.moved .selecting]) ∧
      c₁.step (.evaluate n₃ n₄ b) = some (c₂, [.sent .selecting false message]) := by
  obtain ⟨msg, io, hanswer, rfl⟩ := transition_of_takesNak hnak ht
  obtain rfl : io = allSucceed := allIo_answer hio hanswer
  rw [← c.haltNetwork_isUp]
  exact ⟨_, _, _, rfl, rfl⟩

end DhcpClient

open DhcpClient in
/-- Without refusals every message is sent while the interface is up, and after
each refusal the next one is not. -/
theorem sent_while_up {c₀ : DhcpClient} (h₀ : c₀.Initialised) :
    (∀ tr c, clientMachine.Run (fun c input => ¬ c.TakesNak input) c₀ tr c → SentUp tr) ∧
    ∀ (c c' : DhcpClient) (input : ClientInput) (es : List Event),
      c.TakesNak input → input.AllIo (· = allSucceed) →
      c.step input = some (c', es) → ∀ n₁ n₂ n₃ n₄ a b,
      ∃ c₁ c₂ message, c'.step (.evaluate n₁ n₂ a) = some (c₁, [.moved .selecting]) ∧
        c₁.step (.evaluate n₃ n₄ b) = some (c₂, [.sent .selecting false message]) := by
  constructor
  · intro tr c run
    have hinv : c.mInterface.isUp = true ∧ SentUp tr := by
      refine run.invariant (P := fun tr c => c.mInterface.isUp = true ∧ SentUp tr)
        ⟨h₀.started.isUp, sentUp_nil⟩ ?_
      intro tr es c c' input h hnak hs
      obtain ⟨hup, htr⟩ := h
      obtain ⟨hup', hes⟩ := sentUp_step hup hnak (step_transition hs)
      exact ⟨hup', sentUp_append.mpr ⟨htr, hes⟩⟩
    exact hinv.2
  · intro c c' input es hnak hio hs
    exact discover_down_of_takesNak hnak hio (step_transition hs)

open DhcpClient in
theorem sent_while_up_request : ∃ tr c, clientMachine.Run (fun c input => ¬ c.TakesNak input)
    (fresh #v[2, 0, 0, 0, 0, 1]) tr c ∧ c.mState = .requesting ∧ SentUp tr := by
  obtain ⟨tr, c, run, hs⟩ := run_of_exec clientMachine (fun c input => ¬ c.TakesNak input)
    (fresh #v[2, 0, 0, 0, 0, 1]) (toRequest #v[2, 0, 0, 0, 0, 1])
    (fun c _ => c.mState = .requesting) (by decide +kernel)
  exact ⟨tr, c, run, hs, (sent_while_up (fresh_initialised _)).1 tr c run⟩

open DhcpClient in
/-- The server answers the first request with a refusal. -/
theorem sent_while_down : ¬ ∀ c₀ tr c, c₀.Initialised →
    clientMachine.Run (fun _ input => input.AllIo (· = allSucceed)) c₀ tr c → SentUp tr := by
  intro h
  obtain ⟨tr, c, run, hdown⟩ := run_of_exec clientMachine
    (fun _ input => input.AllIo (· = allSucceed)) (fresh #v[2, 0, 0, 0, 0, 1])
    (toRequest #v[2, 0, 0, 0, 0, 1] ++
      [arrival (Message.nack 2 (Message.request 2 #v[2, 0, 0, 0, 0, 1] 0x0500000a 0x0100000a)
        0x0100000a) allSucceed, evaluateAt 0, evaluateAt 0])
    (fun _ tr => tr.any (fun e => match e with | .sent _ up _ => !up | _ => false) = true)
    (by decide +kernel)
  obtain ⟨e, he, hsent⟩ := List.any_eq_true.mp hdown
  cases e with
  | sent state up message =>
    have hup := h _ tr c (fresh_initialised _) run state up message he
    simp [hup] at hsent
  | _ => simp at hsent

namespace DhcpClient

def HoldsNoLease (c : DhcpClient) : Prop :=
  c.mState = .init ∨ c.mState = .selecting ∨ c.mState = .requesting

def Unleased (c : DhcpClient) : Prop := c.HoldsNoLease → c.mInterface.address = 0

/-- The step neither gives up on rebinding with an address set, nor fails to
configure an acknowledged request after it has set the address. -/
def KeepsUnleased (c : DhcpClient) (input : ClientInput) : Prop :=
  match input with
  | .evaluate _ _ _ => c.mState = .rebinding → kMaxTimeout ≤ c.mNextTimeout →
      c.mInterface.address = 0
  | .poll t₁ t₂ result => c.mState = .requesting →
      ∀ r ∈ c.answer (.poll t₁ t₂ result), r.1.type = dhcpAck →
        SetsAddress r.1 r.2 c.mInterface → ¬ Grants r.1 r.2 c.mInterface → r.1.yiaddr = 0

instance (c : DhcpClient) : DecidablePred c.KeepsUnleased
  | .evaluate _ _ _ => inferInstanceAs (Decidable (c.mState = .rebinding →
      kMaxTimeout ≤ c.mNextTimeout → c.mInterface.address = 0))
  | .poll t₁ t₂ result => inferInstanceAs (Decidable (c.mState = .requesting →
      ∀ r ∈ c.answer (.poll t₁ t₂ result), r.1.type = dhcpAck →
        SetsAddress r.1 r.2 c.mInterface → ¬ Grants r.1 r.2 c.mInterface → r.1.yiaddr = 0))

theorem unleased_of_address {c : DhcpClient} (h : c.mInterface.address = 0) : c.Unleased :=
  fun _ => h

theorem unleased_of_state {c : DhcpClient} (h : ¬ c.HoldsNoLease) : c.Unleased :=
  fun hs => absurd hs h

theorem configureDhcp_address_eq_zero_iff {c : DhcpClient} (h : c.mInterface.address = 0)
    (msg : Message) (io : IoOutcome) (n₁ n₂ : UInt64) :
    (c.configureDhcp msg io n₁ n₂).2.mInterface.address = 0 ↔
      (SetsAddress msg io c.mInterface → msg.yiaddr = 0) := by
  by_cases hset : SetsAddress msg io c.mInterface
  · rw [c.configureDhcp_address_of_sets n₁ n₂ hset]
    exact ⟨fun hy _ => hy, fun hy => hy hset⟩
  · rw [c.configureDhcp_address_of_not n₁ n₂ hset]
    exact iff_of_true h fun hset' => absurd hset' hset

theorem unleased_step_iff {c c' : DhcpClient} {input : ClientInput} {es : List Event}
    (h : c.Unleased) (hio : input.AllIo (·.setAddress = true)) (ht : c.Transition input c' es) :
    c'.Unleased ↔ c.KeepsUnleased input := by
  cases ht with
  | start hp hs =>
    exact iff_of_true (unleased_of_address (h (.inl hs))) fun hr => by simp [hs] at hr
  | discover hp hs hm =>
    exact iff_of_true h fun hr => by simp [hs] at hr
  | request hp hs hm =>
    refine iff_of_true h fun hr hmax => ?_
    cases hs with
    | requesting hq => simp [hr] at hq
    | renewing hq => simp [hr] at hq
    | rebinding _ hlt => exact absurd hmax (UInt32.not_le.mpr hlt)
  | giveUp hp hs ht =>
    rcases hs with hs | hs
    · exact iff_of_true (unleased_of_address (h (.inr (.inr hs)))) fun hr => by simp [hs] at hr
    · exact ⟨fun h' _ _ => h' (.inl rfl), fun hk => unleased_of_address (hk hs ht)⟩
  | renew hp hs ht =>
    exact iff_of_true (unleased_of_state (by simp [HoldsNoLease, enter])) fun hr => by
      simp [hs] at hr
  | keepLease hp hs ht timeout polling =>
    exact iff_of_true h fun hr => by simp [hs] at hr
  | rebind hp hs ht =>
    exact iff_of_true (unleased_of_state (by simp [HoldsNoLease, enter])) fun hr => by
      simp [hs] at hr
  | wait hp hn polling =>
    exact iff_of_true h fun _ r hr htype => absurd htype (hn r hr).1
  | offer hp hs hr ht =>
    exact iff_of_true (unleased_of_address (h (.inr (.inl hs)))) fun hq => by simp [hs] at hq
  | ack hp hs hr ht hg =>
    refine iff_of_true (unleased_of_state (by simp [HoldsNoLease, enter])) fun _ r hr' => ?_
    rw [answer_eq hp hs hr] at hr'
    obtain rfl := Option.some.inj hr'
    exact fun _ _ hng => absurd hg hng
  | @ackFailed _ _ n₁ n₂ _ io msg hp hs hr ht hg polling =>
    have hstate := (c.configureDhcp_frame msg io n₁ n₂).state
    by_cases hq : c.mState = .requesting
    · have haddr := configureDhcp_address_eq_zero_iff (h (.inr (.inr hq))) msg io n₁ n₂
      constructor
      · intro h' _ r hr' _ hset _
        rw [answer_eq hp hs hr] at hr'
        obtain rfl := Option.some.inj hr'
        exact haddr.mp (h' (.inr (.inr (hstate.trans hq)))) hset
      · intro hk
        refine unleased_of_address (haddr.mpr fun hset => ?_)
        exact hk hq (msg, io) (answer_eq hp hs hr _ _ _ _ _) ht hset hg
    · refine iff_of_true (unleased_of_state ?_) fun hq' => absurd hq' hq
      have hne : c.mState ≠ .init ∧ c.mState ≠ .selecting := by
        rcases hs with hs | hs | hs <;> simp [hs]
      simp [HoldsNoLease, hstate, hq, hne]
  | nak hp hs hr ht =>
    refine iff_of_true (unleased_of_address (c.haltNetwork_address hio)) fun _ r hr' => ?_
    rw [answer_eq hp hs hr] at hr'
    obtain rfl := Option.some.inj hr'
    exact fun htype => by simp [ht, dhcpAck, dhcpNak] at htype

end DhcpClient

open DhcpClient in
/-- Runs of steps that meet the condition keep the address clear while no lease is
held, and every other step from such a state leaves an address behind. -/
theorem no_address_without_lease {c₀ : DhcpClient} (h₀ : c₀.Initialised) :
    (∀ tr c, clientMachine.Run
      (fun c input => input.AllIo (·.setAddress = true) ∧ c.KeepsUnleased input) c₀ tr c →
      c.Unleased) ∧
    ∀ (c c' : DhcpClient) (input : ClientInput) (es : List Event), c.Unleased →
      input.AllIo (·.setAddress = true) → c.step input = some (c', es) →
      (c'.Unleased ↔ c.KeepsUnleased input) := by
  constructor
  · intro tr c run
    refine run.invariant (P := fun _ c => c.Unleased) (unleased_of_address h₀.started.address) ?_
    intro tr es c c' input h hparts hs
    obtain ⟨hio, hk⟩ := hparts
    exact (unleased_step_iff h hio (step_transition hs)).mpr hk
  · intro c c' input es h hio hs
    exact unleased_step_iff h hio (step_transition hs)

open DhcpClient in
theorem no_address_without_lease_refused : ∃ tr c, clientMachine.Run
    (fun c input => input.AllIo (·.setAddress = true) ∧ c.KeepsUnleased input)
    (fresh #v[2, 0, 0, 0, 0, 1]) tr c ∧ c.mState = .init ∧ c.mInterface.address = 0 := by
  obtain ⟨tr, c, run, hs⟩ := run_of_exec clientMachine
    (fun c input => input.AllIo (·.setAddress = true) ∧ c.KeepsUnleased input)
    (fresh #v[2, 0, 0, 0, 0, 1])
    (toBound #v[2, 0, 0, 0, 0, 1] ++
      [evaluateAt 1000000000000, evaluateAt 1000000000000, evaluateAt 1000000000000,
        arrival (Message.nack 2 (Message.request 3 #v[2, 0, 0, 0, 0, 1] 0x0500000a inaddrBroadcast)
          0x0100000a) allSucceed])
    (fun c _ => c.mState = .init) (by decide +kernel)
  exact ⟨tr, c, run, hs,
    (no_address_without_lease (fresh_initialised _)).1 tr c run (.inl hs)⟩

open DhcpClient in
/-- A bound client that gives up on rebinding, with every request to the kernel successful. -/
theorem address_without_lease : ¬ ∀ c₀ tr c, c₀.Initialised →
    clientMachine.Run (fun _ input => input.AllIo (· = allSucceed)) c₀ tr c → c.Unleased := by
  intro h
  obtain ⟨tr, c, run, hs, haddr⟩ := run_of_exec clientMachine
    (fun _ input => input.AllIo (· = allSucceed)) (fresh #v[2, 0, 0, 0, 0, 1])
    (toBound #v[2, 0, 0, 0, 0, 1] ++ [evaluateAt 1000000000000, evaluateAt 1000000000000] ++
      (List.replicate 5 [evaluateAt 1000000000000, .poll 0 0 .timeout]).flatten ++
      [evaluateAt 1000000000000])
    (fun c _ => c.mState = .init ∧ c.mInterface.address = 0x0500000a) (by decide +kernel)
  have hzero := h _ tr c (fresh_initialised _) run (.inl hs)
  simp [hzero] at haddr

end Rpi3Device.Dhcp
