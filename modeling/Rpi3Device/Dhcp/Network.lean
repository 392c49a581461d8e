import Rpi3Device.Dhcp.ClientRenewal
import Rpi3Device.Dhcp.ServerReplies

/-!
# One server and its clients

All clients are attached to one interface of the server. Datagrams are bytes;
those that were sent stay in the network and may be delivered any number of
times, in any order, or never, and every client may read every reply. A client
checks the transaction id of a reply but not the hardware address in it, and
the transaction ids of all clients count from 1.
-/

namespace Rpi3Device.Dhcp
open TransitionSystem Machine

structure Network (ι : Type*) where
  server : DhcpServer
  client : ι → DhcpClient
  requests : List (List UInt8)
  replies : List (List UInt8)

inductive NetworkInput (ι : Type*) where
  | client (i : ι) (input : ClientInput)
  | server (input : ServerInput)

def ClientInput.Carries (replies : List (List UInt8)) : ClientInput → Prop
  | .poll _ _ (.readable (some packet) _ _ _) => packet.drop headersSize ∈ replies
  | _ => True

instance (replies : List (List UInt8)) : DecidablePred (ClientInput.Carries replies)
  | .poll _ _ (.readable (some packet) _ _ _) =>
    inferInstanceAs (Decidable (packet.drop headersSize ∈ replies))
  | .poll _ _ (.readable none _ _ _) => .isTrue trivial
  | .poll _ _ .timeout => .isTrue trivial
  | .poll _ _ .failed => .isTrue trivial
  | .evaluate _ _ _ => .isTrue trivial

def ServerInput.Carries (requests : List (List UInt8)) (interfaceIndex : UInt32)
    (input : ServerInput) : Prop :=
  ∀ r ∈ input.received, r.1 ∈ requests ∧ r.2 = interfaceIndex

instance (requests : List (List UInt8)) (interfaceIndex : UInt32) :
    DecidablePred (ServerInput.Carries requests interfaceIndex) := fun input =>
  inferInstanceAs (Decidable (∀ r ∈ input.received, r.1 ∈ requests ∧ r.2 = interfaceIndex))

def transmitted (es : List Event) : List (List UInt8) :=
  es.filterMap fun e => match e with
    | .sent _ true message => some message.wire
    | _ => none

namespace Network
variable {ι : Type*} [DecidableEq ι]

def step (interfaceIndex : UInt32) (n : Network ι) :
    NetworkInput ι → Option (Network ι × List (ι × Event))
  | .client i input =>
    if input.Carries n.replies then
      match (n.client i).step input with
      | none => none
      | some (c, es) => some ({ n with
          client := Function.update n.client i c
          requests := n.requests ++ transmitted es }, es.map fun e => (i, e))
    else none
  | .server input =>
    if input.Carries n.requests interfaceIndex then
      match n.server.round input with
      | none => none
      | some (s, sent) => some ({ n with
          server := s
          replies := n.replies ++ sent.map fun r => r.message.wire }, [])
    else none

end Network

def networkMachine {ι : Type*} [DecidableEq ι] (interfaceIndex : UInt32) :
    Machine (Network ι) (NetworkInput ι) (ι × Event) := ⟨Network.step interfaceIndex⟩

def eventsOf {ι : Type*} [DecidableEq ι] (i : ι) (tr : List (ι × Event)) : List Event :=
  tr.filterMap fun e => if e.1 = i then some e.2 else none

namespace DhcpServer

/-- The reply arrives as it was sent, and an acknowledgement tells the lease that
the table holds for the hardware address in it. -/
structure Reports (s : DhcpServer) (i : UInt32) (reply : Message) : Prop where
  arrives : Message.empty.receive reply.wire = reply
  lease : reply.type = dhcpAck → s.leaseAddress ⟨i, reply.chaddr⟩ = some reply.yiaddr

theorem getOfferAddress_dns {s s' : DhcpServer} {i : UInt32} {mac : MacAddress}
    {r : Except String UInt32} (h : s.getOfferAddress i mac = some (r, s')) :
    s'.mDnsServers = s.mDnsServers := by
  rcases getOfferAddress_cases h with ⟨-, -, -, rfl⟩ | ⟨-, -, -, -, rfl⟩ | ⟨-, -, -, -, rfl⟩
  · rfl
  · rfl
  · rfl

theorem sendLease_reports {type : UInt8} {s s' : DhcpServer} {input : ServerInput} {m : Message}
    {i : UInt32} {sent : List Sent}
    (h : sendLease (Message.leaseReply type) s input m i = some (s', sent)) :
    ∀ r ∈ sent, s'.Reports i r.message := by
  simp only [sendLease] at h
  split at h
  · simp at h
  · simp only [Option.some.injEq, Prod.mk.injEq] at h
    simp [← h.2]
  · rename_i a s₁ hcall
    split at h
    · simp only [Option.some.injEq, Prod.mk.injEq] at h
      simp [← h.2]
    · rename_i serverAddress haddr
      simp only [Option.some.injEq, Prod.mk.injEq] at h
      obtain ⟨rfl, rfl⟩ := h
      have hdns : s₁.mDnsServers.length ≤ 4 := by
        rw [getOfferAddress_dns hcall]
        exact s.updateDnsServers_length input
      have hlay := leaseReply_layout type s₁.sNextTransactionId m serverAddress a s₁.mNetmask
        s₁.mGateway hdns
      have hread := leaseReply_readsBack type s₁.sNextTransactionId m serverAddress a s₁.mNetmask
        s₁.mGateway hdns
      intro r hr
      obtain rfl := List.mem_singleton.mp hr
      refine ⟨hlay.receive_wire hread.size_le fun _ _ => rfl, fun _ => ?_⟩
      have hlease := leaseAddress_of_ok hcall
      rw [hlay.chaddr_eq, hlay.yiaddr_eq]
      exact hlease

theorem sendNack_reports (s s' : DhcpServer) (input : ServerInput) (m : Message) (i j : UInt32) :
    ∀ r ∈ (s.sendNack input m i).2, s'.Reports j r.message := by
  unfold sendNack
  split
  · simp
  · rename_i serverAddress haddr
    have hlay := nack_layout s.sNextTransactionId m serverAddress
    have htype : (Message.nack s.sNextTransactionId m serverAddress).type = dhcpNak :=
      hlay.type_eq (nackOptions_wellTagged _) (by simp [nackOptions])
    intro r hr
    obtain rfl := List.mem_singleton.mp hr
    refine ⟨hlay.receive_wire ?_ fun _ _ => rfl, fun hack => ?_⟩
    · rw [hlay.size]
      simp [nackOptions, TagLengthValue.encode, optionsOffset, capacity]
    · simp [htype, dhcpAck, dhcpNak] at hack

theorem dispatch_reports {s s' : DhcpServer} {input : ServerInput} {m : Message} {i : UInt32}
    {sent : List Sent} (h : s.dispatch input m i = some (s', sent)) :
    ∀ r ∈ sent, s'.Reports i r.message := by
  simp only [dispatch] at h
  split at h
  · exact sendLease_reports h
  · split at h
    · split at h
      · simp at h
      · exact sendLease_reports h
      · rename_i s₁ hv
        have hreports := s₁.sendNack_reports s' input m i i
        rw [Option.some.inj h] at hreports
        exact hreports
    · simp only [Option.some.injEq, Prod.mk.injEq] at h
      simp [← h.2]

theorem round_reports {s s' : DhcpServer} {input : ServerInput} {sent : List Sent} {i : UInt32}
    (hi : ∀ r ∈ input.received, r.2 = i) (h : s.round input = some (s', sent)) :
    ∀ r ∈ sent, s'.Reports i r.message := by
  simp only [round] at h
  split at h
  · simp only [Option.some.injEq, Prod.mk.injEq] at h
    simp [← h.2]
  · rename_i datagram j hr
    obtain rfl : j = i := hi _ hr
    split at h
    · simp only [Option.some.injEq, Prod.mk.injEq] at h
      simp [← h.2]
    · split at h
      · simp only [Option.some.injEq, Prod.mk.injEq] at h
        simp [← h.2]
      · exact dispatch_reports h

end DhcpServer

namespace DhcpClient

/-- An acknowledgement that is configured bears the client's own hardware address. -/
def TakesOwn (c : DhcpClient) (input : ClientInput) : Prop :=
  ∀ r ∈ c.answer input, r.1.type = dhcpAck → Grants r.1 r.2 c.mInterface →
    r.1.chaddr = c.mInterface.mMacAddress

instance (c : DhcpClient) : DecidablePred c.TakesOwn := fun input =>
  inferInstanceAs (Decidable (∀ r ∈ c.answer input, r.1.type = dhcpAck →
    Grants r.1 r.2 c.mInterface → r.1.chaddr = c.mInterface.mMacAddress))

theorem haltNetwork_mac (c : DhcpClient) (io : IoOutcome) :
    (c.haltNetwork io).mInterface.mMacAddress = c.mInterface.mMacAddress := by
  simp only [haltNetwork]
  refine (setInterfaceUp_frame _ false io).1.trans ?_
  unfold Interface.setAddress
  split_ifs <;> rfl

theorem transition_mac {c c' : DhcpClient} {input : ClientInput} {es : List Event}
    (ht : c.Transition input c' es) : c'.mInterface.mMacAddress = c.mInterface.mMacAddress := by
  cases ht with
  | ack => exact (c.configureDhcp_frame _ _ _ _).mac
  | ackFailed => exact (c.configureDhcp_frame _ _ _ _).mac
  | nak => exact c.haltNetwork_mac _
  | _ => rfl

theorem transition_grant {c c' : DhcpClient} {input : ClientInput} {es : List Event}
    (ht : c.Transition input c' es) (tr : List Event) :
    lastGrant (tr ++ es) = lastGrant tr ∨
    ∃ r, c.answer input = some r ∧ r.1.type = dhcpAck ∧ Grants r.1 r.2 c.mInterface ∧
      lastGrant (tr ++ es) = some r.1 := by
  cases ht with
  | ack hp hs hr ht hg =>
    exact .inr ⟨_, answer_eq hp hs hr _ _ _ _ _, ht, hg, by simp [lastGrant]⟩
  | _ => exact .inl (by simp [lastGrant])

def BoundToGrant (c : DhcpClient) (tr : List Event) : Prop :=
  c.mState = .bound → ∃ ack ∈ lastGrant tr, c.mInterface.address = ack.yiaddr

theorem transition_boundToGrant {c c' : DhcpClient} {input : ClientInput} {tr es : List Event}
    (h : c.BoundToGrant tr) (ht : c.Transition input c' es) : c'.BoundToGrant (tr ++ es) := by
  cases ht with
  | discover hp hs hm => exact fun hb => absurd (hs.symm.trans hb) (by decide)
  | request hp hs hm => exact fun hb => absurd hb (awaitsAck_ne_bound hs.awaitsAck)
  | keepLease hp hs ht timeout polling =>
    rw [List.append_nil]
    exact h
  | wait hp hn polling =>
    rw [List.append_nil]
    exact h
  | ack hp hs hr ht hg =>
    exact fun _ => ⟨_, by simp [lastGrant], c.configureDhcp_address_of_sets _ _ hg.toSetsAddress⟩
  | ackFailed hp hs hr ht hg polling =>
    exact fun hb => absurd ((c.configureDhcp_frame _ _ _ _).state.symm.trans hb)
      (awaitsAck_ne_bound hs)
  | _ => exact fun hb => by simp [enter] at hb

theorem answer_mem {c : DhcpClient} {input : ClientInput} {replies : List (List UInt8)}
    (hc : input.Carries replies) {r : Message × IoOutcome} (hr : c.answer input = some r) :
    ∃ d ∈ replies, r.1 = Message.empty.receive d := by
  obtain ⟨t₁, t₂, packet, n₁, n₂, rfl, hmsg⟩ := input_of_answer hr
  cases packet with
  | none => simp [receiveDhcpMessage] at hmsg
  | some bytes =>
    refine ⟨_, hc, ?_⟩
    simp only [receiveDhcpMessage] at hmsg
    split_ifs at hmsg with hvalid
    rw [← Option.some.inj hmsg]
    simp only [receiveRawUdp] at hvalid ⊢
    split_ifs at hvalid ⊢
    · simp at hvalid
    · rfl

end DhcpClient

namespace Network
variable {ι : Type*} [DecidableEq ι]

structure Initial (n : Network ι) : Prop where
  server : ∃ start finish netmask gateway exclude,
    n.server = DhcpServer.new start finish netmask gateway exclude
  client : ∀ i, (n.client i).Initialised
  mac : Function.Injective fun i => (n.client i).mInterface.mMacAddress
  requests : n.requests = []
  replies : n.replies = []

def TakesOwn (n : Network ι) : NetworkInput ι → Prop
  | .client i input => (n.client i).TakesOwn input
  | .server _ => True

instance (n : Network ι) : DecidablePred n.TakesOwn
  | .client i input => inferInstanceAs (Decidable ((n.client i).TakesOwn input))
  | .server _ => .isTrue trivial

/-- The server's table accounts for every acknowledgement in the network and for
every address that a client has configured last. -/
structure LeaseInv (interfaceIndex : UInt32) (mac : ι → MacAddress) (tr : List (ι × Event))
    (n : Network ι) : Prop where
  refines : ∃ A, n.server.Refines A
  mac_eq : ∀ i, (n.client i).mInterface.mMacAddress = mac i
  replies : ∀ d ∈ n.replies, (Message.empty.receive d).type = dhcpAck →
    n.server.leaseAddress ⟨interfaceIndex, (Message.empty.receive d).chaddr⟩ =
      some (Message.empty.receive d).yiaddr
  granted : ∀ i, ∀ ack ∈ lastGrant (eventsOf i tr),
    n.server.leaseAddress ⟨interfaceIndex, mac i⟩ = some ack.yiaddr
  bound : ∀ i, (n.client i).BoundToGrant (eventsOf i tr)

theorem eventsOf_self (i : ι) (tr : List (ι × Event)) (es : List Event) :
    eventsOf i (tr ++ es.map fun e => (i, e)) = eventsOf i tr ++ es := by
  simp [eventsOf, List.filterMap_append, List.filterMap_map]

theorem eventsOf_other {i j : ι} (h : i ≠ j) (tr : List (ι × Event)) (es : List Event) :
    eventsOf j (tr ++ es.map fun e => (i, e)) = eventsOf j tr := by
  simp [eventsOf, List.filterMap_append, List.filterMap_map, h]

variable {interfaceIndex : UInt32} {mac : ι → MacAddress} {tr : List (ι × Event)} {n : Network ι}

theorem LeaseInv.client_step (h : LeaseInv interfaceIndex mac tr n) {i : ι} {input : ClientInput}
    (hown : (n.client i).TakesOwn input) (hcarries : input.Carries n.replies) {c : DhcpClient}
    {es : List Event} (hs : (n.client i).step input = some (c, es)) (requests : List (List UInt8)) :
    LeaseInv interfaceIndex mac (tr ++ es.map fun e => (i, e))
      { n with client := Function.update n.client i c, requests := requests } := by
  have ht := DhcpClient.step_transition hs
  refine ⟨h.refines, fun j => ?_, h.replies, fun j ack hack => ?_, fun j => ?_⟩
  · by_cases hj : j = i
    · subst hj
      simpa using (DhcpClient.transition_mac ht).trans (h.mac_eq j)
    · simpa [hj] using h.mac_eq j
  · by_cases hj : j = i
    · subst hj
      rw [eventsOf_self] at hack
      rcases DhcpClient.transition_grant ht (eventsOf j tr) with hsame | ⟨r, hr, htype, hg, hlast⟩
      · exact h.granted j ack (hsame ▸ hack)
      · rw [hlast, Option.mem_some_iff] at hack
        subst hack
        obtain ⟨d, hd, hrd⟩ := DhcpClient.answer_mem hcarries hr
        have hlease := h.replies d hd (hrd ▸ htype)
        rw [← hrd, hown r hr htype hg, h.mac_eq j] at hlease
        exact hlease
    · rw [eventsOf_other (Ne.symm hj)] at hack
      exact h.granted j ack hack
  · by_cases hj : j = i
    · subst hj
      rw [eventsOf_self]
      simpa using DhcpClient.transition_boundToGrant (h.bound j) ht
    · rw [eventsOf_other (Ne.symm hj)]
      simpa [hj] using h.bound j

theorem LeaseInv.server_step (h : LeaseInv interfaceIndex mac tr n) {input : ServerInput}
    (hcarries : input.Carries n.requests interfaceIndex) {s : DhcpServer} {sent : List Sent}
    (hs : n.server.round input = some (s, sent)) :
    LeaseInv interfaceIndex mac tr
      { n with server := s, replies := n.replies ++ sent.map fun r => r.message.wire } := by
  obtain ⟨A, hA⟩ := h.refines
  have hsteps := DhcpServer.round_leaseSteps hs
  have hkeep {k : Lease} {a : UInt32} (ha : n.server.leaseAddress k = some a) :
      s.leaseAddress k = some a := hA.leaseAddress_of_steps hsteps ha
  refine ⟨?_, h.mac_eq, fun d hd htype => ?_, fun i ack hack => hkeep (h.granted i ack hack),
    h.bound⟩
  · obtain ⟨B, -, hB⟩ := hA.steps hsteps
    exact ⟨B, hB⟩
  · rcases List.mem_append.mp hd with hd | hd
    · exact hkeep (h.replies d hd htype)
    · obtain ⟨r, hr, rfl⟩ := List.mem_map.mp hd
      have hreports := DhcpServer.round_reports (fun r hr => (hcarries r hr).2) hs r hr
      rw [hreports.arrives] at htype ⊢
      exact hreports.lease htype

theorem LeaseInv.step (h : LeaseInv interfaceIndex mac tr n) {input : NetworkInput ι}
    (hown : n.TakesOwn input) {n' : Network ι} {es : List (ι × Event)}
    (hs : n.step interfaceIndex input = some (n', es)) :
    LeaseInv interfaceIndex mac (tr ++ es) n' := by
  cases input with
  | client i input =>
    simp only [Network.step] at hs
    split_ifs at hs with hcarries
    cases hc : (n.client i).step input with
    | none => simp [hc] at hs
    | some r =>
      simp only [hc, Option.some.injEq, Prod.mk.injEq] at hs
      obtain ⟨rfl, rfl⟩ := hs
      exact h.client_step hown hcarries hc _
  | server input =>
    simp only [Network.step] at hs
    split_ifs at hs with hcarries
    cases hc : n.server.round input with
    | none => simp [hc] at hs
    | some r =>
      simp only [hc, Option.some.injEq, Prod.mk.injEq] at hs
      obtain ⟨rfl, rfl⟩ := hs
      rw [List.append_nil]
      exact h.server_step hcarries hc

theorem Initial.leaseInv (h : n.Initial) (interfaceIndex : UInt32) :
    LeaseInv interfaceIndex (fun i => (n.client i).mInterface.mMacAddress) [] n := by
  obtain ⟨start, finish, netmask, gateway, exclude, hserver⟩ := h.server
  refine ⟨⟨_, hserver ▸ DhcpServer.new_refines start finish netmask gateway exclude⟩,
    fun _ => rfl, ?_, ?_, fun i hb => ?_⟩
  · simp [h.replies]
  · simp [eventsOf, lastGrant]
  · exact absurd ((h.client i).started.state.symm.trans hb) (by decide)

end Network

/-- Among clients that only take acknowledgements meant for them, no two have
last configured the same address, and no two that are bound share one. -/
theorem granted_addresses_differ {ι : Type*} [DecidableEq ι] {interfaceIndex : UInt32}
    {n₀ n : Network ι} (h₀ : n₀.Initial) {tr : List (ι × Event)}
    (run : (networkMachine interfaceIndex).Run (fun n input => n.TakesOwn input) n₀ tr n)
    {i j : ι} (hij : i ≠ j) :
    (∀ a ∈ lastGrant (eventsOf i tr), ∀ b ∈ lastGrant (eventsOf j tr), a.yiaddr ≠ b.yiaddr) ∧
    ((n.client i).mState = .bound → (n.client j).mState = .bound →
      (n.client i).mInterface.address ≠ (n.client j).mInterface.address) := by
  have hinv := run.invariant (h₀.leaseInv interfaceIndex) fun hinv hown hs => hinv.step hown hs
  have hdiffer : ∀ a ∈ lastGrant (eventsOf i tr), ∀ b ∈ lastGrant (eventsOf j tr),
      a.yiaddr ≠ b.yiaddr := by
    intro a ha b hb heq
    obtain ⟨A, hA⟩ := hinv.refines
    have hi := hinv.granted i a ha
    have hj := hinv.granted j b hb
    rw [← heq] at hj
    exact hij (h₀.mac (Lease.mk.inj (hA.leaseAddress_injective hi hj)).2)
  refine ⟨hdiffer, fun hi hj => ?_⟩
  obtain ⟨a, ha, haddr⟩ := hinv.bound i hi
  obtain ⟨b, hb, haddr'⟩ := hinv.bound j hj
  rw [haddr, haddr']
  exact hdiffer a ha b hb

def Network.pairMac : Bool → MacAddress
  | false => #v[2, 0, 0, 0, 0, 1]
  | true => #v[2, 0, 0, 0, 0, 2]

def Network.pair : Network Bool where
  server := DhcpServer.small
  client i := DhcpClient.fresh (pairMac i)
  requests := []
  replies := []

theorem Network.pair_initial : Network.pair.Initial where
  server := ⟨_, _, _, _, _, rfl⟩
  client _ := DhcpClient.fresh_initialised _
  mac := by
    intro i j h
    cases i <;> cases j <;> first | rfl | exact absurd h (by decide)
  requests := rfl
  replies := rfl

def Network.evaluate (i : Bool) : NetworkInput Bool := .client i (DhcpClient.evaluateAt 0)

def Network.serve (message : Message) : NetworkInput Bool := .server (.onInterface message.wire)

def Network.deliver (i : Bool) (message : Message) : NetworkInput Bool :=
  .client i (DhcpClient.arrival message DhcpClient.allSucceed)

def Network.discoverOf (mac : MacAddress) : Message := Message.discover 1 mac

def Network.requestOf (mac : MacAddress) (address : UInt32) : Message :=
  Message.request 2 mac address 0x0100000a

def Network.offerOf (mac : MacAddress) (address : UInt32) : Message :=
  Message.offer 0 (discoverOf mac) 0x0100000a address 0x00ffffff 0x0100000a []

def Network.ackOf (mac : MacAddress) (address : UInt32) : Message :=
  Message.ack 0 (requestOf mac address) 0x0100000a address 0x00ffffff 0x0100000a []

def Network.obtain (i : Bool) (mac : MacAddress) (address : UInt32) : List (NetworkInput Bool) :=
  [evaluate i, evaluate i, serve (discoverOf mac), deliver i (offerOf mac address), evaluate i,
    serve (requestOf mac address), deliver i (ackOf mac address)]

theorem granted_addresses_differ_in_turn : ∃ n : Network Bool,
    (n.client false).mInterface.address = 0x0200000a ∧
    (n.client false).mInterface.address ≠ (n.client true).mInterface.address := by
  obtain ⟨tr, n, run, haddr, hfalse, htrue⟩ := run_of_exec (networkMachine 2)
    (fun n input => n.TakesOwn input) Network.pair
    (Network.obtain false (Network.pairMac false) 0x0200000a ++
      Network.obtain true (Network.pairMac true) 0x0300000a)
    (fun n _ => (n.client false).mInterface.address = 0x0200000a ∧
      (n.client false).mState = .bound ∧ (n.client true).mState = .bound) (by decide +kernel)
  exact ⟨n, haddr, (granted_addresses_differ Network.pair_initial run Bool.false_ne_true).2
    hfalse htrue⟩

/-- Both clients are at the same transaction ids, and both take what the server
sends to the first. -/
theorem granted_addresses_equal : ¬ ∀ (n₀ n : Network Bool) (tr : List (Bool × Event)),
    n₀.Initial → (networkMachine 2).Run (fun _ _ => True) n₀ tr n → ∀ i j, i ≠ j →
    ∀ a ∈ lastGrant (eventsOf i tr), ∀ b ∈ lastGrant (eventsOf j tr), a.yiaddr ≠ b.yiaddr := by
  intro h
  obtain ⟨tr, n, run, a, ha, b, hb, heq⟩ := run_of_exec (networkMachine 2) (fun _ _ => True)
    Network.pair
    [Network.evaluate false, Network.evaluate false, Network.evaluate true, Network.evaluate true,
      Network.serve (Network.discoverOf (Network.pairMac false)),
      Network.deliver false (Network.offerOf (Network.pairMac false) 0x0200000a),
      Network.deliver true (Network.offerOf (Network.pairMac false) 0x0200000a),
      Network.evaluate false, Network.evaluate true,
      Network.serve (Network.requestOf (Network.pairMac false) 0x0200000a),
      Network.deliver false (Network.ackOf (Network.pairMac false) 0x0200000a),
      Network.deliver true (Network.ackOf (Network.pairMac false) 0x0200000a)]
    (fun _ tr => ∃ a ∈ lastGrant (eventsOf false tr), ∃ b ∈ lastGrant (eventsOf true tr),
      a.yiaddr = b.yiaddr) (by decide +kernel)
  exact h _ n tr Network.pair_initial run false true Bool.false_ne_true a ha b hb heq

end Rpi3Device.Dhcp
