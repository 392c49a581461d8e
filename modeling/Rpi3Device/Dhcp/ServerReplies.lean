import Rpi3Device.Dhcp.MessageFormat
import Rpi3Device.Dhcp.ServerLeases

/-!
# The replies of the server

A request looks its lease up twice, once to validate it and once while the
acknowledgement is built. A call that returns an address leaves it in the table,
so the second lookup finds what the first one compared.
-/

namespace Rpi3Device.Dhcp
open TransitionSystem

namespace DhcpServer

theorem updateDnsServers_length (s : DhcpServer) (input : ServerInput) :
    (s.updateDnsServers input).mDnsServers.length ≤ 4 :=
  (List.length_filterMap_le _ _).trans (by simp [kMaxDnsServers])

theorem getOfferAddress_of_some {s : DhcpServer} {i : UInt32} {mac : MacAddress} {a : UInt32}
    (h : s.leaseAddress ⟨i, mac⟩ = some a) : s.getOfferAddress i mac = some (.ok a, s) := by
  have hvalue := s.findOrCreate_fst ⟨i, mac⟩
  rw [h, Option.getD_some] at hvalue
  have htouch : { s with mLeases := (s.mLeases.findOrCreate ⟨i, mac⟩).2 } = s := touch_of_some h
  simp only [getOfferAddress, hvalue, (leaseAddress_eq_some.mp h).2, if_false, htouch]

theorem leaseAddress_of_ok {s s' : DhcpServer} {i : UInt32} {mac : MacAddress} {a : UInt32}
    (h : s.getOfferAddress i mac = some (.ok a, s')) : s'.leaseAddress ⟨i, mac⟩ = some a := by
  rcases getOfferAddress_cases h with ⟨b, hb, hr, rfl⟩ | ⟨-, hus, -, hr, rfl⟩ | ⟨-, -, -, hr, -⟩
  · rw [hb, Except.ok.inj hr]
  · rw [leaseAddress_assign hus, Except.ok.inj hr]
    simp
  · simp at hr

theorem leaseAddress_of_error {s s' : DhcpServer} {i : UInt32} {mac : MacAddress} {text : String}
    (h : s.getOfferAddress i mac = some (.error text, s')) :
    s'.leaseAddress ⟨i, mac⟩ = none := by
  rcases getOfferAddress_cases h with ⟨b, -, hr, -⟩ | ⟨-, -, -, hr, -⟩ | ⟨hnone, -, -, -, rfl⟩
  · simp at hr
  · simp at hr
  · rw [leaseAddress_touch, hnone]

theorem sendLease_of_some
    (build : UInt32 → Message → UInt32 → UInt32 → UInt32 → UInt32 → List UInt32 → Message)
    {s : DhcpServer} {input : ServerInput} {m : Message} {i a serverAddress : UInt32}
    (ha : s.leaseAddress ⟨i, m.chaddr⟩ = some a)
    (haddr : input.interfaceAddress = some serverAddress) :
    ∃ s', sendLease build s input m i = some (s',
        [⟨i, build s.sNextTransactionId m serverAddress a s.mNetmask s.mGateway
          (s.updateDnsServers input).mDnsServers⟩]) ∧ s'.mLeases = s.mLeases := by
  have hdns : (s.updateDnsServers input).leaseAddress ⟨i, m.chaddr⟩ = some a := ha
  have hcall := getOfferAddress_of_some hdns
  refine ⟨{ s.updateDnsServers input with sNextTransactionId := s.sNextTransactionId + 1 }, ?_,
    rfl⟩
  simp only [sendLease, hcall, haddr]
  rfl

theorem isValidDhcpRequest_of_ok {s s₁ : DhcpServer} {m : Message} {i a : UInt32}
    (h : s.getOfferAddress i m.chaddr = some (.ok a, s₁)) :
    s.isValidDhcpRequest m i = some (decide (m.requestedIp = a), s₁) := by
  by_cases hip : m.requestedIp = a <;> simp [isValidDhcpRequest, h, hip]

theorem isValidDhcpRequest_of_error {s s₁ : DhcpServer} {m : Message} {i : UInt32} {text : String}
    (h : s.getOfferAddress i m.chaddr = some (.error text, s₁)) :
    s.isValidDhcpRequest m i = some (false, s₁) := by
  simp only [isValidDhcpRequest, h]

theorem round_of_valid {s : DhcpServer} {input : ServerInput} {datagram : List UInt8} {i : UInt32}
    (hrecv : input.received = some (datagram, i)) (hserved : i ≠ 0 ∧ s.mExcludeInterface ≠ i)
    (hvalid : (s.message.receive datagram).isValidDhcpMessage opBootRequest = true) :
    s.round input = (s.receiveFromInterface datagram).dispatch input
      (s.message.receive datagram) i := by
  have hdrop : ¬ (i = 0 ∨ (s.receiveFromInterface datagram).mExcludeInterface = i) := by
    intro hcases
    rcases hcases with h | h
    · exact hserved.1 h
    · exact hserved.2 h
  have hvalid' : (s.receiveFromInterface datagram).message.isValidDhcpMessage opBootRequest =
      true := hvalid
  simp only [round, hrecv, hdrop, if_false, hvalid', Bool.not_true, Bool.false_eq_true]
  rfl

theorem dispatch_request {s : DhcpServer} {input : ServerInput} {m : Message} {i : UInt32}
    (htype : m.type = dhcpRequest) : s.dispatch input m i =
      match s.isValidDhcpRequest m i with
      | none => none
      | some (true, s) => s.sendAck input m i
      | some (false, s) => some (s.sendNack input m i) := by
  have hne : m.type ≠ dhcpDiscover := by
    rw [htype]
    decide
  exact (if_neg hne).trans (if_pos htype)

theorem dispatch_refuses {s s₁ : DhcpServer} {input : ServerInput} {m : Message}
    {i serverAddress : UInt32} (htype : m.type = dhcpRequest)
    (haddr : input.interfaceAddress = some serverAddress)
    (hv : s.isValidDhcpRequest m i = some (false, s₁)) :
    ∃ s', s.dispatch input m i =
        some (s', [⟨i, Message.nack s₁.sNextTransactionId m serverAddress⟩]) ∧
      s'.mLeases = s₁.mLeases := by
  refine ⟨{ s₁ with sNextTransactionId := s₁.sNextTransactionId + 1 }, ?_, rfl⟩
  simp only [dispatch_request htype, hv, sendNack, haddr]

theorem dispatch_acknowledges {s s₁ : DhcpServer} {input : ServerInput} {m : Message}
    {i a serverAddress : UInt32} (htype : m.type = dhcpRequest)
    (haddr : input.interfaceAddress = some serverAddress)
    (hv : s.isValidDhcpRequest m i = some (true, s₁))
    (ha : s₁.leaseAddress ⟨i, m.chaddr⟩ = some a) :
    ∃ s', s.dispatch input m i = some (s', [⟨i, Message.ack s₁.sNextTransactionId m serverAddress a
        s₁.mNetmask s₁.mGateway (s₁.updateDnsServers input).mDnsServers⟩]) ∧
      s'.mLeases = s₁.mLeases := by
  simp only [dispatch_request htype, hv]
  exact sendLease_of_some Message.ack ha haddr

end DhcpServer

structure Answers (reply m : Message) : Prop where
  xid : reply.xid = m.xid
  flags : reply.flags = m.flags
  giaddr : reply.giaddr = m.giaddr
  chaddr : reply.chaddr = m.chaddr

theorem Layout.answers {reply m : Message} {yiaddr : UInt32}
    {es : List TagLengthValue.Entry} {tail : List UInt8}
    (h : Layout reply (replyHeader m yiaddr) es tail) : Answers reply m :=
  ⟨h.xid_eq, h.flags_eq, h.giaddr_eq, h.chaddr_eq⟩

/-- Every request accepted on a served interface gets exactly one reply: an
acknowledgement of its own lease if that is what it asks for, a refusal
otherwise, also when the table has no address left for it. -/
theorem request_answered (s : DhcpServer) (input : ServerInput) (datagram : List UInt8)
    (i serverAddress : UInt32) (r : Except String UInt32) (s₁ : DhcpServer)
    (hrecv : input.received = some (datagram, i))
    (haddr : input.interfaceAddress = some serverAddress)
    (hserved : i ≠ 0 ∧ s.mExcludeInterface ≠ i)
    (hvalid : (s.message.receive datagram).isValidDhcpMessage opBootRequest = true)
    (htype : (s.message.receive datagram).type = dhcpRequest)
    (hreturns : (s.receiveFromInterface datagram).getOfferAddress i
      (s.message.receive datagram).chaddr = some (r, s₁)) :
    ∃ s' reply, s.round input = some (s', [⟨i, reply⟩]) ∧
      (reply.type = dhcpAck ↔ s'.leaseAddress ⟨i, (s.message.receive datagram).chaddr⟩ =
        some (s.message.receive datagram).requestedIp) ∧
      (reply.type = dhcpAck → s'.leaseAddress ⟨i, (s.message.receive datagram).chaddr⟩ =
        some reply.yiaddr) ∧
      (reply.type ≠ dhcpAck → reply.type = dhcpNak ∧ reply.yiaddr = 0) ∧
      Answers reply (s.message.receive datagram) ∧
      ((∃ text, r = .error text) → reply.type ≠ dhcpAck) := by
  generalize hm : s.message.receive datagram = m at *
  rw [DhcpServer.round_of_valid hrecv hserved (hm ▸ hvalid), hm]
  have hlay := nack_layout s₁.sNextTransactionId m serverAddress
  have hnak : (Message.nack s₁.sNextTransactionId m serverAddress).type = dhcpNak :=
    hlay.type_eq (nackOptions_wellTagged _) (by simp [nackOptions])
  have hnakne : (Message.nack s₁.sNextTransactionId m serverAddress).type ≠ dhcpAck := by
    rw [hnak]
    decide
  cases r with
  | error text =>
    obtain ⟨s', hs', hleases⟩ :=
      DhcpServer.dispatch_refuses htype haddr (DhcpServer.isValidDhcpRequest_of_error hreturns)
    have hnone : s'.leaseAddress ⟨i, m.chaddr⟩ = none := by
      rw [DhcpServer.leaseAddress, hleases]
      exact DhcpServer.leaseAddress_of_error hreturns
    exact ⟨s', _, hs', by simp [hnakne, hnone], fun h => absurd h hnakne,
      fun _ => ⟨hnak, hlay.yiaddr_eq⟩, hlay.answers, fun _ => hnakne⟩
  | ok a =>
    have hlease := DhcpServer.leaseAddress_of_ok hreturns
    have hv := DhcpServer.isValidDhcpRequest_of_ok hreturns
    by_cases hip : m.requestedIp = a
    · rw [decide_eq_true hip] at hv
      obtain ⟨s', hs', hleases⟩ := DhcpServer.dispatch_acknowledges htype haddr hv hlease
      have hdns := s₁.updateDnsServers_length input
      have hack := leaseReply_layout dhcpAck s₁.sNextTransactionId m serverAddress a s₁.mNetmask
        s₁.mGateway hdns
      have htypeAck := (leaseReply_readsBack dhcpAck s₁.sNextTransactionId m serverAddress a
        s₁.mNetmask s₁.mGateway hdns).type_eq
      have hlease' : s'.leaseAddress ⟨i, m.chaddr⟩ = some a := by
        rw [DhcpServer.leaseAddress, hleases]
        exact hlease
      exact ⟨s', _, hs', ⟨fun _ => by rw [hlease', hip], fun _ => htypeAck⟩,
        fun _ => hlease'.trans (congrArg some hack.yiaddr_eq.symm),
        fun h => absurd htypeAck h, hack.answers, by simp⟩
    · rw [decide_eq_false hip] at hv
      obtain ⟨s', hs', hleases⟩ := DhcpServer.dispatch_refuses htype haddr hv
      have hlease' : s'.leaseAddress ⟨i, m.chaddr⟩ = some a := by
        rw [DhcpServer.leaseAddress, hleases]
        exact hlease
      refine ⟨s', _, hs', ?_, fun h => absurd h hnakne, fun _ => ⟨hnak, hlay.yiaddr_eq⟩,
        hlay.answers, by simp⟩
      simp [hnakne, hlease', Ne.symm hip]

def firstRequest (mac : MacAddress) : Message := Message.request 2 mac 0x0200000a 0x0100000a

theorem request_answered_first_address : ∃ s' reply,
    DhcpServer.small.round (.onInterface (firstRequest #v[2, 0, 0, 0, 0, 1]).wire) =
      some (s', [⟨2, reply⟩]) ∧
    Answers reply (Message.empty.receive (firstRequest #v[2, 0, 0, 0, 0, 1]).wire) := by
  obtain ⟨⟨r, s₁⟩, hcall⟩ := Option.isSome_iff_exists.mp
    (show ((DhcpServer.small.receiveFromInterface
      (firstRequest #v[2, 0, 0, 0, 0, 1]).wire).getOfferAddress 2
      (Message.empty.receive (firstRequest #v[2, 0, 0, 0, 0, 1]).wire).chaddr).isSome from by
        decide +kernel)
  obtain ⟨s', reply, hround, -, -, -, hanswers, -⟩ := request_answered DhcpServer.small
    (.onInterface (firstRequest #v[2, 0, 0, 0, 0, 1]).wire)
    (firstRequest #v[2, 0, 0, 0, 0, 1]).wire 2 0x0100000a r s₁ rfl rfl (by decide)
    (by decide +kernel) (by decide +kernel) hcall
  exact ⟨s', reply, hround, hanswers⟩

end Rpi3Device.Dhcp
