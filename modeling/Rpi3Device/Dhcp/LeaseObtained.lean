import Rpi3Device.Dhcp.LeaseTimers
import Rpi3Device.Dhcp.Network
import Rpi3Device.Dhcp.RawUdp
import Rpi3Device.Dhcp.ReceivedBytes

/-!
# Obtaining a lease

What one end of the raw socket sends the other end reads, and a client that nothing
disturbs gets its lease: from any state it first comes back to where it discovers
servers, and from there two exchanges with the server lead to the bound state. The
client sends through its raw socket, so its interface has to be up; the replies are
framed as the server's kernel frames them.
-/

namespace Rpi3Device.Dhcp
open ByteMemory TransitionSystem Machine

namespace SameReceived
variable {m m' : Message}

theorem load32_header (h : SameReceived m m') {off : ℕ} (hoff : off + 4 ≤ m.mSize) :
    load32 m'.dhcpData off = load32 m.dhcpData off := by
  simp only [load32, h.bytes off (by omega), h.bytes (off + 1) (by omega),
    h.bytes (off + 2) (by omega), h.bytes (off + 3) (by omega)]

theorem xid_eq (h : SameReceived m m') (hsize : 240 ≤ m.mSize) : m'.xid = m.xid :=
  h.load32_header (by omega)

theorem chaddr_eq (h : SameReceived m m') (hsize : 240 ≤ m.mSize) : m'.chaddr = m.chaddr := by
  apply Vector.ext
  intro i hi
  simp only [Message.chaddr, Vector.getElem_ofFn]
  exact h.bytes _ (by omega)

theorem addressOption_layout {hd : Header} {es : List TagLengthValue.Entry}
    (h : SameReceived m m') (hlay : Layout m hd es [optEnd]) (hes : WellTagged es)
    (code : UInt8) : m'.addressOption code = m.addressOption code := by
  refine h.addressOption_eq fun opt hopt => ?_
  rw [hlay.getOption_eq hes] at hopt
  obtain ⟨⟨p, e⟩, hloc, hpair⟩ := Option.map_eq_some_iff.mp hopt
  obtain ⟨rfl, hlen⟩ := Prod.mk.inj hpair
  have hfits := hes.fits e (TagLengthValue.mem_of_locate hloc)
  have hfour : e.value.length = 4 := by
    rw [← hfits.length_toNat, hlen]
    rfl
  have hinside := TagLengthValue.locate_inside hloc
  rw [hlay.optionsSize_eq]
  omega

end SameReceived

theorem Message.sameReceived_wire {m : Message} (hsize : m.mSize ≤ capacity) (old : Message) :
    SameReceived m (old.receive m.wire) := by
  have htake : m.wire.take capacity = m.wire := by
    refine List.take_of_length_le ?_
    rwa [wire_length]
  simp only [Message.receive, htake]
  refine ⟨wire_length m, fun i hi => ?_⟩
  have hi' : i < m.wire.length := by rwa [wire_length]
  have hin := store_inside old.dhcpData 0 hi'
  have hget : m.wire[i] = m.dhcpData (0 + i) := load_getElem _ _ _ _ hi'
  rw [hget, Nat.zero_add] at hin
  exact hin

section RawUdp
variable (source : UInt32) (sourcePort : UInt16) (destination : UInt32)
  (destinationPort : UInt16) (message : Message)

theorem Iphdr.bytes_length (ip : Iphdr) : ip.bytes.length = iphdrSize := by
  simp [Iphdr.bytes, iphdrSize]

theorem Udphdr.bytes_length (udp : Udphdr) : udp.bytes.length = udphdrSize := by
  simp [Udphdr.bytes, udphdrSize]

theorem sendRawUdp_drop :
    (sendRawUdp source sourcePort destination destinationPort message).drop headersSize =
      message.wire := by
  have hlen : ((ipHeader source destination message).bytes ++
      (udpHeader source sourcePort destination destinationPort message).bytes).length =
      headersSize := by
    simp [Iphdr.bytes_length, Udphdr.bytes_length, iphdrSize, udphdrSize, headersSize]
  rw [sendRawUdp, ← hlen, List.drop_left]

theorem sendRawUdp_length :
    (sendRawUdp source sourcePort destination destinationPort message).length =
      headersSize + message.mSize := by
  simp only [sendRawUdp, List.length_append, Iphdr.bytes_length, Udphdr.bytes_length,
    wire_length, iphdrSize, udphdrSize, headersSize]

theorem sendRawUdp_holdsAt :
    HoldsAt (ofBytes (sendRawUdp source sourcePort destination destinationPort message)) 0
        (ipHeader source destination message).bytes ∧
    HoldsAt (ofBytes (sendRawUdp source sourcePort destination destinationPort message))
        iphdrSize (udpHeader source sourcePort destination destinationPort message).bytes := by
  have hall := holdsAt_ofBytes
    (sendRawUdp source sourcePort destination destinationPort message)
  rw [sendRawUdp, List.append_assoc] at hall
  obtain ⟨hip, hrest⟩ := holdsAt_append.mp hall
  rw [Iphdr.bytes_length, Nat.zero_add] at hrest
  rw [sendRawUdp, List.append_assoc]
  exact ⟨hip, (holdsAt_append.mp hrest).1⟩

theorem receiveRawUdp_sendRawUdp (expectedPort : UInt16) (hsize : message.mSize ≤ capacity) :
    receiveRawUdp expectedPort
        (sendRawUdp source sourcePort destination destinationPort message) =
      (decide (destinationPort = expectedPort), Message.empty.receive message.wire) ∧
    SameReceived message (Message.empty.receive message.wire) := by
  have hlen : ¬ (sendRawUdp source sourcePort destination destinationPort message).length <
      headersSize := by
    rw [sendRawUdp_length]
    omega
  obtain ⟨hip, hudp⟩ := sendRawUdp_holdsAt source sourcePort destination destinationPort message
  have hdest : load16 (ofBytes (sendRawUdp source sourcePort destination destinationPort message))
      22 = htons destinationPort := by
    refine load16_of_holdsAt ?_
    simp only [Udphdr.bytes, List.append_assoc] at hudp
    exact (holdsAt_append.mp (holdsAt_append.mp hudp).2).1
  have hfirst : ofBytes (sendRawUdp source sourcePort destination destinationPort message) 0 =
      UInt8.ofNat ipVersion * 16 + UInt8.ofNat (iphdrSize / 4) := hip 0 (by simp [Iphdr.bytes])
  have hproto : ofBytes (sendRawUdp source sourcePort destination destinationPort message) 9 =
      ipprotoUdp := hip 9 (by simp [Iphdr.bytes])
  constructor
  · have hvalid : decide ((ofBytes (sendRawUdp source sourcePort destination destinationPort
          message) 0).toNat / 16 = ipVersion ∧
        (ofBytes (sendRawUdp source sourcePort destination destinationPort message) 0).toNat % 16 =
          20 / 4 ∧
        ofBytes (sendRawUdp source sourcePort destination destinationPort message) 9 =
          ipprotoUdp ∧
        load16 (ofBytes (sendRawUdp source sourcePort destination destinationPort message)) 22 =
          htons expectedPort) = decide (destinationPort = expectedPort) := by
      rw [hfirst, hproto, hdest]
      refine decide_eq_decide.mpr ⟨fun h => swap16_injective h.2.2.2, fun h => ?_⟩
      exact ⟨rfl, rfl, rfl, congrArg htons h⟩
    simp only [receiveRawUdp, hlen, if_false, sendRawUdp_drop]
    exact congrArg (·, _) hvalid
  · exact Message.sameReceived_wire hsize _

end RawUdp

namespace DhcpServer

/-- What a round leaves as it was configured. -/
structure SameSettings (s s' : DhcpServer) : Prop where
  netmask : s'.mNetmask = s.mNetmask
  gateway : s'.mGateway = s.mGateway
  excluded : s'.mExcludeInterface = s.mExcludeInterface

theorem getOfferAddress_settings {s s₁ : DhcpServer} {i : UInt32} {mac : MacAddress}
    {r : Except String UInt32} (h : s.getOfferAddress i mac = some (r, s₁)) :
    s.SameSettings s₁ := by
  obtain ⟨-, -, -, rfl⟩ | ⟨-, -, -, -, rfl⟩ | ⟨-, -, -, -, rfl⟩ := getOfferAddress_cases h
  · exact ⟨rfl, rfl, rfl⟩
  · exact ⟨rfl, rfl, rfl⟩
  · exact ⟨rfl, rfl, rfl⟩

theorem getOfferAddress_with (s : DhcpServer) (i : UInt32) (mac : MacAddress) (m : Message)
    (dns : List UInt32) :
    ({ s with message := m, mDnsServers := dns } : DhcpServer).getOfferAddress i mac =
      (s.getOfferAddress i mac).map fun r =>
        (r.1, { r.2 with message := m, mDnsServers := dns }) := by
  simp only [getOfferAddress]
  by_cases hzero : (s.mLeases.findOrCreate ⟨i, mac⟩).1 = 0
  · simp only [hzero, if_true]
    split
    · rfl
    · rename_i nextAddress offset hskip
      by_cases hle : nextAddress ≤ ntohl s.mDhcpRangeEnd
      · simp only [hle, if_true, Option.map_some]
      · simp only [hle, if_false, Option.map_some]
  · simp only [hzero, if_false, Option.map_some]

theorem getOfferAddress_receive {s s₁ : DhcpServer} {i a : UInt32} {mac : MacAddress}
    (h : s.getOfferAddress i mac = some (.ok a, s₁)) (datagram : List UInt8) :
    ∃ s₂, (s.receiveFromInterface datagram).getOfferAddress i mac = some (.ok a, s₂) := by
  have hwith := s.getOfferAddress_with i mac (s.message.receive datagram) s.mDnsServers
  rw [h, Option.map_some] at hwith
  exact ⟨_, hwith⟩

variable {s s₁ : DhcpServer} {input : ServerInput} {i a serverAddress : UInt32}
  {mac : MacAddress}

theorem sendLease_of_ok
    (build : UInt32 → Message → UInt32 → UInt32 → UInt32 → UInt32 → List UInt32 → Message)
    {m : Message} (hmac : m.chaddr = mac) (hcall : s.getOfferAddress i mac = some (.ok a, s₁))
    (haddr : input.interfaceAddress = some serverAddress) :
    ∃ s' next, sendLease build s input m i = some (s', [⟨i, build next m serverAddress a
        s.mNetmask s.mGateway (s.updateDnsServers input).mDnsServers⟩]) ∧
      s'.leaseAddress ⟨i, mac⟩ = some a ∧ s.SameSettings s' := by
  subst hmac
  have hset := getOfferAddress_settings hcall
  have hcall' : (s.updateDnsServers input).getOfferAddress i m.chaddr =
      some (.ok a, { s₁ with
        message := s.message, mDnsServers := (s.updateDnsServers input).mDnsServers }) := by
    have hwith := s.getOfferAddress_with i m.chaddr s.message
      (s.updateDnsServers input).mDnsServers
    rwa [hcall, Option.map_some] at hwith
  have hlease := leaseAddress_of_ok hcall'
  refine ⟨{ s₁ with
      message := s.message, mDnsServers := (s.updateDnsServers input).mDnsServers
      sNextTransactionId := s₁.sNextTransactionId + 1 },
    s₁.sNextTransactionId, ?_, hlease, ⟨hset.netmask, hset.gateway, hset.excluded⟩⟩
  simp only [sendLease, hcall', haddr, ← hset.netmask, ← hset.gateway]

theorem isValidDhcpRequest_of_lease {m : Message} (hmac : m.chaddr = mac)
    (h : s.leaseAddress ⟨i, mac⟩ = some a) (hip : m.requestedIp = a) :
    s.isValidDhcpRequest m i = some (true, s) := by
  subst hmac
  have hv := isValidDhcpRequest_of_ok (getOfferAddress_of_some h)
  rwa [decide_eq_true hip] at hv

theorem round_discover {next : UInt32}
    (hrecv : input.received = some ((Message.discover next mac).wire, i))
    (haddr : input.interfaceAddress = some serverAddress)
    (hserved : i ≠ 0 ∧ s.mExcludeInterface ≠ i)
    (hoffer : s.getOfferAddress i mac = some (.ok a, s₁)) :
    ∃ s' m nextId, SameReceived (Message.discover next mac) m ∧
      s.round input = some (s', [⟨i, Message.offer nextId m serverAddress a s.mNetmask s.mGateway
        (s.updateDnsServers input).mDnsServers⟩]) ∧
      s'.leaseAddress ⟨i, mac⟩ = some a ∧ s.SameSettings s' := by
  have hlay := discover_layout next mac
  have hsize : (Message.discover next mac).mSize ≤ capacity := by
    rw [hlay.size]
    decide
  have hsame := Message.sameReceived_wire hsize s.message
  have hchaddr : (s.message.receive (Message.discover next mac).wire).chaddr = mac :=
    (hsame.chaddr_eq hlay.size_ge).trans hlay.chaddr_eq
  have hvalid := (hsame.isValidDhcpMessage_eq opBootRequest).trans hlay.valid
  have htype : (s.message.receive (Message.discover next mac).wire).type = dhcpDiscover :=
    hsame.type_eq.trans (hlay.type_eq discoverOptions_wellTagged (by simp [discoverOptions]))
  obtain ⟨s₂, hcall⟩ := getOfferAddress_receive hoffer (Message.discover next mac).wire
  obtain ⟨s', nextId, hsend, hlease, hset⟩ := sendLease_of_ok Message.offer hchaddr hcall haddr
  refine ⟨s', _, nextId, hsame, ?_, hlease, ⟨hset.netmask, hset.gateway, hset.excluded⟩⟩
  rw [round_of_valid hrecv hserved hvalid, dispatch, if_pos htype]
  exact hsend

theorem round_request {next server : UInt32}
    (hrecv : input.received = some ((Message.request next mac a server).wire, i))
    (haddr : input.interfaceAddress = some serverAddress)
    (hserved : i ≠ 0 ∧ s.mExcludeInterface ≠ i)
    (hlease : s.leaseAddress ⟨i, mac⟩ = some a) :
    ∃ s' m nextId, SameReceived (Message.request next mac a server) m ∧
      s.round input = some (s', [⟨i, Message.ack nextId m serverAddress a s.mNetmask s.mGateway
        (s.updateDnsServers input).mDnsServers⟩]) ∧
      s'.leaseAddress ⟨i, mac⟩ = some a := by
  have hlay := request_layout next mac a server
  have hsize : (Message.request next mac a server).mSize ≤ capacity := by
    rw [hlay.size]
    simp [requestOptions, TagLengthValue.encode, kRequestParameters, optionsOffset, capacity]
  have hsame := Message.sameReceived_wire hsize s.message
  have hchaddr : (s.message.receive (Message.request next mac a server).wire).chaddr = mac :=
    (hsame.chaddr_eq hlay.size_ge).trans hlay.chaddr_eq
  have hvalid := (hsame.isValidDhcpMessage_eq opBootRequest).trans hlay.valid
  have htype := hsame.type_eq.trans (request_type next mac a server)
  have hip : (s.message.receive (Message.request next mac a server).wire).requestedIp = a :=
    (hsame.addressOption_layout hlay (requestOptions_wellTagged a server) optRequestedIp).trans
      (request_requestedIp next mac a server)
  have hcall : (s.receiveFromInterface (Message.request next mac a server).wire).getOfferAddress i
      mac = some (.ok a, s.receiveFromInterface (Message.request next mac a server).wire) :=
    getOfferAddress_of_some hlease
  have hv : (s.receiveFromInterface (Message.request next mac a server).wire).isValidDhcpRequest
      (s.message.receive (Message.request next mac a server).wire) i =
      some (true, s.receiveFromInterface (Message.request next mac a server).wire) :=
    isValidDhcpRequest_of_lease hchaddr hlease hip
  obtain ⟨s', nextId, hsend, hlease', hset⟩ := sendLease_of_ok Message.ack hchaddr hcall haddr
  refine ⟨s', _, nextId, hsame, ?_, hlease'⟩
  rw [round_of_valid hrecv hserved hvalid, dispatch_request htype, hv]
  exact hsend

end DhcpServer

namespace DhcpClient
variable {c : DhcpClient}

theorem increasedTimeout_toNat (timeout : UInt32) : (increasedTimeout timeout).toNat =
    if timeout = kNoTimeout then 4000 else min 64000 (2 * timeout.toNat) := by
  have hmax : kMaxTimeout.toNat = 64000 := rfl
  unfold increasedTimeout
  by_cases hzero : timeout = kNoTimeout
  · simp only [hzero, if_true]
    rfl
  · by_cases hlt : timeout < kMaxTimeout
    · have hsmall := UInt32.lt_iff_toNat_lt.mp hlt
      have hdouble : (timeout * 2).toNat = 2 * timeout.toNat := by
        rw [UInt32.toNat_mul, show (2 : UInt32).toNat = 2 from rfl]
        omega
      simp only [hzero, hlt, if_false, if_true]
      by_cases hcap : timeout * 2 > kMaxTimeout
      · have hbig := UInt32.lt_iff_toNat_lt.mp hcap
        rw [if_pos hcap]
        omega
      · have hle := UInt32.lt_iff_toNat_lt.not.mp hcap
        rw [if_neg hcap]
        omega
    · have hle := UInt32.lt_iff_toNat_lt.not.mp hlt
      simp only [hzero, hlt, if_false]
      split_ifs with hcap
      · omega
      · have hge := UInt32.lt_iff_toNat_lt.not.mp hcap
        omega

theorem increasedTimeout_ne (timeout : UInt32) : increasedTimeout timeout ≠ kNoTimeout := by
  intro h
  have hnat := increasedTimeout_toNat timeout
  rw [h, show kNoTimeout.toNat = 0 from rfl] at hnat
  split_ifs at hnat with hzero
  have hpos : timeout.toNat ≠ 0 := fun h0 => hzero (UInt32.toNat_inj.mp h0)
  omega

theorem transmit_polling (message : Message) (a : Adjustment) :
    (c.transmit message a).polling ≠ none := by
  have hne : (c.send message).1.increaseTimeout.mNextTimeout ≠ kNoTimeout := increasedTimeout_ne _
  simp [transmit, beginWait, if_neg hne]

theorem step_selecting (hp : c.polling = none) (hs : c.mState = .selecting) (n₁ n₂ : UInt64)
    (a : Adjustment) : c.step (.evaluate n₁ n₂ a) =
      some (c.transmit (Message.discover c.sNextTransactionId c.mInterface.mMacAddress) a,
        [.sent .selecting c.mInterface.isUp
          (Message.discover c.sNextTransactionId c.mInterface.mMacAddress)]) := by
  simp only [step, hp, evaluateState, hs]
  rw [← hs]
  rfl

theorem step_requesting (hp : c.polling = none) (hs : c.mState = .requesting)
    (ht : c.mNextTimeout < kMaxTimeout) (n₁ n₂ : UInt64) (a : Adjustment) :
    c.step (.evaluate n₁ n₂ a) = some (c.transmit (c.requestTo c.mServerAddress) a,
      [.sent .requesting c.mInterface.isUp (c.requestTo c.mServerAddress)]) := by
  have hlt : ¬ c.mNextTimeout ≥ kMaxTimeout := UInt32.not_le.mpr ht
  simp only [step, hp, evaluateState, hs, hlt, if_false]
  rw [← hs]
  rfl

theorem receiveDhcpMessage_sent {hd : Header} {es : List TagLengthValue.Entry} {m : Message}
    (hlay : Layout m hd es [optEnd]) (hsize : m.mSize ≤ capacity) (hop : hd.op = opBootReply)
    (hxid : m.xid = c.mLastMsg.xid) (source : UInt32) (sourcePort : UInt16)
    (destination : UInt32) :
    c.receiveDhcpMessage (some (sendRawUdp source sourcePort destination portBootpClient m)) =
      some m := by
  obtain ⟨hread, -⟩ := receiveRawUdp_sendRawUdp source sourcePort destination portBootpClient m
    portBootpClient hsize
  have hm : Message.empty.receive m.wire = m := hlay.receive_wire hsize fun _ _ => rfl
  have hvalid := hlay.valid
  rw [hop] at hvalid
  simp only [receiveDhcpMessage, hread, hm, decide_true, Bool.true_and,
    Message.isValidDhcpReply, hvalid, hxid, Bool.not_true, Bool.false_eq_true, if_false, ne_eq,
    not_true_eq_false, if_true]

def framed (serverAddress : UInt32) (reply : Message) : List UInt8 :=
  sendRawUdp serverAddress 67 inaddrBroadcast portBootpClient reply

theorem framed_drop (serverAddress : UInt32) (reply : Message) :
    (framed serverAddress reply).drop headersSize = reply.wire :=
  sendRawUdp_drop _ _ _ _ _

theorem receives_reply {m : Message} (hsame : SameReceived c.mLastMsg m)
    (hsize : 240 ≤ c.mLastMsg.mSize) (type : UInt8)
    (next server offered netmask gateway : UInt32) {dns : List UInt32} (hdns : dns.length ≤ 4) :
    c.receiveDhcpMessage (some (framed server
        (Message.leaseReply type next m server offered netmask gateway dns))) =
      some (Message.leaseReply type next m server offered netmask gateway dns) := by
  have hlay := leaseReply_layout type next m server offered netmask gateway hdns
  have hread := leaseReply_readsBack type next m server offered netmask gateway hdns
  exact receiveDhcpMessage_sent hlay hread.size_le rfl (hlay.xid_eq.trans (hsame.xid_eq hsize))
    server 67 inaddrBroadcast

theorem step_offer {packet : List UInt8} {msg : Message} (hp : c.polling ≠ none)
    (hs : c.mState = .selecting) (hr : c.receiveDhcpMessage (some packet) = some msg)
    (ht : msg.type = dhcpOffer) (t₁ t₂ n₁ n₂ : UInt64) (io : IoOutcome) :
    c.step (.poll t₁ t₂ (.readable (some packet) io n₁ n₂)) =
      some (({ c with mServerAddress := msg.serverId, mRequestAddress := msg.yiaddr }).enter
        .requesting, [.moved .requesting]) := by
  obtain ⟨timeout, hp⟩ := Option.ne_none_iff_exists'.mp hp
  simp only [step, hp, pollRound, hr, handleMessage, hs, ht, if_true]
  rfl

theorem step_ack {packet : List UInt8} {msg : Message} {io : IoOutcome} (hp : c.polling ≠ none)
    (hs : c.mState.AwaitsAck) (hr : c.receiveDhcpMessage (some packet) = some msg)
    (ht : msg.type = dhcpAck) (hg : Grants msg io c.mInterface) (t₁ t₂ n₁ n₂ : UInt64) :
    c.step (.poll t₁ t₂ (.readable (some packet) io n₁ n₂)) =
      some ((c.configureDhcp msg io n₁ n₂).2.enter .bound,
        [.configured msg, .moved .bound]) := by
  obtain ⟨timeout, hp⟩ := Option.ne_none_iff_exists'.mp hp
  have hsel : c.mState ≠ .selecting := by
    rcases hs with h | h | h <;> simp [h]
  have hres := (c.configureDhcp_eq_true_iff msg io n₁ n₂).mpr hg
  simp only [step, hp, pollRound, hr, handleMessage, hsel, if_false, hs, ht, if_true, hres]
  rfl

/-- The client and its host are configured as the server says. -/
structure BoundTo {κ : Type*} (K : Kernel κ) (c : DhcpClient) (k : κ)
    (server address netmask gateway : UInt32) : Prop where
  state : c.mState = .bound
  isUp : c.mInterface.isUp = true
  hostAddress : K.address k = address
  netmask : K.netmask k = netmask
  defaultRoute : K.defaultRoute k = some (gateway, c.mInterface.mIndex)
  address : c.mInterface.address = address
  server : c.mServerAddress = server

/-- The kernel routes through the gateway of the interface, once the interface is up and has the
address and the netmask. -/
def TakesRoute {κ : Type*} (K : Kernel κ) (address netmask gateway ifaceIndex : UInt32) : Prop :=
  ∀ k, K.isUp k = true → K.address k = address → K.netmask k = netmask →
    K.defaultRoute (K.perform k (.newRoute gateway ifaceIndex) true) = some (gateway, ifaceIndex)

def leaseRequests (address netmask gateway ifaceIndex : UInt32) : List (KernelRequest × Bool) :=
  [(.setAddress address, true), (.setSubnetMask netmask, true),
    (.newRoute gateway ifaceIndex, true)]

theorem after_leaseRequests {κ : Type*} {K : Kernel κ} (hK : K.Documented)
    {address netmask gateway ifaceIndex : UInt32}
    (hroute : TakesRoute K address netmask gateway ifaceIndex) {k : κ} (hup : K.isUp k = true) :
    K.address (K.after k (leaseRequests address netmask gateway ifaceIndex)) = address ∧
    K.netmask (K.after k (leaseRequests address netmask gateway ifaceIndex)) = netmask ∧
    K.defaultRoute (K.after k (leaseRequests address netmask gateway ifaceIndex)) =
      some (gateway, ifaceIndex) := by
  simp only [leaseRequests, Kernel.after, List.foldl_cons, List.foldl_nil]
  obtain ⟨haddressed, hupAddressed⟩ := hK.addressed k address
  generalize K.perform k (.setAddress address) true = k₁ at *
  obtain ⟨hmasked, haddress, hupMasked⟩ := hK.masked k₁ netmask
  generalize K.perform k₁ (.setSubnetMask netmask) true = k₂ at *
  obtain ⟨haddress', hmask'⟩ := hK.routed k₂ gateway ifaceIndex
  refine ⟨haddress'.trans (haddress.trans haddressed), hmask'.trans hmasked, ?_⟩
  exact hroute k₂ (hupMasked.trans (hupAddressed.trans hup)) (haddress.trans haddressed) hmasked

theorem configureInterface_up {f : Interface} {info : DhcpInfo} (hup : f.isUp = true)
    (hmtu : info.mtu = 0) : configureInterface f info allSucceed =
      (true, { f with
        address := info.offeredAddress
        ioctls := f.ioctls ++ [(.setAddress info.offeredAddress, true),
          (.setSubnetMask info.subnetMask, true)] }) := by
  simp [configureInterface, Interface.bringUp, Interface.setInterfaceUp, Interface.setAddress,
    Interface.setSubnetMask, Interface.ioctl, allSucceed, hup, hmtu]

theorem applyDhcpInfo_up {c : DhcpClient} (hup : c.mInterface.isUp = true)
    (hmtu : c.mDhcpInfo.mtu = 0) (n₁ n₂ : UInt64) :
    (c.applyDhcpInfo allSucceed n₁ n₂).2.mInterface.isUp = true ∧
    (c.applyDhcpInfo allSucceed n₁ n₂).2.mInterface.mIndex = c.mInterface.mIndex ∧
    (c.applyDhcpInfo allSucceed n₁ n₂).2.mInterface.address = c.mDhcpInfo.offeredAddress ∧
    c.requestsSince (c.applyDhcpInfo allSucceed n₁ n₂).2 =
      leaseRequests c.mDhcpInfo.offeredAddress c.mDhcpInfo.subnetMask c.mDhcpInfo.gateway
        c.mInterface.mIndex := by
  have hgateway : allSucceed.setDefaultGateway = true := rfl
  simp only [applyDhcpInfo, configureInterface_up hup hmtu, Router.setDefaultGateway, hgateway,
    Bool.not_true, Bool.false_eq_true, if_false]
  refine ⟨hup, rfl, rfl, ?_⟩
  simp [requestsSince, leaseRequests, setProperties]

section Ack
variable (c) (next : UInt32) (source : Message) (server offered netmask gateway : UInt32)
  {dns : List UInt32}

theorem ack_grants (hdns : dns.length ≤ 4) :
    Grants (Message.ack next source server offered netmask gateway dns) allSucceed
      c.mInterface := by
  have hlay := leaseReply_layout dhcpAck next source server offered netmask gateway hdns
  have hes := leaseOptions_wellTagged dhcpAck server netmask gateway hdns
  have hinfo := ack_dhcpInfo next source server offered netmask gateway hdns
  refine ⟨⟨?_, ?_, ?_, setInterfaceUp_succeeds _ _ rfl rfl, rfl⟩, rfl, rfl⟩
  · have hsize := hlay.optionsSize_eq
    change 4 ≤ (Message.leaseReply dhcpAck next source server offered netmask gateway
      dns).optionsSize
    omega
  · exact congrArg Prod.fst (hlay.readOptions_eq hes)
  · have hlease : (Message.ack next source server offered netmask gateway
        dns).readOptions.2.leaseTime = ntohl kDefaultLeaseTime :=
      congrArg DhcpInfo.leaseTime hinfo
    rw [hlease]
    decide

theorem configureDhcp_ack {κ : Type*} {K : Kernel κ} (hK : K.Documented) {k : κ}
    (hroute : TakesRoute K offered netmask gateway c.mInterface.mIndex)
    (hkernel : K.isUp k = true) (hup : c.mInterface.isUp = true) (hdns : dns.length ≤ 4)
    (n₁ n₂ : UInt64) {d : DhcpClient}
    (hd : d = (c.configureDhcp (Message.ack next source server offered netmask gateway dns)
      allSucceed n₁ n₂).2.enter .bound) :
    d.BoundTo K (K.after k (c.requestsSince d)) c.mServerAddress offered netmask gateway := by
  subst hd
  have hg := c.ack_grants next source server offered netmask gateway hdns
  have hinfo := ack_dhcpInfo next source server offered netmask gateway hdns
  have hframe := c.configureDhcp_frame (Message.ack next source server offered netmask gateway dns)
    allSucceed n₁ n₂
  obtain ⟨-, -, hn⟩ | ⟨-, -, -, heq⟩ := c.configureDhcp_interface_cases
    (Message.ack next source server offered netmask gateway dns) allSucceed n₁ n₂
  · exact absurd hg.toSetsAddress hn
  · have hconfigured := applyDhcpInfo_up
      (c := c.withOptions (Message.ack next source server offered netmask gateway dns)) hup
      (by rw [withOptions, hinfo]) n₁ n₂
    rw [← heq] at hconfigured
    simp only [withOptions, hinfo] at hconfigured
    obtain ⟨hup', hindex, haddress, hrequests⟩ := hconfigured
    have hsince : c.requestsSince ((c.configureDhcp (Message.ack next source server offered netmask
        gateway dns) allSucceed n₁ n₂).2.enter .bound) =
        leaseRequests offered netmask gateway c.mInterface.mIndex := hrequests
    obtain ⟨hhost, hmask, hdefault⟩ := after_leaseRequests hK hroute hkernel
    rw [hsince]
    exact ⟨rfl, hup', hhost, hmask, hdefault.trans (congrArg (fun i => some (gateway, i))
      hindex.symm), haddress, hframe.serverAddress⟩

end Ack

structure Reaches (c c' : DhcpClient) : Prop where
  run : ∃ tr, clientMachine.Run (fun _ input => input.Silent) c tr c'
  interface : c'.mInterface = c.mInterface
  router : c'.mRouter = c.mRouter

theorem Reaches.refl (c : DhcpClient) : c.Reaches c := ⟨⟨[], .nil⟩, rfl, rfl⟩

theorem Reaches.trans {c c' c'' : DhcpClient} (h : c.Reaches c') (h' : c'.Reaches c'') :
    c.Reaches c'' := by
  obtain ⟨tr, run⟩ := h.run
  obtain ⟨tr', run'⟩ := h'.run
  exact ⟨⟨tr ++ tr', run.trans run'⟩, h'.interface.trans h.interface, h'.router.trans h.router⟩

theorem reaches_step {c c' : DhcpClient} {input : ClientInput} {es : List Event}
    (hs : c.step input = some (c', es)) (hsilent : input.Silent)
    (hi : c'.mInterface = c.mInterface) (hr : c'.mRouter = c.mRouter) : c.Reaches c' :=
  ⟨⟨[] ++ es, .snoc .nil hsilent hs⟩, hi, hr⟩

theorem reaches_quiet (c : DhcpClient) : c.Reaches { c with polling := none } := by
  cases hp : c.polling with
  | none =>
    have heq : { c with polling := none } = c := by rw [← hp]
    rw [heq]
    exact .refl c
  | some timeout =>
    have hs : c.step (.poll 0 0 .timeout) = some ({ c with polling := none }, []) := by
      simp only [step, hp, pollRound, leaveWait]
    exact reaches_step hs trivial rfl rfl

def lastMoment : UInt64 := 0xFFFFFFFFFFFFFFFF

theorem zero_within_span : -kTimeoutSpan ≤ 0 ∧ 0 ≤ kTimeoutSpan := by
  unfold kTimeoutSpan
  constructor <;> omega

def unadjusted : Adjustment := ⟨0, zero_within_span⟩

theorem expired_lastMoment (t : Timer) : t.expired lastMoment = true := by
  rw [Timer.expired_iff]
  have hlt := t.mExpires.toNat_lt
  have hlast : lastMoment.toNat = 2 ^ 64 - 1 := rfl
  omega

theorem reaches_state {c : DhcpClient} (hp : c.polling = none) {state : State}
    (heval : c.evaluateState lastMoment lastMoment = c.setNextState state) :
    c.Reaches (c.enter state) := by
  have hs : c.step (.evaluate lastMoment lastMoment unadjusted) =
      some (c.enter state, [.moved state]) := by
    simp only [step, hp, heval]
    rw [setNextState_beginWait hp]
    rfl
  exact reaches_step hs trivial rfl rfl

theorem reaches_transmit {c : DhcpClient} (hp : c.polling = none) {message : Message}
    (heval : c.evaluateState lastMoment lastMoment =
      ((c.send message).1.increaseTimeout, (c.send message).2)) :
    c.Reaches { (c.send message).1.increaseTimeout with polling := none } := by
  have hs : c.step (.evaluate lastMoment lastMoment unadjusted) =
      some (c.transmit message unadjusted, (c.send message).2) := by
    simp only [step, hp, heval]
    rfl
  have hsent : c.Reaches (c.transmit message unadjusted) := reaches_step hs trivial rfl rfl
  exact hsent.trans (reaches_quiet _)

theorem gives_up (c : DhcpClient) (hp : c.polling = none)
    (hs : c.mState = .requesting ∨ c.mState = .rebinding) :
    ∃ c', c.Reaches c' ∧ c'.mState = .init ∧ c'.polling = none := by
  induction hn : 64000 - c.mNextTimeout.toNat using Nat.strong_induction_on generalizing c with
  | _ n ih =>
    by_cases hmax : c.mNextTimeout ≥ kMaxTimeout
    · refine ⟨c.enter .init, reaches_state hp ?_, rfl, rfl⟩
      rcases hs with hs | hs <;> simp only [evaluateState, hs, hmax, if_true]
    · have hlt := UInt32.lt_iff_toNat_lt.mp (UInt32.not_le.mp hmax)
      have hgrows := increasedTimeout_toNat c.mNextTimeout
      obtain ⟨destination, heval⟩ : ∃ d, c.evaluateState lastMoment lastMoment =
          ((c.send (c.requestTo d)).1.increaseTimeout, (c.send (c.requestTo d)).2) := by
        rcases hs with hs | hs
        · exact ⟨c.mServerAddress, by simp only [evaluateState, hs, hmax, if_false]; rfl⟩
        · exact ⟨inaddrBroadcast, by simp only [evaluateState, hs, hmax, if_false]; rfl⟩
      have hless : 64000 - (increasedTimeout c.mNextTimeout).toNat < n := by
        have hmax' : kMaxTimeout.toNat = 64000 := rfl
        split_ifs at hgrows with hzero
        · rw [hzero, show kNoTimeout.toNat = 0 from rfl] at hn
          omega
        · have hpos : c.mNextTimeout.toNat ≠ 0 := fun h => hzero (UInt32.toNat_inj.mp h)
          omega
      obtain ⟨c', hreach, hinit⟩ := ih _ hless
        { (c.send (c.requestTo destination)).1.increaseTimeout with polling := none } rfl hs rfl
      exact ⟨c', (reaches_transmit hp heval).trans hreach, hinit⟩

theorem reaches_selecting (c : DhcpClient) :
    ∃ c', c.Reaches c' ∧ c'.mState = .selecting ∧ c'.polling = none := by
  have hinit (c : DhcpClient) (hp : c.polling = none) (hs : c.mState = .init) :
      ∃ c', c.Reaches c' ∧ c'.mState = .selecting ∧ c'.polling = none := by
    refine ⟨c.enter .selecting, reaches_state hp ?_, rfl, rfl⟩
    simp only [evaluateState, hs]
  have hretry (c : DhcpClient) (hp : c.polling = none)
      (hs : c.mState = .requesting ∨ c.mState = .rebinding) :
      ∃ c', c.Reaches c' ∧ c'.mState = .selecting ∧ c'.polling = none := by
    obtain ⟨c₁, h₁, hs₁, hp₁⟩ := gives_up c hp hs
    obtain ⟨c₂, h₂, hend⟩ := hinit c₁ hp₁ hs₁
    exact ⟨c₂, h₁.trans h₂, hend⟩
  have hrenew (c : DhcpClient) (hp : c.polling = none) (hs : c.mState = .renewing) :
      ∃ c', c.Reaches c' ∧ c'.mState = .selecting ∧ c'.polling = none := by
    obtain ⟨c', h, hend⟩ := hretry (c.enter .rebinding) rfl (.inr rfl)
    refine ⟨c', (reaches_state hp ?_).trans h, hend⟩
    simp only [evaluateState, hs, expired_lastMoment, if_true]
  have hquiet := reaches_quiet c
  cases hs : c.mState with
  | init =>
    obtain ⟨c', h, hend⟩ := hinit { c with polling := none } rfl hs
    exact ⟨c', hquiet.trans h, hend⟩
  | selecting => exact ⟨_, hquiet, hs, rfl⟩
  | requesting =>
    obtain ⟨c', h, hend⟩ := hretry { c with polling := none } rfl (.inl hs)
    exact ⟨c', hquiet.trans h, hend⟩
  | bound =>
    obtain ⟨c', h, hend⟩ := hrenew ({ c with polling := none }.enter .renewing) rfl rfl
    refine ⟨c', (hquiet.trans (reaches_state rfl ?_)).trans h, hend⟩
    simp only [evaluateState, hs, expired_lastMoment, if_true]
  | renewing =>
    obtain ⟨c', h, hend⟩ := hrenew { c with polling := none } rfl hs
    exact ⟨c', hquiet.trans h, hend⟩
  | rebinding =>
    obtain ⟨c', h, hend⟩ := hretry { c with polling := none } rfl (.inr hs)
    exact ⟨c', hquiet.trans h, hend⟩

end DhcpClient

namespace Network
variable {ι : Type*} [DecidableEq ι] {interfaceIndex : UInt32}

/-- Some order of steps leads from one state of the network to the other, and only the
server and one client take part. -/
structure Leads (interfaceIndex : UInt32) (i : ι) (n n' : Network ι) : Prop where
  run : ∃ tr, (networkMachine interfaceIndex).Run (fun _ _ => True) n tr n'
  others : ∀ j ≠ i, n'.client j = n.client j

variable {n n' : Network ι} {i : ι}

theorem Leads.refl (interfaceIndex : UInt32) (i : ι) (n : Network ι) :
    Leads interfaceIndex i n n := ⟨⟨[], .nil⟩, fun _ _ => rfl⟩

theorem Leads.client (h : Leads interfaceIndex i n n') {input : ClientInput} {c : DhcpClient}
    {es : List Event} (hs : (n'.client i).step input = some (c, es))
    (hcarries : input.Carries n'.replies) : Leads interfaceIndex i n { n' with
      client := Function.update n'.client i c, requests := n'.requests ++ transmitted es } := by
  obtain ⟨tr, run⟩ := h.run
  refine ⟨⟨tr ++ es.map fun e => (i, e), run.snoc trivial (i := .client i input) ?_⟩, ?_⟩
  · change Network.step interfaceIndex n' (.client i input) = _
    simp only [Network.step, hcarries, if_true, hs]
  · intro j hj
    exact (Function.update_of_ne hj _ _).trans (h.others j hj)

theorem Leads.server (h : Leads interfaceIndex i n n') {input : ServerInput} {s : DhcpServer}
    {sent : List Sent} (hs : n'.server.round input = some (s, sent))
    (hcarries : input.Carries n'.requests interfaceIndex) : Leads interfaceIndex i n { n' with
      server := s, replies := n'.replies ++ sent.map fun r => r.message.wire } := by
  obtain ⟨tr, run⟩ := h.run
  refine ⟨⟨tr ++ [], run.snoc trivial (i := .server input) ?_⟩, h.others⟩
  change Network.step interfaceIndex n' (.server input) = _
  simp only [Network.step, hcarries, if_true, hs]

theorem leads_silent (interfaceIndex : UInt32) {tr : List Event} {c : DhcpClient}
    (run : clientMachine.Run (fun _ input => input.Silent) (n.client i) tr c) :
    ∃ n', Leads interfaceIndex i n n' ∧ n'.client i = c ∧ n'.server = n.server := by
  induction run with
  | nil => exact ⟨n, .refl interfaceIndex i n, rfl, rfl⟩
  | @snoc tr es c c' input hrun hsilent hs ih =>
    obtain ⟨n', hleads, hc, hserver⟩ := ih
    have hcarries : input.Carries n'.replies := by
      cases input with
      | evaluate => trivial
      | poll t₁ t₂ result =>
        cases result with
        | timeout => trivial
        | readable => exact hsilent.elim
        | failed => exact hsilent.elim
    have hstep : (n'.client i).step input = some (c', es) := hc.symm ▸ hs
    exact ⟨_, hleads.client hstep hcarries, by simp, hserver⟩

def serving (interfaceIndex serverAddress : UInt32) (message : Message) : ServerInput where
  received := some (message.wire, interfaceIndex)
  dnsProperty _ := none
  interfaceAddress := some serverAddress

variable (serverAddress : UInt32) {a : UInt32}

/-- The client sends a message, and the server's reply to it reaches the client. -/
theorem leads_exchange {c c' : DhcpClient} {q reply : Message} {state : State}
    {s' : DhcpServer} {es : List Event} {io : IoOutcome} (hc : n.client i = c)
    (hsend : c.step (.evaluate 0 0 DhcpClient.unadjusted) =
      some (c.transmit q DhcpClient.unadjusted, [.sent state c.mInterface.isUp q]))
    (hup : c.mInterface.isUp = true)
    (hround : n.server.round (serving interfaceIndex serverAddress q) =
      some (s', [⟨interfaceIndex, reply⟩]))
    (hread : (c.transmit q DhcpClient.unadjusted).step (.poll 0 0 (.readable
      (some (DhcpClient.framed serverAddress reply)) io 0 0)) = some (c', es)) :
    ∃ n', Leads interfaceIndex i n n' ∧ n'.client i = c' ∧ n'.server = s' := by
  subst hc
  have hsent := (Leads.refl interfaceIndex i n).client hsend trivial
  have hserve := hsent.server hround (by
    intro r hr
    obtain rfl := Option.some.inj hr
    simp [hup, transmitted])
  have hclient : (Function.update n.client i ((n.client i).transmit q DhcpClient.unadjusted)) i =
    (n.client i).transmit q DhcpClient.unadjusted := Function.update_self _ _ _
  refine ⟨_, hserve.client (hclient ▸ hread) ?_, Function.update_self _ _ _, rfl⟩
  change (DhcpClient.framed serverAddress _).drop headersSize ∈ _
  rw [DhcpClient.framed_drop]
  exact List.mem_append_right _ (List.mem_singleton.mpr rfl)

theorem leads_requesting {s₁ : DhcpServer}
    (hs : (n.client i).mState = .selecting) (hp : (n.client i).polling = none)
    (hup : (n.client i).mInterface.isUp = true)
    (hserved : interfaceIndex ≠ 0 ∧ n.server.mExcludeInterface ≠ interfaceIndex)
    (hoffer : n.server.getOfferAddress interfaceIndex (n.client i).mInterface.mMacAddress =
      some (.ok a, s₁)) :
    ∃ n', Leads interfaceIndex i n n' ∧ (n'.client i).mState = .requesting ∧
      (n'.client i).polling = none ∧ (n'.client i).mNextTimeout = kNoTimeout ∧
      (n'.client i).mServerAddress = serverAddress ∧ (n'.client i).mRequestAddress = a ∧
      (n'.client i).mInterface = (n.client i).mInterface ∧
      (n'.client i).mRouter = (n.client i).mRouter ∧
      n'.server.leaseAddress ⟨interfaceIndex, (n.client i).mInterface.mMacAddress⟩ = some a ∧
      n.server.SameSettings n'.server := by
  generalize hc : n.client i = c at *
  obtain ⟨d, hd⟩ : ∃ d, d = Message.discover c.sNextTransactionId c.mInterface.mMacAddress :=
    ⟨_, rfl⟩
  have hdiscover : c.step (.evaluate 0 0 DhcpClient.unadjusted) =
      some (c.transmit d DhcpClient.unadjusted, [.sent .selecting c.mInterface.isUp d]) := by
    rw [hd]
    exact DhcpClient.step_selecting hp hs 0 0 _
  have hrecv : (serving interfaceIndex serverAddress d).received = some
      ((Message.discover c.sNextTransactionId c.mInterface.mMacAddress).wire, interfaceIndex) := by
    rw [hd]
    rfl
  obtain ⟨s', m, next, hsame, hround, hlease, hset⟩ :=
    DhcpServer.round_discover hrecv rfl hserved hoffer
  have hdns := n.server.updateDnsServers_length (serving interfaceIndex serverAddress d)
  have hsize : 240 ≤ d.mSize := hd ▸ (discover_layout _ _).size_ge
  have hreceive := (c.transmit d DhcpClient.unadjusted).receives_reply (hd ▸ hsame) hsize
    dhcpOffer next serverAddress a n.server.mNetmask n.server.mGateway hdns
  have hlay := leaseReply_layout dhcpOffer next m serverAddress a n.server.mNetmask
    n.server.mGateway hdns
  have hread := leaseReply_readsBack dhcpOffer next m serverAddress a n.server.mNetmask
    n.server.mGateway hdns
  have hoffered := DhcpClient.step_offer (c.transmit_polling d _) hs hreceive hread.type_eq 0 0 0 0
    DhcpClient.allSucceed
  obtain ⟨n', hleads, hclient, hserver⟩ :=
    leads_exchange serverAddress hc hdiscover hup hround hoffered
  refine ⟨n', hleads, ?_⟩
  rw [hclient, hserver]
  simp only [DhcpClient.enter]
  exact ⟨trivial, trivial, trivial, hread.serverId_eq, hlay.yiaddr_eq, rfl, rfl, hlease, hset⟩

theorem leads_bound {κ : Type*} {K : Kernel κ} (hK : K.Documented) {k : κ}
    (hroute : DhcpClient.TakesRoute K a n.server.mNetmask n.server.mGateway
      (n.client i).mInterface.mIndex)
    (hkernel : K.isUp k = true) (hs : (n.client i).mState = .requesting)
    (hp : (n.client i).polling = none)
    (ht : (n.client i).mNextTimeout = kNoTimeout) (hup : (n.client i).mInterface.isUp = true)
    (haddress : (n.client i).mRequestAddress = a)
    (hserver : (n.client i).mServerAddress = serverAddress)
    (hserved : interfaceIndex ≠ 0 ∧ n.server.mExcludeInterface ≠ interfaceIndex)
    (hlease : n.server.leaseAddress ⟨interfaceIndex, (n.client i).mInterface.mMacAddress⟩ =
      some a) :
    ∃ n', Leads interfaceIndex i n n' ∧
      (n'.client i).BoundTo K (K.after k ((n.client i).requestsSince (n'.client i))) serverAddress a
        n.server.mNetmask n.server.mGateway ∧
      n'.server.leaseAddress ⟨interfaceIndex, (n.client i).mInterface.mMacAddress⟩ = some a := by
  generalize hc : n.client i = c at *
  obtain ⟨q, hq⟩ : ∃ q, q = Message.request c.sNextTransactionId c.mInterface.mMacAddress a
      serverAddress := ⟨_, rfl⟩
  have hrequest : c.step (.evaluate 0 0 DhcpClient.unadjusted) =
      some (c.transmit q DhcpClient.unadjusted, [.sent .requesting c.mInterface.isUp q]) := by
    rw [hq, ← haddress, ← hserver]
    exact DhcpClient.step_requesting hp hs (ht ▸ by decide) 0 0 _
  have hrecv : (serving interfaceIndex serverAddress q).received = some
      ((Message.request c.sNextTransactionId c.mInterface.mMacAddress a serverAddress).wire,
        interfaceIndex) := by
    rw [hq]
    rfl
  obtain ⟨s', m, next, hsame, hround, hlease'⟩ :=
    DhcpServer.round_request hrecv rfl hserved hlease
  have hdns := n.server.updateDnsServers_length (serving interfaceIndex serverAddress q)
  have hsize : 240 ≤ q.mSize := hq ▸ (request_layout _ _ _ _).size_ge
  have hreceive := (c.transmit q DhcpClient.unadjusted).receives_reply (hq ▸ hsame) hsize
    dhcpAck next serverAddress a n.server.mNetmask n.server.mGateway hdns
  have hread := leaseReply_readsBack dhcpAck next m serverAddress a n.server.mNetmask
    n.server.mGateway hdns
  have hgrants := (c.transmit q DhcpClient.unadjusted).ack_grants next m serverAddress a
    n.server.mNetmask n.server.mGateway hdns
  have hacked := DhcpClient.step_ack (c.transmit_polling q _) (.inl hs) hreceive hread.type_eq
    hgrants 0 0 0 0
  obtain ⟨n', hleads, hclient, hafter⟩ :=
    leads_exchange serverAddress hc hrequest hup hround hacked
  refine ⟨n', hleads, ?_, hafter ▸ hlease'⟩
  rw [hclient]
  have hbound := (c.transmit q DhcpClient.unadjusted).configureDhcp_ack next m serverAddress a
    n.server.mNetmask n.server.mGateway hK hroute hkernel hup hdns 0 0 rfl
  have hsince (d : DhcpClient) :
      (c.transmit q DhcpClient.unadjusted).requestsSince d = c.requestsSince d := rfl
  rwa [show (c.transmit q DhcpClient.unadjusted).mServerAddress = serverAddress from hserver,
    hsince] at hbound

end Network

/-- From any state of the network, a client whose interface is up can obtain the address
that the server has for it, whatever state it is in, with the server and this client alone
taking steps. Its host then has the address, the netmask and the default route of the lease,
if the kernel takes the route. -/
theorem lease_obtained {ι κ : Type*} [DecidableEq ι] {K : Kernel κ} (hK : K.Documented)
    (interfaceIndex serverAddress : UInt32) (n : Network ι) (i : ι) (k : κ) {a : UInt32}
    {s₁ : DhcpServer} (hup : (n.client i).mInterface.isUp = true) (hkernel : K.isUp k = true)
    (hroute : DhcpClient.TakesRoute K a n.server.mNetmask n.server.mGateway
      (n.client i).mInterface.mIndex)
    (hserved : interfaceIndex ≠ 0 ∧ n.server.mExcludeInterface ≠ interfaceIndex)
    (hoffer : n.server.getOfferAddress interfaceIndex (n.client i).mInterface.mMacAddress =
      some (.ok a, s₁)) :
    ∃ tr n', (networkMachine interfaceIndex).Run (fun _ _ => True) n tr n' ∧
      (n'.client i).BoundTo K (K.after k ((n.client i).requestsSince (n'.client i))) serverAddress a
        n.server.mNetmask n.server.mGateway ∧
      n'.server.leaseAddress ⟨interfaceIndex, (n.client i).mInterface.mMacAddress⟩ = some a ∧
      ∀ j ≠ i, n'.client j = n.client j := by
  obtain ⟨c, hreaches, hselecting, hpolling⟩ := (n.client i).reaches_selecting
  obtain ⟨tr, run⟩ := hreaches.run
  obtain ⟨n₁, h₁, rfl, hserver⟩ := Network.leads_silent interfaceIndex run
  have hi := hreaches.interface
  obtain ⟨n₂, h₂, hs, hp, ht, haddress, hrequest, hi', hr', hlease, hset⟩ :=
    Network.leads_requesting serverAddress hselecting hpolling (hi ▸ hup)
      (hserver ▸ hserved) (by rw [hi, hserver]; exact hoffer)
  rw [hi] at hi' hlease
  rw [hreaches.router] at hr'
  have hmask : n₂.server.mNetmask = n.server.mNetmask := by rw [hset.netmask, hserver]
  have hgateway : n₂.server.mGateway = n.server.mGateway := by rw [hset.gateway, hserver]
  obtain ⟨n₃, h₃, hbound, hlease'⟩ := Network.leads_bound serverAddress hK (k := k)
    (by rw [hmask, hgateway, hi']; exact hroute) hkernel hs hp ht (hi' ▸ hup) hrequest haddress
    (by rw [hset.excluded, hserver]; exact hserved) (hi'.symm ▸ hlease)
  obtain ⟨tr₁, run₁⟩ := h₁.run
  obtain ⟨tr₂, run₂⟩ := h₂.run
  obtain ⟨tr₃, run₃⟩ := h₃.run
  have hsince : (n₂.client i).requestsSince (n₃.client i) =
      (n.client i).requestsSince (n₃.client i) := by
    rw [DhcpClient.requestsSince, DhcpClient.requestsSince, hi', hr']
  rw [hsince, hmask, hgateway] at hbound
  rw [hi'] at hlease'
  refine ⟨_, n₃, (run₁.trans run₂).trans run₃, hbound, hlease', fun j hj => ?_⟩
  exact (h₃.others j hj).trans ((h₂.others j hj).trans (h₁.others j hj))

theorem lease_obtained_first : ∃ (n : Network Bool) (h : HostConfig),
    (n.client false).BoundTo hostKernel h 0x0100000a 0x0200000a 0x00ffffff 0x0100000a := by
  have hoffer : Network.pair.server.getOfferAddress 2
      (Network.pair.client false).mInterface.mMacAddress = some (.ok 0x0200000a, _) := rfl
  have hroute : DhcpClient.TakesRoute hostKernel 0x0200000a 0x00ffffff 0x0100000a 2 := by
    intro k hup haddress hmask
    have hreached : (0x0100000a : UInt32) &&& k.netmask = k.address &&& k.netmask := by
      rw [show k.netmask = 0x00ffffff from hmask, show k.address = 0x0200000a from haddress]
      decide
    simp [hostKernel, HostConfig.perform, show k.isUp = true from hup, hreached]
  obtain ⟨tr, n, -, hbound, -⟩ := lease_obtained hostKernel_documented 2 0x0100000a Network.pair
    false ⟨true, 1500, 0, 0, none⟩ rfl rfl hroute (by decide) hoffer
  exact ⟨n, _, hbound⟩

end Rpi3Device.Dhcp
