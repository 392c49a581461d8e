import Rpi3Device.Dhcp.Message
import Rpi3Device.TagLengthValue

/-!
# What the builders write and the accessors read

`Layout` describes a message by the values of its header fields and its list of
options; every builder step keeps it. A message whose option area is closed by
`optEnd` is then read back from its layout alone: the search of `getOption`
agrees with `locate` on the option list, and no payload byte is taken for an
option code.
-/

namespace Rpi3Device.Dhcp
open ByteMemory TagLengthValue

structure Header where
  op : UInt8
  xid : UInt32
  flags : UInt16
  yiaddr : UInt32
  giaddr : UInt32
  mac : MacAddress

structure Layout (m : Message) (hd : Header) (es : List Entry) (tail : List UInt8) : Prop where
  fixed : HoldsAt m.dhcpData 0 [hd.op, htypeEther, ethAlen, 0]
  xid : HoldsAt m.dhcpData 4 (bytes32 hd.xid)
  flags : HoldsAt m.dhcpData 10 (bytes16 hd.flags)
  yiaddr : HoldsAt m.dhcpData 16 (bytes32 hd.yiaddr)
  giaddr : HoldsAt m.dhcpData 24 (bytes32 hd.giaddr)
  chaddr : HoldsAt m.dhcpData 28 hd.mac.toList
  area : HoldsAt m.dhcpData optionsOffset (optCookie ++ (encode es ++ tail))
  size : m.mSize = optionsOffset + 4 + (encode es).length + tail.length
  above : ∀ i, m.mSize ≤ i → m.dhcpData i = 0

namespace Layout
variable {m : Message} {hd : Header} {es : List Entry} {tail : List UInt8}

theorem size_ge (h : Layout m hd es tail) : 240 ≤ m.mSize := by
  have hs := h.size
  simp only [optionsOffset] at hs
  omega

theorem op_eq (h : Layout m hd es tail) : m.op = hd.op := h.fixed 0 (by simp)

theorem xid_eq (h : Layout m hd es tail) : m.xid = hd.xid := load32_of_holdsAt h.xid

theorem flags_eq (h : Layout m hd es tail) : m.flags = hd.flags := load16_of_holdsAt h.flags

theorem yiaddr_eq (h : Layout m hd es tail) : m.yiaddr = hd.yiaddr := load32_of_holdsAt h.yiaddr

theorem giaddr_eq (h : Layout m hd es tail) : m.giaddr = hd.giaddr := load32_of_holdsAt h.giaddr

theorem chaddr_eq (h : Layout m hd es tail) : m.chaddr = hd.mac := by
  apply Vector.ext
  intro i hi
  have hb := h.chaddr i (by simpa using hi)
  simpa [Message.chaddr] using hb

theorem valid (h : Layout m hd es tail) : m.isValidDhcpMessage hd.op = true := by
  have hs := h.size_ge
  have h₁ : m.htype = htypeEther := h.fixed 1 (by simp)
  have h₂ : m.hlen = ethAlen := h.fixed 2 (by simp)
  have hc := (holdsAt_append.mp h.area).1
  simp only [optCookie, holdsAt_cons, holdsAt_nil, and_true, Nat.add_assoc, Nat.reduceAdd] at hc
  obtain ⟨c₀, c₁, c₂, c₃⟩ := hc
  have hsize : ¬ optionsOffset + 4 > m.mSize := by
    simp only [optionsOffset]
    omega
  simp [Message.isValidDhcpMessage, hsize, h.op_eq, h₁, h₂, Message.options, c₀, c₁, c₂, c₃,
    optCookie]

theorem above_write (h : Layout m hd es tail) {off : ℕ} {bs : List UInt8}
    (hle : off + bs.length ≤ 240) (i : ℕ) (hi : (m.write off bs).mSize ≤ i) :
    (m.write off bs).dhcpData i = 0 := by
  have hs := h.size_ge
  change m.mSize ≤ i at hi
  exact (store_above _ _ (by omega)).trans (h.above i hi)

theorem setXid (h : Layout m hd es tail) (x : UInt32) :
    Layout (m.setXid x) { hd with xid := x } es tail where
  fixed := h.fixed.store_disjoint (by simp)
  xid := holdsAt_store _ _ _
  flags := h.flags.store_disjoint (by simp)
  yiaddr := h.yiaddr.store_disjoint (by simp)
  giaddr := h.giaddr.store_disjoint (by simp)
  chaddr := h.chaddr.store_disjoint (by simp)
  area := h.area.store_disjoint (.inr (by simp [optionsOffset]))
  size := h.size
  above := h.above_write (by simp)

theorem setFlags (h : Layout m hd es tail) (x : UInt16) :
    Layout (m.setFlags x) { hd with flags := x } es tail where
  fixed := h.fixed.store_disjoint (by simp)
  xid := h.xid.store_disjoint (by simp)
  flags := holdsAt_store _ _ _
  yiaddr := h.yiaddr.store_disjoint (by simp)
  giaddr := h.giaddr.store_disjoint (by simp)
  chaddr := h.chaddr.store_disjoint (by simp)
  area := h.area.store_disjoint (.inr (by simp [optionsOffset]))
  size := h.size
  above := h.above_write (by simp)

theorem setYiaddr (h : Layout m hd es tail) (x : UInt32) :
    Layout (m.setYiaddr x) { hd with yiaddr := x } es tail where
  fixed := h.fixed.store_disjoint (by simp)
  xid := h.xid.store_disjoint (by simp)
  flags := h.flags.store_disjoint (by simp)
  yiaddr := holdsAt_store _ _ _
  giaddr := h.giaddr.store_disjoint (by simp)
  chaddr := h.chaddr.store_disjoint (by simp)
  area := h.area.store_disjoint (.inr (by simp [optionsOffset]))
  size := h.size
  above := h.above_write (by simp)

theorem setGiaddr (h : Layout m hd es tail) (x : UInt32) :
    Layout (m.setGiaddr x) { hd with giaddr := x } es tail where
  fixed := h.fixed.store_disjoint (by simp)
  xid := h.xid.store_disjoint (by simp)
  flags := h.flags.store_disjoint (by simp)
  yiaddr := h.yiaddr.store_disjoint (by simp)
  giaddr := holdsAt_store _ _ _
  chaddr := h.chaddr.store_disjoint (by simp)
  area := h.area.store_disjoint (.inr (by simp [optionsOffset]))
  size := h.size
  above := h.above_write (by simp)

theorem append (h : Layout m hd es []) (fs : List Entry) (bs : List UInt8) :
    Layout ⟨store m.dhcpData m.mSize (encode fs ++ bs), m.mSize + (encode fs ++ bs).length⟩ hd
      (es ++ fs) bs := by
  have hs := h.size
  have hge := h.size_ge
  have hlow {off : ℕ} {as : List UInt8} (ha : HoldsAt m.dhcpData off as)
      (hle : off + as.length ≤ m.mSize) :
      HoldsAt (store m.dhcpData m.mSize (encode fs ++ bs)) off as :=
    ha.store_disjoint (.inl hle)
  refine ⟨hlow h.fixed (by simp; omega), hlow h.xid (by simp; omega),
    hlow h.flags (by simp; omega), hlow h.yiaddr (by simp; omega),
    hlow h.giaddr (by simp; omega), hlow h.chaddr (by simp; omega), ?_, ?_, ?_⟩
  · have harea := h.area
    simp only [List.append_nil, List.length_nil, Nat.add_zero] at harea hs
    have hend : m.mSize = optionsOffset + (optCookie ++ encode es).length := by
      rw [hs, List.length_append]
      simp only [optCookie, List.length_cons, List.length_nil]
      omega
    have hnew := holdsAt_store m.dhcpData m.mSize (encode fs ++ bs)
    rw [encode_append, List.append_assoc, ← List.append_assoc]
    refine holdsAt_append.mpr ⟨hlow harea hend.ge, ?_⟩
    rw [← hend]
    exact hnew
  · simp only [encode_append, List.length_append, List.length_nil, Nat.add_zero] at hs ⊢
    omega
  · intro i hi
    change m.mSize + (encode fs ++ bs).length ≤ i at hi
    exact (store_above _ _ hi).trans (h.above i (by omega))

theorem addOption (h : Layout m hd es []) (type : UInt8) {data : List UInt8}
    (hd' : data.length < 256) : Layout (m.addOption type data) hd (es ++ [⟨type, data⟩]) [] := by
  have hlen : (UInt8.ofNat data.length).toNat = data.length := by
    simpa only [UInt8.toNat_ofNat'] using Nat.mod_eq_of_lt hd'
  have hm : m.addOption type data =
      ⟨store m.dhcpData m.mSize (encode [⟨type, data⟩] ++ []),
        m.mSize + (encode [⟨type, data⟩] ++ []).length⟩ := by
    simp only [Message.addOption, encode, Entry.length, hlen, List.take_length, List.append_nil,
      List.length_cons, Message.mk.injEq, true_and]
    omega
  rw [hm]
  exact h.append [⟨type, data⟩] []

theorem endOptions (h : Layout m hd es []) : Layout m.endOptions hd es [optEnd] := by
  have ha := h.append [] [optEnd]
  rw [List.append_nil] at ha
  exact ha

end Layout

theorem construct_layout (next : UInt32) (operation : UInt8) (mac : MacAddress) (type : UInt8) :
    Layout (Message.construct next operation mac type)
      ⟨operation, htonl next, htons flagsBroadcast, 0, 0, mac⟩ [⟨optMessageType, [type]⟩] [] := by
  have hzero (off : ℕ) : HoldsAt (fun _ => (0 : UInt8)) off (bytes32 0) := by
    simp [bytes32, holdsAt_cons]
  refine ⟨?_, ?_, ?_, ?_, ?_, ?_, ?_, ?_, ?_⟩
  · exact ((((holdsAt_store _ _ _).store_disjoint (by simp)).store_disjoint
      (by simp)).store_disjoint (by simp)).store_disjoint (by simp [optionsOffset])
  · exact ((holdsAt_store _ _ _).store_disjoint (by simp)).store_disjoint
      (by simp [optionsOffset])
  · exact (((holdsAt_store _ _ _).store_disjoint (by simp)).store_disjoint
      (by simp)).store_disjoint (by simp [optionsOffset])
  · exact (((((hzero 16).store_disjoint (by simp)).store_disjoint (by simp)).store_disjoint
      (by simp)).store_disjoint (by simp)).store_disjoint (by simp [optionsOffset])
  · exact (((((hzero 24).store_disjoint (by simp)).store_disjoint (by simp)).store_disjoint
      (by simp)).store_disjoint (by simp)).store_disjoint (by simp [optionsOffset])
  · exact (holdsAt_store _ _ _).store_disjoint (by simp [optionsOffset])
  · exact holdsAt_store _ _ _
  · rfl
  · intro i hi
    have hi' : 243 ≤ i := hi
    simp only [Message.construct]
    rw [store_above _ _ (by simp [optionsOffset, optCookie]; omega),
      store_above _ _ (by simp; omega), store_above _ _ (by simp; omega),
      store_above _ _ (by simp; omega), store_above _ _ (by simp; omega)]

def discoverOptions : List Entry :=
  [⟨optMessageType, [dhcpDiscover]⟩, ⟨optParameterList, kRequestParameters⟩]

def requestOptions (requestAddress serverAddress : UInt32) : List Entry :=
  [⟨optMessageType, [dhcpRequest]⟩, ⟨optParameterList, kRequestParameters⟩,
    ⟨optRequestedIp, bytes32 requestAddress⟩, ⟨optServerId, bytes32 serverAddress⟩]

def leaseOptions (type : UInt8) (serverAddress netmask gateway : UInt32) (dns : List UInt32) :
    List Entry :=
  [⟨optMessageType, [type]⟩, ⟨optServerId, bytes32 serverAddress⟩,
    ⟨optLeaseTime, bytes32 kDefaultLeaseTime⟩, ⟨optSubnetMask, bytes32 netmask⟩,
    ⟨optGateway, bytes32 gateway⟩, ⟨optDns, dns.flatMap bytes32⟩]

def nackOptions (serverAddress : UInt32) : List Entry :=
  [⟨optMessageType, [dhcpNak]⟩, ⟨optServerId, bytes32 serverAddress⟩]

def replyHeader (sourceMessage : Message) (yiaddr : UInt32) : Header :=
  ⟨opBootReply, sourceMessage.xid, sourceMessage.flags, yiaddr, sourceMessage.giaddr,
    sourceMessage.chaddr⟩

theorem dns_bytes_length (dns : List UInt32) : (dns.flatMap bytes32).length = 4 * dns.length := by
  induction dns with
  | nil => rfl
  | cons a dns ih =>
    simp only [List.flatMap_cons, List.length_append, bytes32_length, ih, List.length_cons]
    omega

theorem discover_layout (next : UInt32) (mac : MacAddress) :
    Layout (Message.discover next mac)
      ⟨opBootRequest, htonl next, htons flagsBroadcast, 0, 0, mac⟩ discoverOptions [optEnd] :=
  ((construct_layout _ _ _ _).addOption _ (by decide)).endOptions

theorem request_layout (next : UInt32) (mac : MacAddress) (requestAddress serverAddress : UInt32) :
    Layout (Message.request next mac requestAddress serverAddress)
      ⟨opBootRequest, htonl next, htons flagsBroadcast, 0, 0, mac⟩
      (requestOptions requestAddress serverAddress) [optEnd] :=
  ((((construct_layout _ _ _ _).addOption _ (by decide)).addOption _ (by simp)).addOption _
    (by simp)).endOptions

theorem leaseReply_layout (type : UInt8) (next : UInt32) (source : Message)
    (server offered netmask gateway : UInt32) {dns : List UInt32} (hdns : dns.length ≤ 4) :
    Layout (Message.leaseReply type next source server offered netmask gateway dns)
      (replyHeader source offered) (leaseOptions type server netmask gateway dns) [optEnd] := by
  have hlen : (dns.flatMap bytes32).length < 256 := by
    rw [dns_bytes_length]
    omega
  have hhead := ((((construct_layout next opBootReply source.chaddr type).setXid
    source.xid).setFlags source.flags).setYiaddr offered).setGiaddr source.giaddr
  exact (((((hhead.addOption optServerId (by simp)).addOption optLeaseTime
    (by simp)).addOption optSubnetMask (by simp)).addOption optGateway (by simp)).addOption
      optDns hlen).endOptions

theorem nack_layout (next : UInt32) (source : Message) (server : UInt32) :
    Layout (Message.nack next source server) (replyHeader source 0) (nackOptions server)
      [optEnd] :=
  ((((construct_layout next opBootReply source.chaddr dhcpNak).setXid source.xid).setFlags
    source.flags).setGiaddr source.giaddr |>.addOption optServerId (by simp)).endOptions

/-- Options as the builders add them: they fit their length byte, none is the
end marker, and no code occurs twice. -/
structure WellTagged (es : List Entry) : Prop where
  fits : ∀ e ∈ es, e.Fits
  ne_end : ∀ e ∈ es, e.tag ≠ optEnd
  nodup : (es.map Entry.tag).Nodup

theorem getOptionFrom_past {m : Message} {es : List Entry} {tail : List UInt8} (code : UInt8)
    {i : ℕ} (harea : HoldsAt m.dhcpData (optionsOffset + i) (encode es ++ tail))
    (hsize : m.optionsSize = i + (encode es).length + tail.length) (htail : 0 < tail.length)
    (hfits : ∀ e ∈ es, e.Fits) (hend : ∀ e ∈ es, e.tag ≠ optEnd) :
    m.getOptionFrom code i = ((locate code es i).map fun r => (r.1, r.2.length)).or
      (m.getOptionFrom code (i + (encode es).length)) := by
  induction es generalizing i with
  | nil => simp [encode, locate]
  | cons e es ih =>
    rw [encode_cons_length] at hsize ⊢
    obtain ⟨htag, hlen, -, hrest⟩ := holdsAt_encode_cons.mp harea
    have hfe : e.Fits := hfits e (by simp)
    have hgo : i + 2 < m.optionsSize := by omega
    have htag' : m.options i = e.tag := htag
    have hlen' : m.options (i + 1) = e.length := by
      simpa only [Message.options, Nat.add_assoc] using hlen
    rw [Message.getOptionFrom_eq, if_pos hgo, htag', hlen', if_neg (hend e (by simp)),
      hfe.length_toNat, locate]
    by_cases hc : e.tag = code
    · rw [if_pos hc, if_pos hc]
      rfl
    · rw [if_neg hc, if_neg hc, ih (by simpa only [Nat.add_assoc] using hrest) (by omega)
        (fun e' he' => hfits e' (by simp [he'])) (fun e' he' => hend e' (by simp [he']))]
      simp only [Nat.add_assoc]

theorem getOptionFrom_encoded {m : Message} {es : List Entry} (code : UInt8) {i : ℕ}
    (harea : HoldsAt m.dhcpData (optionsOffset + i) (encode es ++ [optEnd]))
    (hsize : m.optionsSize = i + (encode es).length + 1)
    (hfits : ∀ e ∈ es, e.Fits) (hend : ∀ e ∈ es, e.tag ≠ optEnd) :
    m.getOptionFrom code i = (locate code es i).map fun r => (r.1, r.2.length) := by
  -- only the end marker is left, and the loop bound already stops before it
  have hstop : m.getOptionFrom code (i + (encode es).length) = none := by
    rw [Message.getOptionFrom_eq, if_neg (by omega)]
  rw [getOptionFrom_past code harea hsize (by simp) hfits hend, hstop, Option.or_none]

namespace Layout
variable {m : Message} {hd : Header} {es : List Entry}

theorem optionsSize_eq {tail : List UInt8} (h : Layout m hd es tail) :
    m.optionsSize = 4 + (encode es).length + tail.length := by
  have hs := h.size
  have hne : ¬ m.mSize ≤ optionsOffset := by omega
  simp only [Message.optionsSize, hne, if_false]
  omega

theorem encoded (h : Layout m hd es [optEnd]) :
    HoldsAt m.dhcpData (optionsOffset + 4) (encode es ++ [optEnd]) :=
  (holdsAt_append.mp h.area).2

theorem getOption_eq (h : Layout m hd es [optEnd]) (hes : WellTagged es) (code : UInt8) :
    m.getOption code = (locate code es 4).map fun r => (r.1, r.2.length) :=
  getOptionFrom_encoded code h.encoded h.optionsSize_eq hes.fits hes.ne_end

theorem getOption_mem (h : Layout m hd es [optEnd]) (hes : WellTagged es) {e : Entry}
    (he : e ∈ es) : ∃ p, m.getOption e.tag = some (p, e.length) ∧
      HoldsAt m.dhcpData (optionsOffset + p) e.value := by
  obtain ⟨p, hp⟩ := locate_mem hes.nodup he 4
  exact ⟨p, by rw [h.getOption_eq hes, hp]; rfl, locate_holdsAt h.encoded hp⟩

theorem getOption_absent (h : Layout m hd es [optEnd]) (hes : WellTagged es) {code : UInt8}
    (hc : ∀ e ∈ es, e.tag ≠ code) : m.getOption code = none := by
  rw [h.getOption_eq hes, locate_none hc]
  rfl

theorem type_eq (h : Layout m hd es [optEnd]) (hes : WellTagged es) {type : UInt8}
    (he : ⟨optMessageType, [type]⟩ ∈ es) : m.type = type := by
  obtain ⟨p, hp, hv⟩ := h.getOption_mem hes he
  have hb := (holdsAt_cons.mp hv).1
  simp only [Message.type, hp]
  exact hb

theorem addressOption_mem (h : Layout m hd es [optEnd]) (hes : WellTagged es) {code : UInt8}
    {a : UInt32} (he : ⟨code, bytes32 a⟩ ∈ es) : m.addressOption code = a := by
  obtain ⟨p, hp, hv⟩ := h.getOption_mem hes he
  simp only [Message.addressOption, hp]
  exact load32_of_holdsAt hv

theorem addressOption_absent (h : Layout m hd es [optEnd]) (hes : WellTagged es) {code : UInt8}
    (hc : ∀ e ∈ es, e.tag ≠ code) : m.addressOption code = 0 := by
  simp only [Message.addressOption, h.getOption_absent hes hc]

theorem last_eq (h : Layout m hd es [optEnd]) : m.dhcpData (m.mSize - 1) = optEnd := by
  have hlast := (holdsAt_cons.mp (holdsAt_append.mp h.encoded).2).1
  have hs := h.size
  simp only [List.length_cons, List.length_nil] at hs
  rw [show m.mSize - 1 = optionsOffset + 4 + (encode es).length by omega]
  exact hlast

end Layout

theorem Layout.receive_wire {m old : Message} {hd : Header} {es : List Entry}
    {tail : List UInt8} (h : Layout m hd es tail) (hcap : m.mSize ≤ capacity)
    (hold : ∀ i, m.mSize ≤ i → old.dhcpData i = 0) : old.receive m.wire = m := by
  have hlen : m.wire.length = m.mSize := load_length _ _ _
  have htake : m.wire.take capacity = m.wire := List.take_of_length_le (by omega)
  have hdata : store old.dhcpData 0 m.wire = m.dhcpData := by
    funext i
    by_cases hi : i < m.mSize
    · have hk : i < m.wire.length := by omega
      have hin := store_inside old.dhcpData 0 hk
      have hget : m.wire[i] = m.dhcpData (0 + i) := load_getElem _ _ _ _ hk
      rw [hget, Nat.zero_add] at hin
      exact hin
    · rw [store_above _ _ (by omega), hold i (by omega), h.above i (by omega)]
  simp only [Message.receive, htake, hdata, hlen]

theorem discoverOptions_wellTagged : WellTagged discoverOptions := by
  refine ⟨?_, ?_, ?_⟩ <;> simp [discoverOptions, Entry.Fits, kRequestParameters] <;> decide

theorem requestOptions_wellTagged (a b : UInt32) : WellTagged (requestOptions a b) := by
  refine ⟨?_, ?_, ?_⟩ <;> simp [requestOptions, Entry.Fits, kRequestParameters] <;> decide

theorem leaseOptions_wellTagged (type : UInt8) (server netmask gateway : UInt32)
    {dns : List UInt32} (hdns : dns.length ≤ 4) :
    WellTagged (leaseOptions type server netmask gateway dns) := by
  refine ⟨?_, ?_, ?_⟩
  · simp only [leaseOptions, List.mem_cons, List.not_mem_nil, or_false, forall_eq_or_imp,
      forall_eq, Entry.Fits, dns_bytes_length, bytes32_length, List.length_cons, List.length_nil]
    omega
  · simp [leaseOptions]; decide
  · simp [leaseOptions]; decide

theorem nackOptions_wellTagged (server : UInt32) : WellTagged (nackOptions server) := by
  refine ⟨?_, ?_, ?_⟩ <;> simp [nackOptions, Entry.Fits] <;> decide

section Request
variable (next : UInt32) (mac : MacAddress) (requestAddress serverAddress : UInt32)

theorem request_type :
    (Message.request next mac requestAddress serverAddress).type = dhcpRequest :=
  (request_layout next mac requestAddress serverAddress).type_eq
    (requestOptions_wellTagged _ _) (by simp [requestOptions])

theorem request_requestedIp :
    (Message.request next mac requestAddress serverAddress).requestedIp = requestAddress :=
  (request_layout next mac requestAddress serverAddress).addressOption_mem
    (requestOptions_wellTagged _ _) (by simp [requestOptions])

theorem request_serverId :
    (Message.request next mac requestAddress serverAddress).serverId = serverAddress :=
  (request_layout next mac requestAddress serverAddress).addressOption_mem
    (requestOptions_wellTagged _ _) (by simp [requestOptions])

end Request

structure ReadsBack (m : Message) (op type : UInt8) (serverId requestedIp : UInt32)
    (es : List Entry) : Prop where
  valid : m.isValidDhcpMessage op = true
  type_eq : m.type = type
  serverId_eq : m.serverId = serverId
  requestedIp_eq : m.requestedIp = requestedIp
  found : ∀ e ∈ es, ∃ p length, m.getOption e.tag = some (p, length) ∧
    length.toNat = e.value.length ∧ load m.dhcpData (optionsOffset + p) length.toNat = e.value
  absent : ∀ code, (∀ e ∈ es, e.tag ≠ code) → m.getOption code = none
  size_le : m.mSize ≤ capacity
  last_eq : m.dhcpData (m.mSize - 1) = optEnd

theorem Layout.readsBack {m : Message} {hd : Header} {es : List Entry} {type : UInt8}
    {serverId requestedIp : UInt32} (h : Layout m hd es [optEnd]) (hes : WellTagged es)
    (htype : ⟨optMessageType, [type]⟩ ∈ es) (hserver : m.serverId = serverId)
    (hip : m.requestedIp = requestedIp) (hsize : (encode es).length ≤ 1019) :
    ReadsBack m hd.op type serverId requestedIp es where
  valid := h.valid
  type_eq := h.type_eq hes htype
  serverId_eq := hserver
  requestedIp_eq := hip
  found e he := by
    obtain ⟨p, hp, hv⟩ := h.getOption_mem hes he
    have hlen := (hes.fits e he).length_toNat
    exact ⟨p, e.length, hp, hlen, by rw [hlen]; exact hv.load_eq⟩
  absent code hc := h.getOption_absent hes hc
  size_le := by
    rw [h.size]
    simp only [optionsOffset, capacity, List.length_cons, List.length_nil]
    omega
  last_eq := h.last_eq

theorem leaseReply_readsBack (type : UInt8) (next : UInt32) (source : Message)
    (server offered netmask gateway : UInt32) {dns : List UInt32} (hdns : dns.length ≤ 4) :
    ReadsBack (Message.leaseReply type next source server offered netmask gateway dns)
      opBootReply type server 0 (leaseOptions type server netmask gateway dns) := by
  have h := leaseReply_layout type next source server offered netmask gateway hdns
  have hes := leaseOptions_wellTagged type server netmask gateway hdns
  refine h.readsBack hes (by simp [leaseOptions])
    (h.addressOption_mem hes (by simp [leaseOptions]))
    (h.addressOption_absent hes (by simp [leaseOptions]; decide)) ?_
  simp only [leaseOptions, encode, List.length_cons, List.length_append, bytes32_length,
    dns_bytes_length, List.length_nil]
  omega

/-- Every builder's message is read back as it was written, for all arguments and
every value of the transaction counter. -/
theorem builders_read_back (next : UInt32) (mac : MacAddress) (source : Message)
    (requested server offered netmask gateway : UInt32) (dns : List UInt32)
    (hdns : dns.length ≤ 4) :
    ReadsBack (Message.discover next mac) opBootRequest dhcpDiscover 0 0 discoverOptions ∧
    ReadsBack (Message.request next mac requested server) opBootRequest dhcpRequest
      server requested (requestOptions requested server) ∧
    ReadsBack (Message.offer next source server offered netmask gateway dns) opBootReply
      dhcpOffer server 0 (leaseOptions dhcpOffer server netmask gateway dns) ∧
    ReadsBack (Message.ack next source server offered netmask gateway dns) opBootReply
      dhcpAck server 0 (leaseOptions dhcpAck server netmask gateway dns) ∧
    ReadsBack (Message.nack next source server) opBootReply dhcpNak server 0
      (nackOptions server) := by
  refine ⟨?_, ?_, leaseReply_readsBack _ _ _ _ _ _ _ hdns,
    leaseReply_readsBack _ _ _ _ _ _ _ hdns, ?_⟩
  · have h := discover_layout next mac
    have hes := discoverOptions_wellTagged
    exact h.readsBack hes (by simp [discoverOptions])
      (h.addressOption_absent hes (by decide)) (h.addressOption_absent hes (by decide))
      (by decide)
  · have h := request_layout next mac requested server
    have hes := requestOptions_wellTagged requested server
    exact h.readsBack hes (by simp [requestOptions]) (request_serverId next mac requested server)
      (request_requestedIp next mac requested server)
      (by simp [requestOptions, encode, kRequestParameters])
  · have h := nack_layout next source server
    have hes := nackOptions_wellTagged server
    exact h.readsBack hes (by simp [nackOptions])
      (h.addressOption_mem hes (by simp [nackOptions]))
      (h.addressOption_absent hes (by simp [nackOptions]; decide))
      (by simp [nackOptions, encode])

theorem builders_read_back_two_servers :
    ([0x08080808, 0x04040808] : List UInt32).length ≤ 4 ∧
    (Message.ack 7 (Message.discover 3 #v[2, 0, 0, 0, 0, 1]) 0x0100000a 0x0200000a 0x00ffffff
      0x0100000a [0x08080808, 0x04040808]).type = dhcpAck :=
  ⟨by decide, (builders_read_back 7 #v[2, 0, 0, 0, 0, 1] (Message.discover 3 #v[2, 0, 0, 0, 0, 1])
    0 0x0100000a 0x0200000a 0x00ffffff 0x0100000a [0x08080808, 0x04040808]
    (by decide)).2.2.2.1.type_eq⟩

end Rpi3Device.Dhcp
