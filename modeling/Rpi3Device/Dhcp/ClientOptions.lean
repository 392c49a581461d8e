import Rpi3Device.Dhcp.ClientSteps
import Rpi3Device.Dhcp.MessageFormat

/-!
# The options of an acknowledgement at the client

The option loop of `configureDhcp` folds over the options of a closed area, and
what it takes from an option depends on its code and its value bytes only. On
the acknowledgements of the server the fold is evaluated: the lease time comes
out with its bytes reversed, and a single DNS server is taken for the server id.
-/

namespace Rpi3Device.Dhcp
open ByteMemory TagLengthValue BoundedLoop

namespace Message

theorem readOptionsRound_decreases (msg : Message) :
    Decreases msg.readOptionsRound (fun s => msg.optionsSize - s.1) := by
  intro s s' h
  simp only [readOptionsRound] at h
  split_ifs at h
  obtain rfl := Sum.inl.inj h
  change msg.optionsSize - (s.1 + 2 + _) < msg.optionsSize - s.1
  omega

theorem readOptionsFrom_eq (msg : Message) (i : ℕ) (info : DhcpInfo) :
    msg.readOptionsFrom (i, info) =
      if i + 1 < msg.optionsSize then
        if msg.options i = optEnd then (true, info)
        else if optionsOffset + (msg.options (i + 1)).toNat + i ≥ msg.mSize then (false, info)
        else msg.readOptionsFrom (i + 2 + (msg.options (i + 1)).toNat,
          info.read msg.dhcpData (msg.options i) (msg.options (i + 1)) (optionsOffset + i + 2))
      else (true, info) := by
  have hdec := msg.readOptionsRound_decreases
  by_cases hi : i + 1 < msg.optionsSize
  · by_cases he : msg.options i = optEnd
    · simp only [hi, he, if_true]
      exact measured_exit (by simp [readOptionsRound, hi, he])
    · by_cases hl : optionsOffset + (msg.options (i + 1)).toNat + i ≥ msg.mSize
      · simp only [hi, he, hl, if_true, if_false]
        exact measured_exit (by simp [readOptionsRound, hi, he, hl])
      · simp only [hi, he, hl, if_true, if_false]
        exact measured_continue hdec _ (by simp [readOptionsRound, hi, he, hl])
  · simp only [hi, if_false]
    exact measured_exit (by simp [readOptionsRound, hi])

end Message

namespace DhcpInfo

def copied (optCode optLength : UInt8) : ℕ :=
  if optCode = optLeaseTime ∨ optCode = optT1 ∨ optCode = optT2 ∨ optCode = optSubnetMask ∨
      optCode = optServerId then
    if optLength = 4 then 4 else 0
  else if optCode = optGateway then if optLength ≥ 4 then 4 else 0
  else if optCode = optMtu then if optLength = 2 then 2 else 0
  else if optCode = optDns then 4 * min 4 (optLength.toNat / 4)
  else 0

theorem copied_le (optCode optLength : UInt8) : copied optCode optLength ≤ optLength.toNat := by
  unfold copied
  split_ifs with hword hfour hgateway hge hmtu htwo hdns
  · simp [hfour]
  · omega
  · exact UInt8.le_iff_toNat_le.mp hge
  · omega
  · simp [htwo]
  · omega
  · omega
  · omega

section Congr
variable {m m' : Memory} {bs : List UInt8} {opt opt' : ℕ} {length : UInt8}

theorem readServerId_congr (info : DhcpInfo) (hlen : length = 4 → 4 ≤ bs.length)
    (h : HoldsAt m opt bs) (h' : HoldsAt m' opt' bs) :
    info.readServerId m length opt = info.readServerId m' length opt' := by
  refine ite_congr rfl (fun hl => ?_) fun _ => rfl
  rw [show load32 m opt = load32 m' opt' from h.load32_eq h' (k := 0) (hlen hl)]

theorem readDns_congr (info : DhcpInfo) (hlen : 4 * min 4 (length.toNat / 4) ≤ bs.length)
    (h : HoldsAt m opt bs) (h' : HoldsAt m' opt' bs) :
    info.readDns m length opt = info.readDns m' length opt' := by
  have hserver (info : DhcpInfo) (i : Fin 4) :
      info.readDnsServer m length opt i = info.readDnsServer m' length opt' i := by
    refine ite_congr rfl (fun hl => ?_) fun _ => rfl
    rw [h.load32_eq h' (k := 4 * i.val) (by omega)]
  simp only [readDns, hserver]

theorem read_congr (info : DhcpInfo) (code : UInt8) (hlen : copied code length ≤ bs.length)
    (h : HoldsAt m opt bs) (h' : HoldsAt m' opt' bs) :
    info.read m code length opt = info.read m' code length opt' := by
  have hword (hl : 4 ≤ bs.length) : load32 m opt = load32 m' opt' := h.load32_eq h' (k := 0) hl
  have hhalf (hl : 2 ≤ bs.length) : load16 m opt = load16 m' opt' := h.load16_eq h' (k := 0) hl
  have hfour (f : UInt32 → DhcpInfo) (hc : copied code length = if length = 4 then 4 else 0) :
      (if length = 4 then f (load32 m opt) else info) =
        if length = 4 then f (load32 m' opt') else info :=
    ite_congr rfl (fun hl => by rw [hword ((hc.trans (if_pos hl)).ge.trans hlen)]) fun _ => rfl
  refine ite_congr rfl (fun hcode => ?_) fun _ => ?_
  · exact hfour (fun x => { info with leaseTime := ntohl x }) (by rw [hcode]; rfl)
  refine ite_congr rfl (fun hcode => ?_) fun _ => ?_
  · exact hfour (fun x => { info with t1 := ntohl x }) (by rw [hcode]; rfl)
  refine ite_congr rfl (fun hcode => ?_) fun _ => ?_
  · exact hfour (fun x => { info with t2 := ntohl x }) (by rw [hcode]; rfl)
  refine ite_congr rfl (fun hcode => ?_) fun _ => ?_
  · exact hfour (fun x => { info with subnetMask := x }) (by rw [hcode]; rfl)
  refine ite_congr rfl (fun hcode => ?_) fun _ => ?_
  · refine ite_congr rfl (fun hl => ?_) fun _ => rfl
    have hc : copied code length = if length ≥ 4 then 4 else 0 := by rw [hcode]; rfl
    rw [hword ((hc.trans (if_pos hl)).ge.trans hlen)]
  refine ite_congr rfl (fun hcode => ?_) fun _ => ?_
  · refine ite_congr rfl (fun hl => ?_) fun _ => rfl
    have hc : copied code length = if length = 2 then 2 else 0 := by rw [hcode]; rfl
    rw [hhalf ((hc.trans (if_pos hl)).ge.trans hlen)]
  refine ite_congr rfl (fun hcode => ?_) fun _ => ?_
  · have hc : copied code length = 4 * min 4 (length.toNat / 4) := by rw [hcode]; rfl
    rw [readDns_congr info (hc ▸ hlen) h h', readServerId_congr _ (fun hl => ?_) h h']
    have hmin : 4 ≤ 4 * min 4 (length.toNat / 4) := by rw [hl]; decide
    exact hmin.trans (hc.ge.trans hlen)
  refine ite_congr rfl (fun hcode => ?_) fun _ => rfl
  have hc : copied code length = if length = 4 then 4 else 0 := by rw [hcode]; rfl
  exact readServerId_congr info (fun hl => (hc.trans (if_pos hl)).ge.trans hlen) h h'

end Congr

def readEntry (info : DhcpInfo) (e : Entry) : DhcpInfo :=
  info.read (ofBytes e.value) e.tag e.length 0

end DhcpInfo

theorem Message.readOptionsFrom_past {msg : Message} {es : List Entry} {tail : List UInt8}
    {i : ℕ} (harea : HoldsAt msg.dhcpData (optionsOffset + i) (encode es ++ tail))
    (hsize : msg.mSize = optionsOffset + i + (encode es).length + tail.length)
    (htail : 0 < tail.length) (hfits : ∀ e ∈ es, e.Fits) (hend : ∀ e ∈ es, e.tag ≠ optEnd)
    (info : DhcpInfo) : msg.readOptionsFrom (i, info) =
      msg.readOptionsFrom (i + (encode es).length, es.foldl DhcpInfo.readEntry info) := by
  have hopts : msg.optionsSize = i + (encode es).length + tail.length := by
    have hne : ¬ msg.mSize ≤ optionsOffset := by omega
    simp only [optionsSize, hne, if_false]
    omega
  induction es generalizing i info with
  | nil => rfl
  | cons e es ih =>
    rw [encode_cons_length] at hsize hopts ⊢
    obtain ⟨htag, hlen, hvalue, hrest⟩ := holdsAt_encode_cons.mp harea
    have hfe : e.Fits := hfits e (by simp)
    have hgo : i + 1 < msg.optionsSize := by omega
    have htag' : msg.options i = e.tag := htag
    have hlen' : msg.options (i + 1) = e.length := by
      simpa only [Message.options, Nat.add_assoc] using hlen
    have hinside : ¬ optionsOffset + e.value.length + i ≥ msg.mSize := by omega
    have hcopied : DhcpInfo.copied e.tag e.length ≤ e.value.length :=
      (DhcpInfo.copied_le e.tag e.length).trans hfe.length_toNat.le
    rw [readOptionsFrom_eq, if_pos hgo, htag', hlen', if_neg (hend e (by simp)),
      hfe.length_toNat, if_neg hinside,
      info.read_congr e.tag hcopied hvalue (holdsAt_ofBytes e.value),
      ih (by simpa only [Nat.add_assoc] using hrest) (by omega)
        (fun e' he' => hfits e' (by simp [he'])) (fun e' he' => hend e' (by simp [he'])) _
        (by omega), Nat.add_assoc i 2, Nat.add_assoc i]
    rfl

theorem Message.readOptionsFrom_encoded {msg : Message} {es : List Entry} {i : ℕ}
    (harea : HoldsAt msg.dhcpData (optionsOffset + i) (encode es ++ [optEnd]))
    (hsize : msg.mSize = optionsOffset + i + (encode es).length + 1)
    (hfits : ∀ e ∈ es, e.Fits) (hend : ∀ e ∈ es, e.tag ≠ optEnd) (info : DhcpInfo) :
    msg.readOptionsFrom (i, info) = (true, es.foldl DhcpInfo.readEntry info) := by
  have hstop : ¬ i + (encode es).length + 1 < msg.optionsSize := by
    have hne : ¬ msg.mSize ≤ optionsOffset := by omega
    simp only [optionsSize, hne, if_false]
    omega
  rw [readOptionsFrom_past harea hsize (by simp) hfits hend info, readOptionsFrom_eq,
    if_neg hstop]

theorem Layout.readOptions_eq {msg : Message} {hd : Header} {es : List Entry}
    (h : Layout msg hd es [optEnd]) (hes : WellTagged es) :
    msg.readOptions = (true, es.foldl DhcpInfo.readEntry DhcpInfo.zero) :=
  Message.readOptionsFrom_encoded h.encoded h.size hes.fits hes.ne_end _

namespace DhcpInfo

theorem read_word (a : UInt32) : load32 (ofBytes (bytes32 a)) 0 = a :=
  load32_of_holdsAt (holdsAt_ofBytes _)

theorem readEntry_messageType (info : DhcpInfo) (type : UInt8) :
    info.readEntry ⟨optMessageType, [type]⟩ = info := rfl

theorem readEntry_serverId (info : DhcpInfo) (a : UInt32) :
    info.readEntry ⟨optServerId, bytes32 a⟩ = { info with serverId := a } := by
  change { info with serverId := load32 (ofBytes (bytes32 a)) 0 } = _
  rw [read_word]

theorem readEntry_leaseTime (info : DhcpInfo) (a : UInt32) :
    info.readEntry ⟨optLeaseTime, bytes32 a⟩ = { info with leaseTime := ntohl a } := by
  change { info with leaseTime := ntohl (load32 (ofBytes (bytes32 a)) 0) } = _
  rw [read_word]

theorem readEntry_subnetMask (info : DhcpInfo) (a : UInt32) :
    info.readEntry ⟨optSubnetMask, bytes32 a⟩ = { info with subnetMask := a } := by
  change { info with subnetMask := load32 (ofBytes (bytes32 a)) 0 } = _
  rw [read_word]

theorem readEntry_gateway (info : DhcpInfo) (a : UInt32) :
    info.readEntry ⟨optGateway, bytes32 a⟩ = { info with gateway := a } := by
  change { info with gateway := load32 (ofBytes (bytes32 a)) 0 } = _
  rw [read_word]

theorem load32_flatMap {m : Memory} {off i : ℕ} {dns : List UInt32}
    (h : HoldsAt m off (dns.flatMap bytes32)) (hi : i < dns.length) :
    load32 m (off + 4 * i) = dns[i] := by
  induction dns generalizing off i with
  | nil => simp at hi
  | cons a dns ih =>
    rw [List.flatMap_cons] at h
    obtain ⟨hfirst, hrest⟩ := holdsAt_append.mp h
    cases i with
    | zero => exact load32_of_holdsAt hfirst
    | succ i =>
      have hi' : i < dns.length := by simpa using hi
      have hload := ih hrest hi'
      rw [bytes32_length, Nat.add_assoc] at hload
      simpa only [List.getElem_cons_succ, Nat.mul_succ, Nat.add_comm 4] using hload

theorem readDnsServer_eq (info : DhcpInfo) {m : Memory} {length : UInt8} {opt : ℕ}
    {dns : List UInt32} (h : HoldsAt m opt (dns.flatMap bytes32))
    (hlen : length.toNat = 4 * dns.length) (i : Fin 4) : info.readDnsServer m length opt i =
      { info with dns := info.dns.set i (dns.getD i info.dns[i]) } := by
  by_cases hi : i.val < dns.length
  · have hl : length.toNat ≥ 4 * (i.val + 1) := by omega
    simp [readDnsServer, hl, load32_flatMap h hi, hi]
  · have hl : ¬ length.toNat ≥ 4 * (i.val + 1) := by omega
    have hnone : dns[i.val]? = none := List.getElem?_eq_none (by omega)
    simp [readDnsServer, hl, hnone]

theorem readDns_eq (info : DhcpInfo) {m : Memory} {length : UInt8} {opt : ℕ}
    {dns : List UInt32} (h : HoldsAt m opt (dns.flatMap bytes32))
    (hlen : length.toNat = 4 * dns.length) : info.readDns m length opt =
      { info with dns := Vector.ofFn fun i => dns.getD i info.dns[i] } := by
  simp only [readDns, readDnsServer_eq _ h hlen]
  congr 1
  ext i hi
  interval_cases i <;> simp

theorem readEntry_dns (info : DhcpInfo) {dns : List UInt32} (hdns : dns.length ≤ 4) :
    info.readEntry ⟨optDns, dns.flatMap bytes32⟩ =
      { info with
        dns := Vector.ofFn fun i => dns.getD i info.dns[i]
        serverId := if dns.length = 1 then dns.getD 0 0 else info.serverId } := by
  have hvalue := holdsAt_ofBytes (dns.flatMap bytes32)
  have hlen : (Entry.length ⟨optDns, dns.flatMap bytes32⟩).toNat = 4 * dns.length := by
    rw [Entry.Fits.length_toNat, dns_bytes_length]
    simp only [Entry.Fits, dns_bytes_length]
    omega
  change (info.readDns _ _ 0).readServerId _ _ 0 = _
  rw [info.readDns_eq hvalue hlen]
  by_cases hone : dns.length = 1
  · have hfour : Entry.length ⟨optDns, dns.flatMap bytes32⟩ = 4 :=
      UInt8.toNat_inj.mp (by rw [hlen, hone]; rfl)
    have hload := load32_flatMap hvalue (i := 0) (by omega)
    simp [readServerId, hfour, hone, hload]
  · have hfour : Entry.length ⟨optDns, dns.flatMap bytes32⟩ ≠ 4 := by
      intro h
      rw [h] at hlen
      have : 4 = 4 * dns.length := hlen
      omega
    simp [readServerId, hfour, hone]

end DhcpInfo

section Ack
variable (next : UInt32) (source : Message) (server offered netmask gateway : UInt32)

theorem ack_dhcpInfo {dns : List UInt32} (hdns : dns.length ≤ 4) :
    (Message.ack next source server offered netmask gateway dns).dhcpInfo =
      { t1 := 0, t2 := 0, leaseTime := ntohl kDefaultLeaseTime, mtu := 0
        dns := Vector.ofFn fun i => dns.getD i 0
        gateway := gateway, subnetMask := netmask
        serverId := if dns.length = 1 then dns.getD 0 0 else server
        offeredAddress := offered } := by
  have h := leaseReply_layout dhcpAck next source server offered netmask gateway hdns
  have hes := leaseOptions_wellTagged dhcpAck server netmask gateway hdns
  have hyiaddr : (Message.ack next source server offered netmask gateway dns).yiaddr = offered :=
    h.yiaddr_eq
  have hopts : (Message.ack next source server offered netmask gateway dns).readOptions = _ :=
    h.readOptions_eq hes
  simp only [Message.dhcpInfo, hyiaddr, hopts, leaseOptions, List.foldl_cons, List.foldl_nil,
    DhcpInfo.readEntry_messageType, DhcpInfo.readEntry_serverId, DhcpInfo.readEntry_leaseTime,
    DhcpInfo.readEntry_subnetMask, DhcpInfo.readEntry_gateway, DhcpInfo.readEntry_dns _ hdns]
  congr 1

structure DhcpInfo.Agrees (info : DhcpInfo) (server offered netmask gateway : UInt32)
    (dns : List UInt32) : Prop where
  leaseTime : info.leaseTime = kDefaultLeaseTime
  subnetMask : info.subnetMask = netmask
  gateway : info.gateway = gateway
  offeredAddress : info.offeredAddress = offered
  serverId : info.serverId = server
  dns : ∀ i : Fin 4, info.dns.get i = dns.getD i 0
  t1 : info.t1 = 0
  t2 : info.t2 = 0
  mtu : info.mtu = 0

/-- No acknowledgement is read as it was meant: the server writes the lease time
in host order and the client converts it from network order. -/
theorem ack_disagrees {dns : List UInt32} (hdns : dns.length ≤ 4) :
    ¬ (Message.ack next source server offered netmask gateway dns).dhcpInfo.Agrees server offered
      netmask gateway dns := by
  intro h
  have hlease := h.leaseTime
  rw [ack_dhcpInfo next source server offered netmask gateway hdns] at hlease
  have hne : ntohl kDefaultLeaseTime ≠ kDefaultLeaseTime := by decide
  exact hne hlease

end Ack

theorem ack_disagrees_two_servers :
    ¬ (Message.ack 2 (Message.request 2 #v[2, 0, 0, 0, 0, 1] 0x0500000a 0x0100000a) 0x0100000a
      0x0500000a 0x00ffffff 0x0100000a [0x08080808, 0x04040808]).dhcpInfo.Agrees 0x0100000a
      0x0500000a 0x00ffffff 0x0100000a [0x08080808, 0x04040808] :=
  ack_disagrees 2 _ 0x0100000a 0x0500000a 0x00ffffff 0x0100000a (by decide)

theorem ack_lease_time_reversed : ¬ ∀ (next : UInt32) (source : Message)
    (server offered netmask gateway : UInt32) (dns : List UInt32), dns.length ≤ 4 →
    (Message.ack next source server offered netmask gateway dns).dhcpInfo.Agrees server offered
      netmask gateway dns := by
  intro h
  have hlease := (h 2 (Message.request 2 #v[2, 0, 0, 0, 0, 1] 0x0500000a 0x0100000a) 0x0100000a
    0x0500000a 0x00ffffff 0x0100000a [] (by decide)).leaseTime
  have hread : (Message.ack 2 (Message.request 2 #v[2, 0, 0, 0, 0, 1] 0x0500000a 0x0100000a)
      0x0100000a 0x0500000a 0x00ffffff 0x0100000a []).dhcpInfo.leaseTime = 1476526080 := by
    decide +kernel
  rw [hread] at hlease
  exact absurd hlease (by decide)

end Rpi3Device.Dhcp
