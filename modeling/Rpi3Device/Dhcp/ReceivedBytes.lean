import Rpi3Device.Dhcp.ClientOptions

/-!
# What the parsers read of a received message

A buffer that is used again holds the bytes of an earlier packet above the ones
just received. The search for an option stays below the received size, but a
value found near the end may reach above it: `getOption` does not compare the
length byte with what is left, and the option loop of `configureDhcp` compares
it from the option's header instead of its value, so that the last byte of a
value may be missing.
-/

namespace Rpi3Device.Dhcp
open ByteMemory BoundedLoop

structure SameReceived (m m' : Message) : Prop where
  size : m'.mSize = m.mSize
  bytes : ∀ i < m.mSize, m'.dhcpData i = m.dhcpData i

theorem sameReceived_receive (old old' : Message) (datagram : List UInt8) :
    SameReceived (old.receive datagram) (old'.receive datagram) where
  size := rfl
  bytes i hi := by
    have hold := store_inside old.dhcpData 0 hi
    have hold' := store_inside old'.dhcpData 0 hi
    rw [Nat.zero_add] at hold hold'
    exact hold'.trans hold.symm

namespace Message

theorem mSize_of_optionsSize_pos {m : Message} (h : 0 < m.optionsSize) :
    m.mSize = optionsOffset + m.optionsSize := by
  unfold optionsSize at h ⊢
  split_ifs at h ⊢ with hle
  · omega
  · omega

theorem getOptionFrom_inside {m : Message} {code : UInt8} {i opt : ℕ} {length : UInt8}
    (h : m.getOptionFrom code i = some (opt, length)) : opt < m.optionsSize := by
  induction hn : m.optionsSize - i using Nat.strong_induction_on generalizing i with
  | _ n ih =>
    rw [getOptionFrom_eq] at h
    by_cases hi : i + 2 < m.optionsSize
    · rw [if_pos hi] at h
      by_cases hend : m.options i = optEnd
      · simp [hend] at h
      · rw [if_neg hend] at h
        by_cases hcode : m.options i = code
        · rw [if_pos hcode, Option.some.injEq, Prod.mk.injEq] at h
          omega
        · rw [if_neg hcode] at h
          exact ih _ (by omega) h rfl
    · simp [hi] at h

end Message

namespace SameReceived
variable {m m' : Message}

theorem optionsSize_eq (h : SameReceived m m') : m'.optionsSize = m.optionsSize := by
  rw [Message.optionsSize, Message.optionsSize, h.size]

theorem options_eq (h : SameReceived m m') {i : ℕ} (hi : i < m.optionsSize) :
    m'.options i = m.options i := by
  have hsize := Message.mSize_of_optionsSize_pos (Nat.zero_lt_of_lt hi)
  exact h.bytes _ (by omega)

theorem getOptionFrom_eq (h : SameReceived m m') (code : UInt8) (i : ℕ) :
    m'.getOptionFrom code i = m.getOptionFrom code i := by
  induction hn : m.optionsSize - i using Nat.strong_induction_on generalizing i with
  | _ n ih =>
    rw [m'.getOptionFrom_eq, m.getOptionFrom_eq, h.optionsSize_eq]
    by_cases hi : i + 2 < m.optionsSize
    · rw [h.options_eq (show i < m.optionsSize by omega),
        h.options_eq (show i + 1 < m.optionsSize by omega)]
      have hnext := ih (m.optionsSize - (i + 2 + (m.options (i + 1)).toNat)) (by omega) _ rfl
      rw [hnext]
    · rw [if_neg hi, if_neg hi]

theorem getOption_eq (h : SameReceived m m') (code : UInt8) :
    m'.getOption code = m.getOption code :=
  h.getOptionFrom_eq code 4

theorem isValidDhcpMessage_eq (h : SameReceived m m') (expectedOp : UInt8) :
    m'.isValidDhcpMessage expectedOp = m.isValidDhcpMessage expectedOp := by
  unfold Message.isValidDhcpMessage
  rw [h.size]
  by_cases hsize : optionsOffset + 4 > m.mSize
  · rw [if_pos hsize, if_pos hsize]
  · have hlow (i : ℕ) (hi : i < 240) : m'.dhcpData i = m.dhcpData i := by
      refine h.bytes i ?_
      rw [optionsOffset] at hsize
      omega
    have hop : m'.op = m.op := hlow 0 (by omega)
    have hhtype : m'.htype = m.htype := hlow 1 (by omega)
    have hhlen : m'.hlen = m.hlen := hlow 2 (by omega)
    have hcookie (i : ℕ) (hi : i < 4) : m'.options i = m.options i := by
      refine hlow _ ?_
      rw [optionsOffset]
      omega
    rw [hop, hhtype, hhlen, hcookie 0 (by omega), hcookie 1 (by omega), hcookie 2 (by omega),
      hcookie 3 (by omega)]

theorem type_eq (h : SameReceived m m') : m'.type = m.type := by
  unfold Message.type
  rw [h.getOption_eq]
  cases hopt : m.getOption optMessageType with
  | none => rfl
  | some found => simp only [h.options_eq (Message.getOptionFrom_inside hopt)]

theorem load32_eq (h : SameReceived m m') {opt : ℕ} (hopt : opt + 4 ≤ m.optionsSize) :
    load32 m'.dhcpData (optionsOffset + opt) = load32 m.dhcpData (optionsOffset + opt) := by
  have hbyte (k : ℕ) (hk : k < 4) :
      m'.dhcpData (optionsOffset + opt + k) = m.dhcpData (optionsOffset + opt + k) := by
    rw [Nat.add_assoc]
    exact h.options_eq (show opt + k < m.optionsSize by omega)
  have hfirst : m'.dhcpData (optionsOffset + opt) = m.dhcpData (optionsOffset + opt) :=
    hbyte 0 (by omega)
  simp only [load32, hfirst, hbyte 1 (by omega), hbyte 2 (by omega), hbyte 3 (by omega)]

theorem addressOption_eq (h : SameReceived m m') {code : UInt8}
    (hinside : ∀ opt, m.getOption code = some (opt, 4) → opt + 4 ≤ m.optionsSize) :
    m'.addressOption code = m.addressOption code := by
  unfold Message.addressOption
  rw [h.getOption_eq]
  cases hopt : m.getOption code with
  | none => rfl
  | some found =>
    obtain ⟨opt, length⟩ := found
    refine ite_congr rfl (fun hfour => ?_) fun _ => rfl
    exact h.load32_eq (hinside opt (hfour ▸ hopt))

end SameReceived

namespace Message

def disturb (m : Message) (off : ℕ) : Message :=
  ⟨Function.update m.dhcpData off (m.dhcpData off + 1), m.mSize⟩

theorem sameReceived_disturb {m : Message} {off : ℕ} (hoff : m.mSize ≤ off) :
    SameReceived m (m.disturb off) where
  size := rfl
  bytes i hi := Function.update_of_ne (by omega) _ _

theorem load32_disturb_ne (m : Message) (off : ℕ) :
    load32 (m.disturb (off + 3)).dhcpData off ≠ load32 m.dhcpData off := by
  intro heq
  have hnat := congrArg UInt32.toNat heq
  have hbyte (k : ℕ) (hk : k < 3) :
      (m.disturb (off + 3)).dhcpData (off + k) = m.dhcpData (off + k) :=
    Function.update_of_ne (by omega) _ _
  have hfirst : (m.disturb (off + 3)).dhcpData off = m.dhcpData off := hbyte 0 (by omega)
  have hlast : (m.disturb (off + 3)).dhcpData (off + 3) = m.dhcpData (off + 3) + 1 :=
    Function.update_self _ _ _
  have hlt := (m.dhcpData (off + 3)).toNat_lt
  rw [load32, load32, word32_toNat, word32_toNat, hfirst, hbyte 1 (by omega), hbyte 2 (by omega),
    hlast, UInt8.toNat_add, UInt8.toNat_one] at hnat
  omega

theorem addressOption_stable_iff (m : Message) (code : UInt8) :
    (∀ m', SameReceived m m' → m'.addressOption code = m.addressOption code) ↔
      ∀ opt, m.getOption code = some (opt, 4) → opt + 4 ≤ m.optionsSize := by
  constructor
  · intro hstable opt hopt
    by_contra hlong
    have hsize := mSize_of_optionsSize_pos (Nat.zero_lt_of_lt (getOptionFrom_inside hopt))
    have hsame : SameReceived m (m.disturb (optionsOffset + opt + 3)) :=
      sameReceived_disturb (by omega)
    have heq := hstable _ hsame
    unfold addressOption at heq
    rw [hsame.getOption_eq, hopt] at heq
    exact load32_disturb_ne m (optionsOffset + opt) heq
  · intro hinside m' hsame
    exact hsame.addressOption_eq hinside

end Message

/-- Stale bytes above the received size influence none of the accessors exactly
when the server id and the requested address are not cut off by the end. -/
theorem received_determines_iff (m : Message) :
    (∀ m', SameReceived m m' →
      (∀ expectedOp, m'.isValidDhcpMessage expectedOp = m.isValidDhcpMessage expectedOp) ∧
      m'.type = m.type ∧ m'.serverId = m.serverId ∧ m'.requestedIp = m.requestedIp) ↔
    ∀ code, code = optServerId ∨ code = optRequestedIp →
      ∀ opt, m.getOption code = some (opt, 4) → opt + 4 ≤ m.optionsSize := by
  constructor
  · intro hstable code h
    rcases h with rfl | rfl
    · exact (m.addressOption_stable_iff optServerId).mp fun m' hsame => (hstable m' hsame).2.2.1
    · exact (m.addressOption_stable_iff optRequestedIp).mp fun m' hsame => (hstable m' hsame).2.2.2
  · intro hinside m' hsame
    exact ⟨hsame.isValidDhcpMessage_eq, hsame.type_eq,
      hsame.addressOption_eq (hinside optServerId (.inl rfl)),
      hsame.addressOption_eq (hinside optRequestedIp (.inr rfl))⟩

def cutRequest : List UInt8 :=
  (Message.construct 1 opBootRequest (localMac 1) dhcpRequest).wire ++
    [optRequestedIp, 4, 10]

theorem requestedIp_stale :
    SameReceived (Message.empty.receive cutRequest)
      ((Message.request 1 #v[2, 0, 0, 0, 0, 2] 0x0500000a 0x0100000a).receive cutRequest) ∧
    ((Message.request 1 #v[2, 0, 0, 0, 0, 2] 0x0500000a 0x0100000a).receive
      cutRequest).requestedIp ≠ (Message.empty.receive cutRequest).requestedIp :=
  ⟨sameReceived_receive _ _ _, by decide +kernel⟩

namespace Message

inductive LoopReaches (msg : Message) : ℕ → Prop where
  | start : LoopReaches msg 4
  | next {i : ℕ} : LoopReaches msg i → i + 1 < msg.optionsSize → msg.options i ≠ optEnd →
      ¬ optionsOffset + (msg.options (i + 1)).toNat + i ≥ msg.mSize →
      LoopReaches msg (i + 2 + (msg.options (i + 1)).toNat)

structure OptionAt (msg : Message) (i : ℕ) : Prop where
  reached : msg.LoopReaches i
  header : i + 1 < msg.optionsSize
  ne_end : msg.options i ≠ optEnd

variable {msg : Message} {i : ℕ}

theorem LoopReaches.readOptions_eq (h : msg.LoopReaches i) :
    ∃ info, msg.readOptions = msg.readOptionsFrom (i, info) := by
  induction h with
  | start => exact ⟨DhcpInfo.zero, rfl⟩
  | next _ hi hend hlong ih =>
    obtain ⟨info, hinfo⟩ := ih
    rw [readOptionsFrom_eq, if_pos hi, if_neg hend, if_neg hlong] at hinfo
    exact ⟨_, hinfo⟩

theorem OptionAt.too_long_iff (h : msg.OptionAt i) :
    optionsOffset + (msg.options (i + 1)).toNat + i ≥ msg.mSize ↔
      msg.optionsSize ≤ i + (msg.options (i + 1)).toNat := by
  rw [mSize_of_optionsSize_pos (Nat.zero_lt_of_lt h.header)]
  omega

theorem OptionAt.readOptions_true (h : msg.OptionAt i)
    (hcut : msg.optionsSize = i + 1 + (msg.options (i + 1)).toNat) : msg.readOptions.1 = true := by
  obtain ⟨info, hinfo⟩ := h.reached.readOptions_eq
  have hshort : ¬ optionsOffset + (msg.options (i + 1)).toNat + i ≥ msg.mSize := by
    rw [h.too_long_iff]
    omega
  rw [hinfo, readOptionsFrom_eq, if_pos h.header, if_neg h.ne_end, if_neg hshort,
    readOptionsFrom_eq, if_neg (by omega)]

theorem OptionAt.readOptions_false (h : msg.OptionAt i)
    (hlong : msg.optionsSize ≤ i + (msg.options (i + 1)).toNat) : msg.readOptions.1 = false := by
  obtain ⟨info, hinfo⟩ := h.reached.readOptions_eq
  rw [hinfo, readOptionsFrom_eq, if_pos h.header, if_neg h.ne_end,
    if_pos (h.too_long_iff.mpr hlong)]

theorem readOptionsFrom_congr {msg' : Message} (hsame : SameReceived msg msg')
    (hwhole : ∀ j, msg.OptionAt j → msg.optionsSize ≠ j + 1 + (msg.options (j + 1)).toNat)
    (hi : msg.LoopReaches i) (info : DhcpInfo) :
    msg'.readOptionsFrom (i, info) = msg.readOptionsFrom (i, info) := by
  induction hn : msg.optionsSize - i using Nat.strong_induction_on generalizing i info with
  | _ n ih =>
    rw [msg'.readOptionsFrom_eq, msg.readOptionsFrom_eq, hsame.optionsSize_eq, hsame.size]
    by_cases hheader : i + 1 < msg.optionsSize
    · rw [hsame.options_eq (show i < msg.optionsSize by omega), hsame.options_eq hheader]
      by_cases hend : msg.options i = optEnd
      · simp only [hheader, hend, if_true]
      · have hopt : msg.OptionAt i := ⟨hi, hheader, hend⟩
        by_cases hlong : optionsOffset + (msg.options (i + 1)).toNat + i ≥ msg.mSize
        · simp only [hheader, hend, hlong, if_true, if_false]
        · simp only [hheader, hend, hlong, if_true, if_false]
          have hcut := hwhole i hopt
          have hcopied := DhcpInfo.copied_le (msg.options i) (msg.options (i + 1))
          have hfits := hopt.too_long_iff.not.mp hlong
          -- the copied bytes lie below the received size, where the two buffers agree
          have hbytes : ∀ k < DhcpInfo.copied (msg.options i) (msg.options (i + 1)),
              msg'.dhcpData (optionsOffset + i + 2 + k) =
                msg.dhcpData (optionsOffset + i + 2 + k) := by
            intro k hk
            have hinside := hsame.options_eq (show i + 2 + k < msg.optionsSize by omega)
            simpa only [Message.options, Nat.add_assoc] using hinside
          rw [info.read_congr (msg.options i) (load_length msg.dhcpData _ _).ge
            (fun k hk => (hbytes k (by simpa using hk)).trans (load_getElem _ _ _ k hk).symm)
            (fun k hk => (load_getElem _ _ _ k hk).symm)]
          exact ih _ (by omega) (hi.next hheader hend hlong) _ rfl
    · simp only [hheader, if_false]

end Message

theorem DhcpClient.configureDhcp_of_readOptions_false {msg : Message}
    (h : msg.readOptions.1 = false) (c : DhcpClient) (io : IoOutcome) (t1Now t2Now : UInt64) :
    (c.configureDhcp msg io t1Now t2Now).1 = false := by
  unfold configureDhcp
  split_ifs with hsize
  · rfl
  · simp [h]

/-- The option loop stays inside the received bytes: so do the bytes it copies, a
value that does not fit makes `configureDhcp` fail, and bytes above the received
size have no influence on what is computed. -/
structure Message.ReadsInside (msg : Message) : Prop where
  copied : ∀ i, msg.OptionAt i →
    ¬ optionsOffset + (msg.options (i + 1)).toNat + i ≥ msg.mSize →
    i + 2 + DhcpInfo.copied (msg.options i) (msg.options (i + 1)) ≤ msg.optionsSize
  rejects : ∀ i, msg.OptionAt i → msg.optionsSize < i + 2 + (msg.options (i + 1)).toNat →
    msg.readOptions.1 = false ∧
      ∀ (c : DhcpClient) io t1Now t2Now, (c.configureDhcp msg io t1Now t2Now).1 = false
  determined : ∀ msg', SameReceived msg msg' → msg'.readOptions = msg.readOptions

/-- The loop stays inside exactly when no option it inspects lacks just the last
byte of its value. -/
theorem readsInside_iff (msg : Message) : msg.ReadsInside ↔
    ∀ i, msg.OptionAt i → msg.optionsSize ≠ i + 1 + (msg.options (i + 1)).toNat := by
  constructor
  · intro h i hopt hcut
    have hfalse := (h.rejects i hopt (by omega)).1
    rw [hopt.readOptions_true hcut] at hfalse
    exact Bool.noConfusion hfalse
  · intro hwhole
    refine ⟨fun i hopt hshort => ?_, fun i hopt hlong => ?_, fun msg' hsame => ?_⟩
    · have hcut := hwhole i hopt
      have hcopied := DhcpInfo.copied_le (msg.options i) (msg.options (i + 1))
      rw [hopt.too_long_iff] at hshort
      omega
    · have hcut := hwhole i hopt
      have hfalse := hopt.readOptions_false (by omega)
      exact ⟨hfalse, DhcpClient.configureDhcp_of_readOptions_false hfalse⟩
    · exact Message.readOptionsFrom_congr hsame hwhole .start _

def cutAck : Message :=
  Message.empty.receive ((Message.construct 1 opBootReply (localMac 1) dhcpAck).wire ++
    [optLeaseTime, 4, 0, 0, 2])

theorem cutAck_optionAt : cutAck.OptionAt 7 where
  reached := .next .start (by decide +kernel) (by decide +kernel) (by decide +kernel)
  header := by decide +kernel
  ne_end := by decide +kernel

theorem cutAck_reads_past_end : ¬ cutAck.ReadsInside := by
  intro h
  have hcopied := h.copied 7 cutAck_optionAt (by decide +kernel)
  exact absurd hcopied (by decide +kernel)

end Rpi3Device.Dhcp
