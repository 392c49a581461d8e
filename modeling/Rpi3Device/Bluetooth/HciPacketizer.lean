import Rpi3Device.ByteMemory
import Rpi3Device.HeaderFraming
import Rpi3Device.TransitionSystem

/-!
# Packets from pieces

`hals/bluetooth/hci_packetizer.cc`. Each call of `OnDataReady` makes one `read` of what is
still missing of the preamble or the payload, and the kernel returns any part of it. A packet
with an empty payload is complete with its preamble, but the next call still reads for the
payload: it asks for no bytes, gets none, and the check of the result ends the program.
-/

namespace Rpi3Device.Bluetooth
open ByteMemory HeaderFraming TransitionSystem

inductive HciPacketType where
  | unknown
  | command
  | aclData
  | scoData
  | event
deriving DecidableEq

def preambleSizeForType : HciPacketType → UInt64
  | .unknown => 0
  | .command => 3
  | .aclData => 4
  | .scoData => 3
  | .event => 2

def packetLengthOffsetForType : HciPacketType → ℕ
  | .unknown => 0
  | .command => 2
  | .aclData => 2
  | .scoData => 2
  | .event => 1

def hciGetPacketLengthForType (type : HciPacketType) (preamble : Memory) : UInt64 :=
  let offset := packetLengthOffsetForType type
  if type ≠ .aclData then (preamble offset).toUInt64
  else ((preamble (offset + 1)).toUInt64 <<< 8) ||| (preamble offset).toUInt64

inductive PacketizerState where
  | hciPreamble
  | hciPayload
deriving DecidableEq

structure HciPacketizer where
  state : PacketizerState
  preamble : Memory
  packet : Memory
  packetSize : UInt64
  bytesRemaining : UInt64
  bytesRead : UInt64

inductive ReadResult where
  | bytes (bs : List UInt8)
  | failed

def ReadResult.data : ReadResult → List UInt8
  | .bytes bs => bs
  | .failed => []

def ReadResult.count : ReadResult → UInt64
  | .bytes bs => UInt64.ofNat bs.length
  | .failed => 0 - 1

inductive PacketizerEvent where
  | read (bs : List UInt8)
  | packetReady (packet : List UInt8)
  | checkFailed
deriving DecidableEq

namespace HciPacketizer

def requested (p : HciPacketizer) (type : HciPacketType) : UInt64 :=
  match p.state with
  | .hciPreamble => preambleSizeForType type - p.bytesRead
  | .hciPayload => p.bytesRemaining

/-- `OnDataReady` with what `read` returns; no packetizer is left when a check fails. -/
def onDataReady (p : HciPacketizer) (type : HciPacketType) (result : ReadResult) :
    Option HciPacketizer × List PacketizerEvent :=
  let size := preambleSizeForType type
  let bytesRead := result.count
  if bytesRead = 0 then (none, [.read result.data, .checkFailed])
  else
    match p.state with
    | .hciPreamble =>
      let preamble := store p.preamble p.bytesRead.toNat result.data
      let total := p.bytesRead + bytesRead
      if total = size then
        let packetLength := hciGetPacketLengthForType type preamble
        (some { p with
          preamble := preamble
          packet := store p.packet 0 (load preamble 0 size.toNat)
          packetSize := size + packetLength
          bytesRemaining := packetLength
          state := .hciPayload
          bytesRead := 0 }, [.read result.data])
      else (some { p with preamble := preamble, bytesRead := total }, [.read result.data])
    | .hciPayload =>
      let packet := store p.packet (size + p.bytesRead).toNat result.data
      let remaining := p.bytesRemaining - bytesRead
      if remaining = 0 then
        (some { p with
          packet := packet, bytesRemaining := remaining, state := .hciPreamble, bytesRead := 0 },
          [.read result.data, .packetReady (load packet 0 p.packetSize.toNat)])
      else
        (some { p with
          packet := packet, bytesRemaining := remaining, bytesRead := p.bytesRead + bytesRead },
          [.read result.data])

end HciPacketizer

def packetizer (type : HciPacketType) :
    Machine (Option HciPacketizer) ReadResult PacketizerEvent where
  step s result := s.map fun p => p.onDataReady type result

/-- Reading succeeds and returns at most what was asked for, and nothing only if nothing
was asked for. -/
def Served (type : HciPacketType) (s : Option HciPacketizer) (result : ReadResult) : Prop :=
  match s, result with
  | some p, .bytes bs =>
    bs.length ≤ (p.requested type).toNat ∧ (bs = [] → p.requested type = 0)
  | _, _ => False

instance (type : HciPacketType) (s : Option HciPacketizer) (result : ReadResult) :
    Decidable (Served type s result) := by
  cases s <;> cases result <;> unfold Served <;> infer_instance

def readBytes (tr : List PacketizerEvent) : List UInt8 :=
  tr.flatMap fun e => match e with
    | .read bs => bs
    | _ => []

def delivered (tr : List PacketizerEvent) : List (List UInt8) :=
  tr.filterMap fun e => match e with
    | .packetReady packet => some packet
    | _ => none

theorem preambleSizeForType_pos {type : HciPacketType} (h : type ≠ .unknown) :
    0 < (preambleSizeForType type).toNat := by
  cases type with
  | unknown => exact absurd rfl h
  | _ => decide

def hciFraming (type : HciPacketType) (h : type ≠ .unknown) : Framing UInt8 where
  headerSize := (preambleSizeForType type).toNat
  bodyLength header := (hciGetPacketLengthForType type (ofBytes header)).toNat
  headerSize_pos := preambleSizeForType_pos h

theorem hciGetPacketLengthForType_congr {type : HciPacketType} (htype : type ≠ .unknown)
    {m m' : Memory} (h : ∀ i < (preambleSizeForType type).toNat, m i = m' i) :
    hciGetPacketLengthForType type m = hciGetPacketLengthForType type m' := by
  by_cases hacl : type = .aclData
  · subst hacl
    have hlow : m 2 = m' 2 := h 2 (by decide)
    have hhigh : m 3 = m' 3 := h 3 (by decide)
    simp [hciGetPacketLengthForType, packetLengthOffsetForType, hlow, hhigh]
  · have hoffset : packetLengthOffsetForType type < (preambleSizeForType type).toNat := by
      cases type with
      | unknown => exact absurd rfl htype
      | aclData => exact absurd rfl hacl
      | _ => decide
    simp only [hciGetPacketLengthForType, ne_eq, hacl, not_false_eq_true, if_true, h _ hoffset]

theorem hciGetPacketLengthForType_lt (type : HciPacketType) (m : Memory) :
    (hciGetPacketLengthForType type m).toNat < 2 ^ 16 := by
  have hbyte (b : UInt8) : b.toNat < 256 := b.toNat_lt
  simp only [hciGetPacketLengthForType]
  split_ifs
  · rw [UInt8.toNat_toUInt64]
    exact (hbyte _).trans (by norm_num)
  · rw [UInt64.toNat_or]
    refine Nat.or_lt_two_pow ?_ ?_
    · rw [UInt64.toNat_shiftLeft, UInt8.toNat_toUInt64, Nat.shiftLeft_eq]
      have hshift : (8 : UInt64).toNat % 64 = 8 := rfl
      have hlt := hbyte (m (packetLengthOffsetForType type + 1))
      rw [hshift, Nat.mod_eq_of_lt] <;> omega
    · rw [UInt8.toNat_toUInt64]
      exact (hbyte _).trans (by norm_num)

section Run
variable {type : HciPacketType} (htype : type ≠ .unknown)

/-- The string that the packetizer has collected since the last packet. -/
inductive Collects : Option HciPacketizer → List UInt8 → Prop where
  | preamble {p : HciPacketizer} {current : List UInt8} (hs : p.state = .hciPreamble)
      (hlen : p.bytesRead.toNat = current.length)
      (hshort : current.length < (hciFraming type htype).headerSize)
      (hold : HoldsAt p.preamble 0 current) : Collects (some p) current
  | payload {p : HciPacketizer} {current : List UInt8} (hs : p.state = .hciPayload)
      (hlen : (hciFraming type htype).headerSize + p.bytesRead.toNat = current.length)
      (hleft : current.length + p.bytesRemaining.toNat = (hciFraming type htype).total current)
      (hempty : p.bytesRemaining = 0 → p.bytesRead = 0)
      (hsize : p.packetSize.toNat = (hciFraming type htype).total current)
      (hold : HoldsAt p.packet 0 current) : Collects (some p) current
  | failed {current : List UInt8} (hpacket : (hciFraming type htype).IsPacket current)
      (hlen : current.length = (hciFraming type htype).headerSize) : Collects none current

structure PacketizerInv (tr : List PacketizerEvent) (s : Option HciPacketizer)
    (current : List UInt8) : Prop where
  cut : (hciFraming type htype).Cut (delivered tr) current (readBytes tr)
  bodies : ∀ p ∈ delivered tr, (hciFraming type htype).headerSize < p.length
  collects : Collects htype s current
  failed : .checkFailed ∈ tr ↔ s = none

theorem count_bytes {bs : List UInt8} {n : UInt64} (h : bs.length ≤ n.toNat) :
    (ReadResult.bytes bs).count.toNat = bs.length := by
  have hlt := n.toNat_lt
  rw [ReadResult.count, UInt64.toNat_ofNat', Nat.mod_eq_of_lt]
  omega

variable {htype}

theorem holdsAt_extend {m : Memory} {current bs : List UInt8} {off : ℕ}
    (h : HoldsAt m 0 current) (hoff : off = current.length) :
    HoldsAt (store m off bs) 0 (current ++ bs) := by
  subst hoff
  refine holdsAt_append.mpr ⟨h.store_disjoint (.inl (Nat.zero_add _).le), ?_⟩
  rw [Nat.zero_add]
  exact holdsAt_store _ _ _

theorem total_of_preamble {m : Memory} {header : List UInt8} (h : HoldsAt m 0 header)
    (hlen : header.length = (preambleSizeForType type).toNat) :
    (hciFraming type htype).total header =
      header.length + (hciGetPacketLengthForType type m).toNat := by
  have hsame : hciGetPacketLengthForType type (ofBytes header) =
      hciGetPacketLengthForType type m := by
    refine hciGetPacketLengthForType_congr htype fun i hi => ?_
    have hheld := h i (hlen ▸ hi)
    have hlist := holdsAt_ofBytes header i (hlen ▸ hi)
    rw [Nat.zero_add] at hheld hlist
    rw [hheld, hlist]
  have htake : header.take (preambleSizeForType type).toNat = header :=
    List.take_of_length_le hlen.le
  change (preambleSizeForType type).toNat + (hciGetPacketLengthForType type
    (ofBytes (header.take (preambleSizeForType type).toNat))).toNat = _
  rw [htake, hsame, hlen]

theorem step_preamble {p : HciPacketizer} {current bs : List UInt8}
    (hs : p.state = .hciPreamble) (hread : p.bytesRead.toNat = current.length)
    (hshort : current.length < (hciFraming type htype).headerSize)
    (hold : HoldsAt p.preamble 0 current) (hne : bs ≠ [])
    (hlen : bs.length ≤ (p.requested type).toNat) :
    ∃ p', p.onDataReady type (.bytes bs) = (some p', [.read bs]) ∧
      Collects htype (some p') (current ++ bs) := by
  have hcount := count_bytes hlen
  have hpos := List.length_pos_iff.mpr hne
  have hnonzero : (ReadResult.bytes bs).count ≠ 0 := by
    intro hzero
    rw [hzero, UInt64.toNat_zero] at hcount
    omega
  have hsize : current.length < (preambleSizeForType type).toNat := hshort
  have hsmall : (preambleSizeForType type).toNat ≤ 4 := by cases type <;> decide
  have hroom : bs.length ≤ (preambleSizeForType type).toNat - current.length := by
    have hle : p.bytesRead ≤ preambleSizeForType type := by
      rw [UInt64.le_iff_toNat_le]
      omega
    simp only [HciPacketizer.requested, hs] at hlen
    rwa [UInt64.toNat_sub_of_le _ _ hle, hread] at hlen
  have htotal : (p.bytesRead + (ReadResult.bytes bs).count).toNat = (current ++ bs).length := by
    rw [UInt64.toNat_add, hread, hcount, List.length_append, Nat.mod_eq_of_lt]
    omega
  have hheld : HoldsAt (store p.preamble p.bytesRead.toNat bs) 0 (current ++ bs) :=
    holdsAt_extend hold hread
  by_cases hdone : p.bytesRead + (ReadResult.bytes bs).count = preambleSizeForType type
  · have hfull : (current ++ bs).length = (preambleSizeForType type).toNat := by
      rw [← htotal, hdone]
    have hlength := hciGetPacketLengthForType_lt type (store p.preamble p.bytesRead.toNat bs)
    have hall : (hciFraming type htype).total (current ++ bs) = _ :=
      total_of_preamble hheld hfull
    have hload : load (store p.preamble p.bytesRead.toNat bs) 0
        (preambleSizeForType type).toNat = current ++ bs := by
      rw [← hfull]
      exact hheld.load_eq
    simp only [HciPacketizer.onDataReady, if_neg hnonzero, hs, if_pos hdone, ReadResult.data]
    refine ⟨_, rfl, .payload rfl ?_ hall.symm (fun _ => rfl) ?_ ?_⟩
    · exact hfull.symm
    · rw [UInt64.toNat_add, Nat.mod_eq_of_lt (by omega), hall, hfull]
    · change HoldsAt (store p.packet 0 (load _ 0 _)) 0 _
      rw [hload]
      exact holdsAt_store _ _ _
  · have hless : (current ++ bs).length < (preambleSizeForType type).toNat := by
      have hne' : (current ++ bs).length ≠ (preambleSizeForType type).toNat := by
        rw [← htotal]
        exact fun h => hdone (UInt64.toNat_inj.mp h)
      rw [List.length_append] at hne' ⊢
      omega
    simp only [HciPacketizer.onDataReady, if_neg hnonzero, hs, if_neg hdone, ReadResult.data]
    exact ⟨_, rfl, .preamble rfl htotal hless hheld⟩

theorem step_payload {p : HciPacketizer} {current bs : List UInt8}
    (hs : p.state = .hciPayload)
    (hread : (hciFraming type htype).headerSize + p.bytesRead.toNat = current.length)
    (hleft : current.length + p.bytesRemaining.toNat = (hciFraming type htype).total current)
    (hsize : p.packetSize.toNat = (hciFraming type htype).total current)
    (hold : HoldsAt p.packet 0 current) (hne : bs ≠ [])
    (hlen : bs.length ≤ (p.requested type).toNat) :
    (∃ p', p.onDataReady type (.bytes bs) = (some p', [.read bs]) ∧
      Collects htype (some p') (current ++ bs)) ∨
    (∃ p', p.onDataReady type (.bytes bs) =
        (some p', [.read bs, .packetReady (current ++ bs)]) ∧
      Collects htype (some p') [] ∧ (hciFraming type htype).IsPacket (current ++ bs) ∧
      (hciFraming type htype).headerSize < (current ++ bs).length) := by
  have hcount := count_bytes hlen
  have hpos := List.length_pos_iff.mpr hne
  have hnonzero : (ReadResult.bytes bs).count ≠ 0 := by
    intro hzero
    rw [hzero, UInt64.toNat_zero] at hcount
    omega
  have hheader : (hciFraming type htype).headerSize ≤ current.length := by omega
  have htotal := Framing.total_append hheader bs
  have hsmall : (preambleSizeForType type).toNat ≤ 4 := by cases type <;> decide
  have hlt := p.packetSize.toNat_lt
  simp only [HciPacketizer.requested, hs] at hlen
  have hremaining : (p.bytesRemaining - (ReadResult.bytes bs).count).toNat =
      p.bytesRemaining.toNat - bs.length := by
    have hle : (ReadResult.bytes bs).count ≤ p.bytesRemaining := by
      rw [UInt64.le_iff_toNat_le]
      omega
    rw [UInt64.toNat_sub_of_le _ _ hle, hcount]
  have hoff : (preambleSizeForType type + p.bytesRead).toNat = current.length := by
    have hread' : (preambleSizeForType type).toNat + p.bytesRead.toNat = current.length := hread
    rw [UInt64.toNat_add, Nat.mod_eq_of_lt (by omega), hread']
  have hheld : HoldsAt (store p.packet (preambleSizeForType type + p.bytesRead).toNat bs) 0
      (current ++ bs) := holdsAt_extend hold hoff
  by_cases hdone : p.bytesRemaining - (ReadResult.bytes bs).count = 0
  · right
    rw [hdone, UInt64.toNat_zero] at hremaining
    have hpacket : (hciFraming type htype).IsPacket (current ++ bs) := by
      rw [Framing.IsPacket, htotal, List.length_append]
      omega
    have hload : load (store p.packet (preambleSizeForType type + p.bytesRead).toNat bs) 0
        p.packetSize.toNat = current ++ bs := by
      rw [hsize, ← htotal, ← hpacket]
      exact hheld.load_eq
    simp only [HciPacketizer.onDataReady, if_neg hnonzero, hs, if_pos hdone, ReadResult.data, hload]
    refine ⟨_, rfl, .preamble rfl rfl (hciFraming type htype).headerSize_pos (holdsAt_nil _ _),
      hpacket, ?_⟩
    rw [List.length_append]
    omega
  · left
    have hmore : (p.bytesRemaining - (ReadResult.bytes bs).count).toNat ≠ 0 :=
      fun h => hdone (UInt64.toNat_inj.mp h)
    simp only [HciPacketizer.onDataReady, if_neg hnonzero, hs, if_neg hdone, ReadResult.data]
    refine ⟨_, rfl, .payload rfl ?_ ?_ (fun h => absurd h hdone) (htotal ▸ hsize) hheld⟩
    · rw [UInt64.toNat_add, hcount, List.length_append, Nat.mod_eq_of_lt] <;> omega
    · rw [htotal, List.length_append, hremaining]
      omega

theorem step_empty {p : HciPacketizer} (hzero : p.requested type = 0) {bs : List UInt8}
    (hlen : bs.length ≤ (p.requested type).toNat) :
    bs = [] ∧ p.onDataReady type (.bytes bs) = (none, [.read bs, .checkFailed]) := by
  rw [hzero, UInt64.toNat_zero, Nat.le_zero, List.length_eq_zero_iff] at hlen
  subst hlen
  exact ⟨rfl, rfl⟩

theorem readBytes_append (tr tr' : List PacketizerEvent) :
    readBytes (tr ++ tr') = readBytes tr ++ readBytes tr' := List.flatMap_append

theorem PacketizerInv.collect {tr : List PacketizerEvent} {p p' : HciPacketizer}
    {current bs : List UInt8} (h : PacketizerInv htype tr (some p) current)
    (hnext : Collects htype (some p') (current ++ bs)) :
    PacketizerInv htype (tr ++ [.read bs]) (some p') (current ++ bs) := by
  have hread : readBytes [.read bs] = bs := by simp [readBytes]
  have hdelivered : delivered (tr ++ [.read bs]) = delivered tr := by
    simp [delivered]
  refine ⟨⟨?_, hdelivered ▸ h.cut.packets⟩, hdelivered ▸ h.bodies, hnext, ?_⟩
  · rw [readBytes_append, hread, h.cut.bytes, hdelivered, List.append_assoc]
  · have halive := h.failed
    simp_all

theorem PacketizerInv.deliver {tr : List PacketizerEvent} {p p' : HciPacketizer}
    {current bs : List UInt8} (h : PacketizerInv htype tr (some p) current)
    (hnext : Collects htype (some p') [])
    (hpacket : (hciFraming type htype).IsPacket (current ++ bs))
    (hbody : (hciFraming type htype).headerSize < (current ++ bs).length) :
    PacketizerInv htype (tr ++ [.read bs, .packetReady (current ++ bs)]) (some p') [] := by
  have hread : readBytes [.read bs, .packetReady (current ++ bs)] = bs := by simp [readBytes]
  have hdelivered : delivered (tr ++ [.read bs, .packetReady (current ++ bs)]) =
      delivered tr ++ [current ++ bs] := by simp [delivered]
  refine ⟨⟨?_, ?_⟩, ?_, hnext, ?_⟩
  · rw [readBytes_append, hread, h.cut.bytes, hdelivered]
    simp
  · rw [hdelivered]
    exact List.forall_mem_append.mpr ⟨h.cut.packets, by simpa using hpacket⟩
  · rw [hdelivered]
    exact List.forall_mem_append.mpr ⟨h.bodies, by simpa using hbody⟩
  · have halive := h.failed
    simp_all

theorem PacketizerInv.fail {tr : List PacketizerEvent} {p : HciPacketizer}
    {current : List UInt8} (h : PacketizerInv htype tr (some p) current)
    (hzero : p.requested type = 0) :
    PacketizerInv htype (tr ++ [.read [], .checkFailed]) none current := by
  have hread : readBytes [.read [], .checkFailed] = [] := by simp [readBytes]
  have hdelivered : delivered (tr ++ [.read [], .checkFailed]) = delivered tr := by
    simp [delivered]
  refine ⟨⟨?_, hdelivered ▸ h.cut.packets⟩, hdelivered ▸ h.bodies, ?_, by simp⟩
  · rw [readBytes_append, hread, h.cut.bytes, hdelivered, List.append_nil]
  · have hcollects := h.collects
    cases hcollects with
    | preamble hs hlen hshort hold =>
      have hsize : current.length < (preambleSizeForType type).toNat := hshort
      simp only [HciPacketizer.requested, hs] at hzero
      have hle : p.bytesRead ≤ preambleSizeForType type := by
        rw [UInt64.le_iff_toNat_le]
        omega
      have hnat := UInt64.toNat_sub_of_le _ _ hle
      rw [hzero, UInt64.toNat_zero] at hnat
      omega
    | payload hs hlen hleft hempty hsize hold =>
      simp only [HciPacketizer.requested, hs] at hzero
      have hstart := hempty hzero
      rw [hstart, UInt64.toNat_zero] at hlen
      rw [hzero, UInt64.toNat_zero] at hleft
      exact .failed hleft hlen.symm

theorem PacketizerInv.step {tr es : List PacketizerEvent} {s s' : Option HciPacketizer}
    {current : List UInt8} (h : PacketizerInv htype tr s current) {result : ReadResult}
    (hok : Served type s result) (hs : (packetizer type).step s result = some (s', es)) :
    ∃ current', PacketizerInv htype (tr ++ es) s' current' := by
  cases s with
  | none => simp [packetizer] at hs
  | some p =>
    cases result with
    | failed => exact hok.elim
    | bytes bs =>
      obtain ⟨hlen, hempty⟩ := hok
      have hstep : p.onDataReady type (.bytes bs) = (s', es) := Option.some.inj hs
      by_cases hne : bs = []
      · subst hne
        obtain ⟨-, heq⟩ := step_empty (hempty rfl) hlen
        obtain ⟨rfl, rfl⟩ := Prod.mk.inj (hstep.symm.trans heq)
        exact ⟨current, h.fail (hempty rfl)⟩
      · have hcollects := h.collects
        cases hcollects with
        | preamble hst hread hshort hold =>
          obtain ⟨p', heq, hnext⟩ := step_preamble hst hread hshort hold hne hlen
          obtain ⟨rfl, rfl⟩ := Prod.mk.inj (hstep.symm.trans heq)
          exact ⟨_, h.collect hnext⟩
        | payload hst hread hleft hstart hsize hold =>
          obtain ⟨p', heq, hnext⟩ | ⟨p', heq, hnext, hpacket, hbody⟩ :=
            step_payload hst hread hleft hsize hold hne hlen
          · obtain ⟨rfl, rfl⟩ := Prod.mk.inj (hstep.symm.trans heq)
            exact ⟨_, h.collect hnext⟩
          · obtain ⟨rfl, rfl⟩ := Prod.mk.inj (hstep.symm.trans heq)
            exact ⟨_, h.deliver hnext hpacket hbody⟩

theorem Collects.unfinished_or {s : Option HciPacketizer} {current : List UInt8}
    (h : Collects htype s current) : (hciFraming type htype).Unfinished current ∧ s ≠ none ∨
      (hciFraming type htype).IsPacket current ∧
        current.length = (hciFraming type htype).headerSize := by
  cases h with
  | preamble hs hlen hshort hold => exact .inl ⟨Framing.unfinished_of_short hshort, by simp⟩
  | failed hpacket hlen => exact .inr ⟨hpacket, hlen⟩
  | payload hs hlen hleft hempty hsize hold =>
    rename_i p
    by_cases hzero : p.bytesRemaining = 0
    · rw [hempty hzero, UInt64.toNat_zero] at hlen
      rw [hzero, UInt64.toNat_zero] at hleft
      exact .inr ⟨hleft, hlen.symm⟩
    · have hpos : p.bytesRemaining.toNat ≠ 0 := fun h => hzero (UInt64.toNat_inj.mp h)
      refine .inl ⟨?_, by simp⟩
      rw [Framing.Unfinished]
      omega

end Run

structure HciPacketizer.Idle (p : HciPacketizer) : Prop where
  state : p.state = .hciPreamble
  bytesRead : p.bytesRead = 0

theorem packetizerRun_inv {type : HciPacketType} (htype : type ≠ .unknown) {p₀ : HciPacketizer}
    (h₀ : p₀.Idle) {tr : List PacketizerEvent} {s : Option HciPacketizer}
    (run : (packetizer type).Run (Served type) (some p₀) tr s) :
    ∃ current, PacketizerInv htype tr s current := by
  refine run.invariant (P := fun tr s => ∃ current, PacketizerInv htype tr s current) ?_ ?_
  · refine ⟨[], ⟨rfl, by simp [delivered]⟩, by simp [delivered], ?_, by simp⟩
    exact .preamble h₀.state (by rw [h₀.bytesRead]; rfl) (hciFraming type htype).headerSize_pos
      (holdsAt_nil _ _)
  · intro tr es s s' result h hok hs
    obtain ⟨current, hinv⟩ := h
    exact hinv.step hok hs

/-- Of a stream of packets the callback gets, however the reads cut it, exactly those that
have arrived whole, in order, and the program stops only after a packet with an empty
payload, which it does not deliver. -/
theorem packets_reassembled {type : HciPacketType} (htype : type ≠ .unknown)
    {p₀ : HciPacketizer} (h₀ : p₀.Idle) {tr : List PacketizerEvent} {s : Option HciPacketizer}
    (run : (packetizer type).Run (Served type) (some p₀) tr s) {packets : List (List UInt8)}
    (hpackets : ∀ q ∈ packets, (hciFraming type htype).IsPacket q)
    (hstream : readBytes tr <+: packets.flatten) :
    delivered tr <+: packets ∧
    ((∀ q ∈ packets, (hciFraming type htype).headerSize < q.length) →
      .checkFailed ∉ tr ∧ ∀ n ≤ packets.length,
        (packets.take n).flatten.length ≤ (readBytes tr).length ↔ n ≤ (delivered tr).length) ∧
    (.checkFailed ∈ tr → ∃ q rest, packets = delivered tr ++ q :: rest ∧
      q.length = (hciFraming type htype).headerSize ∧
      readBytes tr = (delivered tr).flatten ++ q) := by
  obtain ⟨current, hinv⟩ := packetizerRun_inv htype h₀ run
  obtain ⟨rest, hall, hcurrent⟩ := hinv.cut.prefix_of hpackets hstream
  -- a collected preamble of an empty payload is the next packet of the stream
  have hempty (hpacket : (hciFraming type htype).IsPacket current) :
      ∃ rest', rest = current :: rest' := by
    cases rest with
    | nil => exact absurd (List.prefix_nil.mp hcurrent) hpacket.ne_nil
    | cons q rest' =>
      obtain ⟨t, ht⟩ := hcurrent
      have hq : (hciFraming type htype).IsPacket q := hpackets q (by simp [hall])
      obtain ⟨rfl, -⟩ := hpacket.eq_of_append hq ht
      exact ⟨rest', rfl⟩
  refine ⟨⟨rest, hall.symm⟩, fun hbodies => ?_, fun hfailed => ?_⟩
  · obtain ⟨hunfinished, halive⟩ | ⟨hpacket, hlen⟩ := hinv.collects.unfinished_or
    · exact ⟨fun hmem => halive (hinv.failed.mp hmem), fun n hn =>
        hinv.cut.whole_iff hunfinished hpackets hstream hn⟩
    · obtain ⟨rest', rfl⟩ := hempty hpacket
      have hbody := hbodies current (by simp [hall])
      omega
  · have hnone := hinv.failed.mp hfailed
    obtain ⟨-, halive⟩ | ⟨hpacket, hlen⟩ := hinv.collects.unfinished_or
    · exact absurd hnone halive
    · obtain ⟨rest', rfl⟩ := hempty hpacket
      exact ⟨current, rest', hall, hlen, hinv.cut.bytes⟩

def idlePacketizer : HciPacketizer := ⟨.hciPreamble, fun _ => 0, fun _ => 0, 0, 0, 0⟩

def eventPieces : List ReadResult :=
  [.bytes [0x0E], .bytes [2], .bytes [7], .bytes [9], .bytes [0x10, 0], .bytes []]

theorem packets_reassembled_pieces : ∃ tr s,
    (packetizer .event).Run (Served .event) (some idlePacketizer) tr s ∧
    .checkFailed ∈ tr ∧ delivered tr <+: [[0x0E, 2, 7, 9], [0x10, 0]] := by
  obtain ⟨tr, s, run, hfailed, hread⟩ := Machine.run_of_exec (packetizer .event)
    (Served .event) (some idlePacketizer) eventPieces
    (fun _ tr => .checkFailed ∈ tr ∧ readBytes tr = [0x0E, 2, 7, 9, 0x10, 0]) (by decide +kernel)
  have hpackets : ∀ q ∈ [[0x0E, 2, 7, 9], [0x10, 0]],
      (hciFraming .event (by decide)).IsPacket q := by decide +kernel
  have hstream : readBytes tr <+: [[0x0E, 2, 7, 9], [0x10, 0]].flatten := ⟨[], by rw [hread]; rfl⟩
  exact ⟨tr, s, run, hfailed,
    (packets_reassembled (by decide) ⟨rfl, rfl⟩ run hpackets hstream).1⟩

end Rpi3Device.Bluetooth
