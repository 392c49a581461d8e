import Rpi3Device.OnesComplement
import Rpi3Device.Dhcp.Host

/-!
# Sending raw UDP packets

`addChecksum`, `finishChecksum` and `Socket::sendRawUdp` of
`dhcp/common/socket.cpp`. A buffer is the list of its bytes; the source reads it
as 16-bit words of a little-endian host. The headers are records whose bytes are
laid out as the kernel's `iphdr` and `udphdr` are. What is left out is the
`sendmsg` call itself: the packet is the concatenation of its three parts.
-/

namespace Rpi3Device.Dhcp
open ByteMemory BoundedLoop OnesComplement

def addWords : List UInt8 → UInt32 → UInt32
  | b₀ :: b₁ :: bs, checksum => addWords bs (checksum + (word16 b₀ b₁).toUInt32)
  | [b], checksum => checksum + b.toUInt32
  | [], checksum => checksum

def foldRound (checksum : UInt32) : UInt32 ⊕ UInt32 :=
  let msw := checksum >>> 16
  if msw ≠ 0 then .inl ((checksum &&& 0xFFFF) + msw) else .inr checksum

def foldChecksum : UInt32 → UInt32 := measured foldRound UInt32.toNat 0

def addChecksum (buffer : List UInt8) (checksum : UInt32) : UInt32 :=
  foldChecksum (addWords buffer checksum)

def finishChecksum (checksum : UInt32) : UInt32 := ~~~checksum &&& 0xFFFF

structure Iphdr where
  version : UInt8
  ihl : UInt8
  tos : UInt8
  totLen : UInt16
  id : UInt16
  fragOff : UInt16
  ttl : UInt8
  protocol : UInt8
  check : UInt16
  saddr : UInt32
  daddr : UInt32

def Iphdr.bytes (ip : Iphdr) : List UInt8 :=
  [ip.version * 16 + ip.ihl, ip.tos] ++ bytes16 ip.totLen ++ bytes16 ip.id ++
    bytes16 ip.fragOff ++ [ip.ttl, ip.protocol] ++ bytes16 ip.check ++ bytes32 ip.saddr ++
    bytes32 ip.daddr

structure Udphdr where
  source : UInt16
  dest : UInt16
  len : UInt16
  check : UInt16

def Udphdr.bytes (udp : Udphdr) : List UInt8 :=
  bytes16 udp.source ++ bytes16 udp.dest ++ bytes16 udp.len ++ bytes16 udp.check

def ipDefTtl : UInt8 := 64
def iphdrSize : ℕ := 20
def udphdrSize : ℕ := 8

section SendRawUdp
variable (source : UInt32) (sourcePort : UInt16) (destination : UInt32)
  (destinationPort : UInt16) (message : Message)

def ipUnchecked : Iphdr where
  version := UInt8.ofNat ipVersion
  ihl := UInt8.ofNat (iphdrSize / 4)
  tos := 0
  totLen := htons (UInt16.ofNat (iphdrSize + udphdrSize + message.mSize))
  id := 0
  fragOff := 0
  ttl := ipDefTtl
  protocol := ipprotoUdp
  check := 0
  saddr := source
  daddr := destination

def ipHeader : Iphdr :=
  let ip := ipUnchecked source destination message
  { ip with check := (finishChecksum (addChecksum ip.bytes 0)).toUInt16 }

def udpUnchecked : Udphdr where
  source := htons sourcePort
  dest := htons destinationPort
  len := htons (UInt16.ofNat (udphdrSize + message.mSize))
  check := 0

def udpChecksum (ip : Iphdr) (udp : Udphdr) : UInt32 :=
  let checksum := 0
  let checksum := addChecksum (bytes32 ip.saddr) checksum
  let checksum := addChecksum (bytes32 ip.daddr) checksum
  let checksum := addChecksum (bytes16 (htons ipprotoUdp.toUInt16)) checksum
  let checksum := addChecksum (bytes16 udp.len) checksum
  let checksum := addChecksum udp.bytes checksum
  addChecksum message.wire checksum

def udpHeader : Udphdr :=
  let udp := udpUnchecked sourcePort destinationPort message
  let ip := ipHeader source destination message
  { udp with check := (finishChecksum (udpChecksum message ip udp)).toUInt16 }

def sendRawUdp : List UInt8 :=
  (ipHeader source destination message).bytes ++
    (udpHeader source sourcePort destination destinationPort message).bytes ++ message.wire

end SendRawUdp

theorem word16_toNat (b₀ b₁ : UInt8) : (word16 b₀ b₁).toNat = ByteOrder.little.word b₀ b₁ := by
  have h₀ := b₀.toNat_lt
  have h₁ := b₁.toNat_lt
  rw [word16, UInt16.toNat_ofNat', ByteOrder.word]
  omega

theorem addWords_toNat (buffer : List UInt8) (checksum : UInt32) :
    (addWords buffer checksum).toNat = (checksum.toNat + wordSum .little buffer) % 2 ^ 32 := by
  induction buffer, checksum using addWords.induct with
  | case1 b₀ b₁ bs checksum ih =>
    rw [addWords, ih, wordSum_pair, UInt32.toNat_add, UInt16.toNat_toUInt32, word16_toNat,
      Nat.mod_add_mod, Nat.add_assoc]
  | case2 checksum b =>
    rw [addWords, UInt32.toNat_add, UInt8.toNat_toUInt32]
    simp [wordSum, words, ByteOrder.word]
  | case3 checksum => simp [addWords]

/-- No addition of the loop over `buffer` overflows: after any number of bytes the
accumulator holds the exact sum. -/
def AddsExactly (buffer : List UInt8) (checksum : UInt32) : Prop :=
  ∀ n, (addWords (buffer.take n) checksum).toNat =
    checksum.toNat + wordSum .little (buffer.take n)

theorem addsExactly_of_length {buffer : List UInt8} {checksum : UInt32}
    (hc : checksum.toNat ≤ 65535) (hlen : buffer.length ≤ 2 ^ 16) :
    AddsExactly buffer checksum := by
  intro n
  have hsum := wordSum_le .little (buffer.take n)
  have htake : (buffer.take n).length ≤ 2 ^ 16 := (List.length_take_le' n buffer).trans hlen
  rw [addWords_toNat, Nat.mod_eq_of_lt]
  omega

theorem AddsExactly.addWords_toNat {buffer : List UInt8} {checksum : UInt32}
    (h : AddsExactly buffer checksum) :
    (addWords buffer checksum).toNat = checksum.toNat + wordSum .little buffer := by
  have hall := h buffer.length
  rwa [List.take_length] at hall

theorem toNat_shiftRight_16 (x : UInt32) : (x >>> 16).toNat = x.toNat / 65536 := by
  rw [UInt32.toNat_shiftRight, Nat.shiftRight_eq_div_pow]
  rfl

theorem toNat_and_ffff (x : UInt32) : (x &&& 0xFFFF).toNat = x.toNat % 65536 := by
  rw [UInt32.toNat_and]
  exact Nat.and_two_pow_sub_one_eq_mod _ 16

theorem foldRound_toNat (x : UInt32) :
    ((x &&& (0xFFFF : UInt32)) + x >>> 16).toNat = x.toNat % 65536 + x.toNat / 65536 := by
  have hx := x.toNat_lt
  rw [UInt32.toNat_add, toNat_and_ffff, toNat_shiftRight_16, Nat.mod_eq_of_lt]
  omega

theorem shiftRight_16_eq_zero (x : UInt32) : x >>> 16 = 0 ↔ x.toNat ≤ 65535 := by
  rw [← UInt32.toNat_inj, toNat_shiftRight_16, UInt32.toNat_zero]
  omega

theorem foldRound_decreases : Decreases foldRound UInt32.toNat := by
  intro x y h
  simp only [foldRound] at h
  by_cases hx : x >>> 16 = 0
  · simp [hx] at h
  · rw [if_pos hx, Sum.inl.injEq] at h
    rw [shiftRight_16_eq_zero] at hx
    rw [← h, foldRound_toNat]
    omega

theorem foldChecksum_toNat (x : UInt32) : (foldChecksum x).toNat = reduce x.toNat := by
  induction hn : x.toNat using Nat.strong_induction_on generalizing x with
  | _ n ih =>
    by_cases hx : x >>> 16 = 0
    · have hexit : foldChecksum x = x := measured_exit (by simp [foldRound, hx])
      rw [hexit, reduce_of_le (hn ▸ (shiftRight_16_eq_zero x).mp hx), hn]
    · have hround : foldRound x = .inl ((x &&& (0xFFFF : UInt32)) + x >>> 16) := by
        simp [foldRound, hx]
      have hlt := foldRound_decreases x _ hround
      have hnext : foldChecksum x = foldChecksum ((x &&& (0xFFFF : UInt32)) + x >>> 16) :=
        measured_continue foldRound_decreases 0 hround
      rw [hnext, ih _ (hn ▸ hlt) _ rfl, foldRound_toNat, reduce_carry, hn]

theorem addChecksum_toNat {buffer : List UInt8} {checksum : UInt32}
    (h : AddsExactly buffer checksum) :
    (addChecksum buffer checksum).toNat = reduce (checksum.toNat + wordSum .little buffer) := by
  rw [addChecksum, foldChecksum_toNat, h.addWords_toNat]

theorem addChecksum_le (buffer : List UInt8) (checksum : UInt32) :
    (addChecksum buffer checksum).toNat ≤ 65535 := by
  rw [addChecksum, foldChecksum_toNat]
  exact reduce_le _

theorem finishChecksum_toNat {checksum : UInt32} (h : checksum.toNat ≤ 65535) :
    (finishChecksum checksum).toUInt16.toNat = 65535 - checksum.toNat := by
  rw [UInt32.toNat_toUInt16, finishChecksum, toNat_and_ffff, UInt32.toNat_not]
  simp only [UInt32.size]
  omega

def addChecksums (buffers : List (List UInt8)) (checksum : UInt32) : UInt32 :=
  buffers.foldl (fun checksum buffer => addChecksum buffer checksum) checksum

theorem addChecksums_le {buffers : List (List UInt8)} {checksum : UInt32}
    (hc : checksum.toNat ≤ 65535) : (addChecksums buffers checksum).toNat ≤ 65535 := by
  induction buffers generalizing checksum with
  | nil => exact hc
  | cons buffer buffers ih => exact ih (addChecksum_le buffer checksum)

theorem addChecksums_toNat {buffers : List (List UInt8)} {checksum : UInt32}
    (hc : checksum.toNat ≤ 65535) (hlen : ∀ b ∈ buffers, b.length ≤ 2 ^ 16) :
    (addChecksums buffers checksum).toNat =
      reduce (checksum.toNat + (buffers.map (wordSum .little)).sum) := by
  induction buffers generalizing checksum with
  | nil => exact (reduce_of_le hc).symm
  | cons buffer buffers ih =>
    have hexact := addsExactly_of_length hc (hlen buffer (by simp))
    have hrest : ∀ b ∈ buffers, b.length ≤ 2 ^ 16 := fun b hb => hlen b (by simp [hb])
    have hcall : addChecksums (buffer :: buffers) checksum =
        addChecksums buffers (addChecksum buffer checksum) := rfl
    rw [hcall, ih (addChecksum_le buffer checksum) hrest, addChecksum_toNat hexact,
      reduce_reduce_add, List.map_cons, List.sum_cons, Nat.add_assoc]

theorem wordSum_flatten {buffers : List (List UInt8)} (h : ∀ b ∈ buffers, Even b.length)
    (last : List UInt8) : wordSum .little (buffers ++ [last]).flatten =
      ((buffers ++ [last]).map (wordSum .little)).sum := by
  induction buffers with
  | nil => simp
  | cons buffer buffers ih =>
    have hrest : ∀ b ∈ buffers, Even b.length := fun b hb => h b (by simp [hb])
    rw [List.cons_append, List.flatten_cons, wordSum_append .little (h buffer (by simp)),
      ih hrest, List.map_cons, List.sum_cons]

theorem word_bytes16 (x : UInt16) :
    ByteOrder.little.word (UInt8.ofNat x.toNat) (UInt8.ofNat (x.toNat / 256)) = x.toNat := by
  rw [← word16_toNat, word16_bytes]

theorem Iphdr.wordSum_check (ip : Iphdr) (check : UInt16) :
    wordSum .little { ip with check := check }.bytes =
      wordSum .little { ip with check := 0 }.bytes + check.toNat := by
  simp only [Iphdr.bytes, bytes16, bytes32, List.cons_append, List.nil_append, wordSum_pair,
    word_bytes16]
  rw [UInt16.toNat_zero]
  omega

theorem Udphdr.wordSum_check (udp : Udphdr) (check : UInt16) :
    wordSum .little { udp with check := check }.bytes =
      wordSum .little { udp with check := 0 }.bytes + check.toNat := by
  simp only [Udphdr.bytes, bytes16, List.cons_append, List.nil_append, wordSum_pair,
    word_bytes16]
  rw [UInt16.toNat_zero]
  omega

theorem complement_dvd {total : ℕ} (hpos : 0 < total) :
    0 < total + (65535 - reduce total) ∧ 65535 ∣ total + (65535 - reduce total) := by
  obtain ⟨k, hk⟩ := reduce_spec total
  have hle := reduce_le total
  exact ⟨by omega, k + 1, by omega⟩

section Packet
variable (source : UInt32) (sourcePort : UInt16) (destination : UInt32)
  (destinationPort : UInt16) (message : Message)

theorem ipHeader_wordSum : wordSum .little (ipHeader source destination message).bytes =
    wordSum .little (ipUnchecked source destination message).bytes +
      (65535 - reduce (wordSum .little (ipUnchecked source destination message).bytes)) := by
  have hexact : AddsExactly (ipUnchecked source destination message).bytes 0 :=
    addsExactly_of_length (by simp) (by simp [Iphdr.bytes, bytes16, bytes32])
  have hsum := addChecksum_toNat hexact
  rw [UInt32.toNat_zero, Nat.zero_add] at hsum
  rw [ipHeader, Iphdr.wordSum_check, finishChecksum_toNat (addChecksum_le _ _), hsum]
  rfl

theorem ipUnchecked_wordSum_pos :
    0 < wordSum .little (ipUnchecked source destination message).bytes := by
  simp only [ipUnchecked, Iphdr.bytes, bytes16, bytes32, List.cons_append, List.nil_append,
    wordSum_pair, ByteOrder.word]
  have hfirst : 0 < (UInt8.ofNat ipVersion * 16 + UInt8.ofNat (iphdrSize / 4)).toNat := by decide
  omega

def pseudoHeader (size : ℕ) : List UInt8 :=
  bytes32 source ++ bytes32 destination ++ [0, ipprotoUdp] ++
    bytes16 (htons (UInt16.ofNat (udphdrSize + size)))

/-- The buffers over which `sendRawUdp` computes the UDP checksum, in its order. -/
def udpBuffers : List (List UInt8) :=
  [bytes32 source, bytes32 destination, bytes16 (htons ipprotoUdp.toUInt16),
    bytes16 (udpUnchecked sourcePort destinationPort message).len,
    (udpUnchecked sourcePort destinationPort message).bytes] ++ [message.wire]

def udpCovered : List UInt8 :=
  pseudoHeader source destination message.mSize ++
    (udpUnchecked sourcePort destinationPort message).bytes ++ message.wire

theorem udpChecksum_eq :
    udpChecksum message (ipHeader source destination message)
      (udpUnchecked sourcePort destinationPort message) =
      addChecksums (udpBuffers source sourcePort destination destinationPort message) 0 := rfl

theorem udpBuffers_flatten :
    (udpBuffers source sourcePort destination destinationPort message).flatten =
      udpCovered source sourcePort destination destinationPort message := by
  have hproto : bytes16 (htons ipprotoUdp.toUInt16) = [0, ipprotoUdp] := by decide
  simp only [udpBuffers, udpCovered, pseudoHeader, hproto, udpUnchecked, List.flatten_cons,
    List.flatten_nil, List.cons_append, List.nil_append, List.append_assoc, List.append_nil]

theorem wire_length : message.wire.length = message.mSize := load_length _ _ _

variable {message}

theorem udpBuffers_length (hsize : message.mSize ≤ capacity) :
    ∀ b ∈ udpBuffers source sourcePort destination destinationPort message,
      b.length ≤ 2 ^ 16 := by
  rw [capacity] at hsize
  simp only [udpBuffers, Udphdr.bytes, bytes16, bytes32, List.cons_append, List.nil_append,
    List.forall_mem_cons, List.length_cons, List.length_nil, wire_length, List.not_mem_nil,
    false_imp_iff, implies_true, and_true]
  omega

theorem udpBuffers_sum : ((udpBuffers source sourcePort destination destinationPort message).map
    (wordSum .little)).sum =
      wordSum .little (udpCovered source sourcePort destination destinationPort message) := by
  rw [← udpBuffers_flatten, udpBuffers]
  refine (wordSum_flatten ?_ _).symm
  simp [Udphdr.bytes, bytes16, bytes32]
  decide

theorem udpChecksum_toNat (hsize : message.mSize ≤ capacity) :
    (udpChecksum message (ipHeader source destination message)
      (udpUnchecked sourcePort destinationPort message)).toNat =
      reduce (wordSum .little
        (udpCovered source sourcePort destination destinationPort message)) := by
  rw [udpChecksum_eq, addChecksums_toNat (by simp)
    (udpBuffers_length source sourcePort destination destinationPort hsize), udpBuffers_sum,
    UInt32.toNat_zero, Nat.zero_add]

theorem udpHeader_bytes_wordSum :
    wordSum .little (udpHeader source sourcePort destination destinationPort message).bytes =
      wordSum .little (udpUnchecked sourcePort destinationPort message).bytes +
        (udpHeader source sourcePort destination destinationPort message).check.toNat :=
  Udphdr.wordSum_check (udpUnchecked sourcePort destinationPort message) _

theorem wordSum_udpCovered (udp : Udphdr) :
    wordSum .little (pseudoHeader source destination message.mSize ++ udp.bytes ++
      message.wire) = wordSum .little (pseudoHeader source destination message.mSize) +
        wordSum .little udp.bytes + wordSum .little message.wire := by
  have hpseudo : Even (pseudoHeader source destination message.mSize).length := by
    simp only [pseudoHeader, List.length_append, bytes32_length, bytes16_length]
    decide
  have hudp : Even udp.bytes.length := by
    simp only [Udphdr.bytes, List.length_append, bytes16_length]
    decide
  have hboth : Even (pseudoHeader source destination message.mSize ++ udp.bytes).length := by
    rw [List.length_append]
    exact hpseudo.add hudp
  rw [wordSum_append _ hboth, wordSum_append _ hpseudo]

variable (message) in
theorem udpCovered_wordSum_pos :
    0 < wordSum .little (udpCovered source sourcePort destination destinationPort message) := by
  rw [udpCovered, wordSum_udpCovered]
  have hproto : 0 < wordSum .little (pseudoHeader source destination message.mSize) := by
    simp only [pseudoHeader, bytes16, bytes32, List.cons_append, List.nil_append, wordSum_pair,
      ByteOrder.word]
    have h17 : ipprotoUdp.toNat = 17 := rfl
    omega
  omega

theorem udpHeader_check_toNat (hsize : message.mSize ≤ capacity) :
    (udpHeader source sourcePort destination destinationPort message).check.toNat =
      65535 - reduce (wordSum .little
        (udpCovered source sourcePort destination destinationPort message)) := by
  rw [← udpChecksum_toNat source sourcePort destination destinationPort hsize]
  refine finishChecksum_toNat ?_
  rw [udpChecksum_eq]
  exact addChecksums_le (by simp)

theorem udpHeader_wordSum (hsize : message.mSize ≤ capacity) :
    wordSum .little (pseudoHeader source destination message.mSize ++
      (udpHeader source sourcePort destination destinationPort message).bytes ++ message.wire) =
      wordSum .little (udpCovered source sourcePort destination destinationPort message) +
        (65535 - reduce (wordSum .little
          (udpCovered source sourcePort destination destinationPort message))) := by
  rw [← udpHeader_check_toNat source sourcePort destination destinationPort hsize,
    wordSum_udpCovered, udpHeader_bytes_wordSum, udpCovered, wordSum_udpCovered]
  omega

/-- Both checksums of an assembled packet verify in either byte order, the chained
calls compute one checksum of the concatenated buffers, and no addition of any
call overflows. -/
theorem sendRawUdp_checksums (hsize : message.mSize ≤ capacity) :
    (∀ o, sum (words o ((sendRawUdp source sourcePort destination destinationPort
      message).take 20)) = 0xFFFF) ∧
    (∀ o, sum (words o (pseudoHeader source destination message.mSize ++
      (sendRawUdp source sourcePort destination destinationPort message).drop 20)) = 0xFFFF) ∧
    udpChecksum message (ipHeader source destination message)
        (udpUnchecked sourcePort destinationPort message) =
      addChecksum (udpCovered source sourcePort destination destinationPort message) 0 ∧
    AddsExactly (ipUnchecked source destination message).bytes 0 ∧
    AddsExactly (udpCovered source sourcePort destination destinationPort message) 0 ∧
    ∀ done buffer rest, udpBuffers source sourcePort destination destinationPort message =
        done ++ buffer :: rest → AddsExactly buffer (addChecksums done 0) := by
  have hip : (ipHeader source destination message).bytes.length = 20 := by
    simp [Iphdr.bytes]
  have hcovered : AddsExactly
      (udpCovered source sourcePort destination destinationPort message) 0 := by
    refine addsExactly_of_length (by simp) ?_
    rw [capacity] at hsize
    simp only [udpCovered, pseudoHeader, Udphdr.bytes, List.length_append, bytes16_length,
      bytes32_length, wire_length, List.length_cons, List.length_nil]
    omega
  refine ⟨fun o => ?_, fun o => ?_, ?_, ?_, hcovered, ?_⟩
  · rw [sendRawUdp, List.append_assoc, List.take_left' hip]
    have hall := complement_dvd (ipUnchecked_wordSum_pos source destination message)
    rw [← ipHeader_wordSum] at hall
    exact sum_words_eq_top hall.1 hall.2 o
  · rw [sendRawUdp, List.append_assoc, List.drop_left' hip, ← List.append_assoc]
    have hall := complement_dvd
      (udpCovered_wordSum_pos source sourcePort destination destinationPort message)
    rw [← udpHeader_wordSum source sourcePort destination destinationPort hsize] at hall
    exact sum_words_eq_top hall.1 hall.2 o
  · apply UInt32.toNat_inj.mp
    rw [udpChecksum_toNat source sourcePort destination destinationPort hsize,
      addChecksum_toNat hcovered, UInt32.toNat_zero, Nat.zero_add]
  · exact addsExactly_of_length (by simp) (by simp [Iphdr.bytes])
  · intro done buffer rest hbuffers
    have hmem : buffer ∈ udpBuffers source sourcePort destination destinationPort message := by
      rw [hbuffers]
      simp
    exact addsExactly_of_length (addChecksums_le (by simp))
      (udpBuffers_length source sourcePort destination destinationPort hsize buffer hmem)

theorem sendRawUdp_checksums_odd_size :
    sum (words .big ((sendRawUdp 0 68 0xFFFFFFFF 67 ⟨ofBytes [1, 2, 3], 3⟩).take 20)) = 0xFFFF ∧
    sum (words .big (pseudoHeader 0 0xFFFFFFFF 3 ++
      (sendRawUdp 0 68 0xFFFFFFFF 67 ⟨ofBytes [1, 2, 3], 3⟩).drop 20)) = 0xFFFF := by
  have h := sendRawUdp_checksums 0 68 0xFFFFFFFF 67
    (show (⟨ofBytes [1, 2, 3], 3⟩ : Message).mSize ≤ capacity by decide)
  exact ⟨h.1 .big, h.2.1 .big⟩

/-- The transmitted UDP checksum is zero exactly when the covered words sum to a
multiple of 65535. -/
theorem udpHeader_check_ne_zero_iff (hsize : message.mSize ≤ capacity) :
    (udpHeader source sourcePort destination destinationPort message).check ≠ 0 ↔
      ¬ 65535 ∣ wordSum .little
        (udpCovered source sourcePort destination destinationPort message) := by
  have hpos := udpCovered_wordSum_pos source sourcePort destination destinationPort message
  have htop := reduce_eq_top_iff (wordSum .little
    (udpCovered source sourcePort destination destinationPort message))
  have hle := reduce_le (wordSum .little
    (udpCovered source sourcePort destination destinationPort message))
  rw [ne_eq, ← UInt16.toNat_inj, UInt16.toNat_zero,
    udpHeader_check_toNat source sourcePort destination destinationPort hsize, not_iff_not]
  constructor
  · intro hzero
    exact (htop.mp (by omega)).2
  · intro hdvd
    rw [htop.mpr ⟨hpos, hdvd⟩]

theorem udpHeader_check_first_discover :
    (udpHeader 0 68 0xFFFFFFFF 67 (Message.discover 1 #v[2, 0, 0, 0, 0, 1])).check ≠ 0 :=
  (udpHeader_check_ne_zero_iff 0 68 0xFFFFFFFF 67 (by decide)).mpr (by decide +kernel)

/-- The discovery with transaction id 2759 of this MAC address goes out with the
checksum that stands for none. -/
theorem udpHeader_check_zero :
    (udpHeader 0 68 0xFFFFFFFF 67 (Message.discover 2759 #v[2, 0, 0, 0, 0, 1])).check = 0 := by
  decide +kernel

end Packet

end Rpi3Device.Dhcp
