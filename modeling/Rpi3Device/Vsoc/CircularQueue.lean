import Rpi3Device.CircularMemory
import Rpi3Device.FutexMonitor

/-!
# The circular queues of the shared memory window

Both queues keep two counters that run on through all of `uint32_t`; what lies between them
has not been read yet. `WaitForDataLocked` and `WriteReserveLocked` give up the lock and wait
for the other counter to move. The byte queue hands out what there is; the packet queue
stores each packet behind its length and rounds its end up to a whole word.

The counters stand for positions that are not wrapped around: a queue `Holds` a byte string
from a position on when the counters are that position and its end.
-/

namespace Rpi3Device.Vsoc
open ByteMemory CircularMemory FutexMonitor

def ENOSPC : ℤ := 28
def EWOULDBLOCK : ℤ := 11

structure Range where
  startIdx : UInt32
  endIdx : UInt32

structure CircularQueueBase where
  rReleased : UInt32
  wPub : UInt32
  buffer : Memory

inductive QueueWord where
  | rReleased
  | wPub
  deriving DecidableEq

structure CallResult where
  rval : ℤ
  bufferOut : List UInt8 := []
  deriving DecidableEq

inductive Reserved where
  | failed (errno : ℤ)
  | blocked
  | range (t : Range)

namespace CircularQueueBase

def word (w : QueueWord) (q : CircularQueueBase) : UInt32 :=
  match w with
  | .rReleased => q.rReleased
  | .wPub => q.wPub

def bufferSize (sizeLog2 : ℕ) : ℕ := 1 <<< sizeLog2

def maskIdx (sizeLog2 : ℕ) (idx : UInt32) : ℕ :=
  (idx &&& UInt32.ofNat (bufferSize sizeLog2 - 1)).toNat

def copyInRange (sizeLog2 : ℕ) (q : CircularQueueBase) (bufferIn : List UInt8) (t : Range) :
    CircularQueueBase :=
  let bytes := (t.endIdx - t.startIdx).toNat
  let index := maskIdx sizeLog2 t.startIdx
  if index + bytes ≤ bufferSize sizeLog2 then
    { q with buffer := store q.buffer index (bufferIn.take bytes) }
  else
    let part1Size := bufferSize sizeLog2 - index
    let part2Size := bytes - part1Size
    let part1 := store q.buffer index (bufferIn.take part1Size)
    { q with buffer := store part1 0 ((bufferIn.drop part1Size).take part2Size) }

def copyOutRange (sizeLog2 : ℕ) (q : CircularQueueBase) (t : Range) : List UInt8 :=
  let index := maskIdx sizeLog2 t.startIdx
  let totalSize := (t.endIdx - t.startIdx).toNat
  if index + totalSize ≤ bufferSize sizeLog2 then load q.buffer index totalSize
  else
    let part1Size := bufferSize sizeLog2 - index
    let part2Size := totalSize - part1Size
    load q.buffer index part1Size ++ load q.buffer 0 part2Size

def waitForDataLocked (q : CircularQueueBase) : Option QueueWord :=
  if q.rReleased ≠ q.wPub then none else some .wPub

def writeReserveLocked (sizeLog2 : ℕ) (q : CircularQueueBase) (bytes : ℕ) (nonBlocking : Bool) :
    Reserved :=
  if bytes > bufferSize sizeLog2 then .failed ENOSPC
  else
    let bytesInUse := q.wPub - q.rReleased
    let available := UInt64.ofNat (bufferSize sizeLog2) - bytesInUse.toUInt64
    if available.toNat ≥ bytes then .range ⟨q.wPub, q.wPub + UInt32.ofNat bytes⟩
    else if nonBlocking then .failed EWOULDBLOCK
    else .blocked

/-- The queue holds the bytes from a position on. -/
structure Holds (sizeLog2 : ℕ) (q : CircularQueueBase) (released : ℕ) (xs : List UInt8) :
    Prop where
  rReleased_eq : q.rReleased = UInt32.ofNat released
  wPub_eq : q.wPub = UInt32.ofNat (released + xs.length)
  fits : xs.length ≤ bufferSize sizeLog2
  holdsFrom : HoldsFrom (bufferSize sizeLog2) q.buffer released xs

variable {sizeLog2 : ℕ} {q : CircularQueueBase} {released : ℕ} {xs bs : List UInt8}

theorem bufferSize_eq (sizeLog2 : ℕ) : bufferSize sizeLog2 = 2 ^ sizeLog2 := by
  rw [bufferSize, Nat.one_shiftLeft]

theorem bufferSize_pos (sizeLog2 : ℕ) : 0 < bufferSize sizeLog2 := by
  rw [bufferSize_eq]
  exact Nat.two_pow_pos sizeLog2

theorem bufferSize_le (hsize : sizeLog2 ≤ 30) : bufferSize sizeLog2 ≤ 2 ^ 30 := by
  rw [bufferSize_eq]
  exact Nat.pow_le_pow_right (by omega) hsize

theorem maskIdx_ofNat (hsize : sizeLog2 ≤ 30) (n : ℕ) :
    maskIdx sizeLog2 (UInt32.ofNat n) = n % bufferSize sizeLog2 := by
  have hpow : 2 ^ sizeLog2 ≤ 2 ^ 30 := Nat.pow_le_pow_right (by omega) hsize
  have hmask : (UInt32.ofNat (2 ^ sizeLog2 - 1)).toNat = 2 ^ sizeLog2 - 1 := by
    rw [UInt32.toNat_ofNat', Nat.mod_eq_of_lt (by omega)]
  rw [maskIdx, bufferSize_eq, UInt32.toNat_and, hmask, Nat.and_two_pow_sub_one_eq_mod,
    UInt32.toNat_ofNat']
  exact Nat.mod_mod_of_dvd n (Nat.pow_dvd_pow 2 (by omega))

theorem idx_sub (start len : ℕ) (hlen : len ≤ 2 ^ 30) :
    (UInt32.ofNat (start + len) - UInt32.ofNat start).toNat = len := by
  rw [UInt32.ofNat_add, UInt32.add_comm, UInt32.add_sub_cancel, UInt32.toNat_ofNat',
    Nat.mod_eq_of_lt (by omega)]

theorem copyInRange_eq (hsize : sizeLog2 ≤ 30) (q : CircularQueueBase) (start : ℕ)
    (hlen : bs.length ≤ bufferSize sizeLog2) :
    copyInRange sizeLog2 q bs ⟨UInt32.ofNat start, UInt32.ofNat (start + bs.length)⟩ =
      { q with buffer :=
          storeWrapped (bufferSize sizeLog2) q.buffer (start % bufferSize sizeLog2) bs } := by
  have hbytes := idx_sub start bs.length (le_trans hlen (bufferSize_le hsize))
  simp only [copyInRange, storeWrapped, maskIdx_ofNat hsize, hbytes, List.take_length]
  split
  · rfl
  · rw [← List.length_drop, List.take_length]

theorem copyOutRange_eq (hsize : sizeLog2 ≤ 30) (q : CircularQueueBase) (start len : ℕ)
    (hlen : len ≤ bufferSize sizeLog2) :
    copyOutRange sizeLog2 q ⟨UInt32.ofNat start, UInt32.ofNat (start + len)⟩ =
      loadWrapped (bufferSize sizeLog2) q.buffer (start % bufferSize sizeLog2) len := by
  have hbytes := idx_sub start len (le_trans hlen (bufferSize_le hsize))
  simp only [copyOutRange, loadWrapped, maskIdx_ofNat hsize, hbytes]

theorem Holds.waitForDataLocked_eq (h : Holds sizeLog2 q released xs) (hsize : sizeLog2 ≤ 30) :
    waitForDataLocked q = if xs = [] then some .wPub else none := by
  have hlen := le_trans h.fits (bufferSize_le hsize)
  have hiff : q.rReleased = q.wPub ↔ xs = [] := by
    constructor
    · intro heq
      have hsub := idx_sub released xs.length hlen
      rw [← h.wPub_eq, ← h.rReleased_eq, heq, UInt32.sub_self] at hsub
      exact List.eq_nil_of_length_eq_zero hsub.symm
    · rintro rfl
      rw [h.rReleased_eq, h.wPub_eq, List.length_nil, Nat.add_zero]
  simp only [waitForDataLocked, ne_eq, hiff, ite_not]

theorem Holds.writeReserveLocked_eq (h : Holds sizeLog2 q released xs) (hsize : sizeLog2 ≤ 30)
    (bytes : ℕ) (nonBlocking : Bool) :
    writeReserveLocked sizeLog2 q bytes nonBlocking =
      if bytes > bufferSize sizeLog2 then .failed ENOSPC
      else if xs.length + bytes ≤ bufferSize sizeLog2 then
        .range ⟨UInt32.ofNat (released + xs.length), UInt32.ofNat (released + xs.length + bytes)⟩
      else if nonBlocking then .failed EWOULDBLOCK
      else .blocked := by
  have hbound := bufferSize_le hsize
  have hfits := h.fits
  have hinUse : (q.wPub - q.rReleased).toNat = xs.length := by
    rw [h.wPub_eq, h.rReleased_eq]
    exact idx_sub released xs.length (by omega)
  have havailable : (UInt64.ofNat (bufferSize sizeLog2) - (q.wPub - q.rReleased).toUInt64).toNat =
      bufferSize sizeLog2 - xs.length := by
    have hsize64 : (UInt64.ofNat (bufferSize sizeLog2)).toNat = bufferSize sizeLog2 := by
      rw [UInt64.toNat_ofNat', Nat.mod_eq_of_lt (by omega)]
    rw [UInt64.toNat_sub_of_le, hsize64, UInt32.toNat_toUInt64, hinUse]
    rw [UInt64.le_iff_toNat_le, hsize64, UInt32.toNat_toUInt64, hinUse]
    exact hfits
  have hroom : bufferSize sizeLog2 - xs.length ≥ bytes ↔
      xs.length + bytes ≤ bufferSize sizeLog2 := by omega
  simp only [writeReserveLocked, havailable, hroom]
  rw [h.wPub_eq, ← UInt32.ofNat_add]

theorem holdsFrom_copyInRange (h : HoldsFrom (bufferSize sizeLog2) q.buffer released xs)
    (hsize : sizeLog2 ≤ 30) (bs : List UInt8)
    (hfits : xs.length + bs.length ≤ bufferSize sizeLog2) :
    HoldsFrom (bufferSize sizeLog2)
      (copyInRange sizeLog2 q bs ⟨UInt32.ofNat (released + xs.length),
        UInt32.ofNat (released + xs.length + bs.length)⟩).buffer released (xs ++ bs) := by
  rw [copyInRange_eq hsize q _ (by omega)]
  refine holdsFrom_append.mpr ⟨h.storeWrapped (bufferSize_pos sizeLog2) hfits, ?_⟩
  exact holdsFrom_storeWrapped q.buffer (bufferSize_pos sizeLog2) (by omega)

theorem Holds.copyOutRange (h : Holds sizeLog2 q released (xs ++ bs)) (hsize : sizeLog2 ≤ 30) :
    copyOutRange sizeLog2 q ⟨UInt32.ofNat released, UInt32.ofNat (released + xs.length)⟩ = xs := by
  have hfits := h.fits
  rw [List.length_append] at hfits
  rw [copyOutRange_eq hsize q released xs.length (by omega)]
  exact (holdsFrom_append.mp h.holdsFrom).1.load_eq (bufferSize_pos sizeLog2) (by omega)

theorem Holds.release (h : Holds sizeLog2 q released (xs ++ bs)) :
    Holds sizeLog2 { q with rReleased := UInt32.ofNat (released + xs.length) }
      (released + xs.length) bs where
  rReleased_eq := rfl
  wPub_eq := by rw [h.wPub_eq, List.length_append, Nat.add_assoc]
  fits := by
    have hfits := h.fits
    rw [List.length_append] at hfits
    omega
  holdsFrom := (holdsFrom_append.mp h.holdsFrom).2

end CircularQueueBase

namespace CircularByteQueue
open CircularQueueBase

inductive Call where
  | read (maxSize : ℕ)
  | write (bufferIn : List UInt8) (nonBlocking : Bool)
  deriving DecidableEq

abbrev Step := Outcome CircularQueueBase QueueWord CallResult

def read (sizeLog2 : ℕ) (q : CircularQueueBase) (maxSize : ℕ) : Step :=
  match waitForDataLocked q with
  | some w => .wait w
  | none =>
    let t : Range := ⟨q.rReleased, q.wPub⟩
    let t := if (t.endIdx - t.startIdx).toNat > maxSize then
        { t with endIdx := t.startIdx + UInt32.ofNat maxSize }
      else t
    let size := (t.endIdx - t.startIdx).toNat
    .done { q with rReleased := t.endIdx } ⟨size, copyOutRange sizeLog2 q t⟩
      (some (.rReleased, size))

def write (sizeLog2 : ℕ) (q : CircularQueueBase) (bufferIn : List UInt8) (nonBlocking : Bool) :
    Step :=
  match writeReserveLocked sizeLog2 q bufferIn.length nonBlocking with
  | .failed errno => .done q ⟨-errno, []⟩ none
  | .blocked => .wait .rReleased
  | .range range =>
    .done { copyInRange sizeLog2 q bufferIn range with wPub := range.endIdx }
      ⟨bufferIn.length, []⟩ (some (.wPub, bufferIn.length))

def monitor (sizeLog2 : ℕ) : Monitor Call CircularQueueBase QueueWord CallResult where
  body
    | .read maxSize, q => read sizeLog2 q maxSize
    | .write bufferIn nonBlocking, q => write sizeLog2 q bufferIn nonBlocking
  word := word

variable {sizeLog2 : ℕ} {q : CircularQueueBase} {released : ℕ} {xs : List UInt8}

theorem read_eq (h : Holds sizeLog2 q released xs) (hsize : sizeLog2 ≤ 30) (maxSize : ℕ) :
    read sizeLog2 q maxSize =
      if xs = [] then .wait .wPub
      else .done
        { q with rReleased := UInt32.ofNat (released + (xs.take maxSize).length) }
        ⟨(xs.take maxSize).length, xs.take maxSize⟩
        (some (.rReleased, (xs.take maxSize).length)) := by
  have hfits := le_trans h.fits (bufferSize_le hsize)
  by_cases hxs : xs = []
  · simp only [read, h.waitForDataLocked_eq hsize, if_pos hxs]
  · simp only [read, h.waitForDataLocked_eq hsize, if_neg hxs, h.rReleased_eq, h.wPub_eq,
      idx_sub _ _ hfits]
    by_cases hlong : xs.length > maxSize
    · have hlen : (xs.take maxSize).length = maxSize := List.length_take_of_le hlong.le
      have hall : xs.take maxSize ++ xs.drop maxSize = xs := List.take_append_drop maxSize xs
      have hout := Holds.copyOutRange (hall.symm ▸ h) hsize
      rw [hlen] at hout
      simp only [if_pos hlong, ← UInt32.ofNat_add, idx_sub released maxSize (by omega), hout, hlen]
    · have hall : xs.take maxSize = xs := List.take_of_length_le (not_lt.mp hlong)
      have hout := Holds.copyOutRange ((List.append_nil xs).symm ▸ h) hsize
      simp only [if_neg hlong, idx_sub _ _ hfits, hout, hall]

theorem write_cases (h : Holds sizeLog2 q released xs) (hsize : sizeLog2 ≤ 30)
    (bufferIn : List UInt8) (nonBlocking : Bool) :
    (write sizeLog2 q bufferIn nonBlocking = .done q ⟨-ENOSPC, []⟩ none ∧
        bufferSize sizeLog2 < bufferIn.length) ∨
      (write sizeLog2 q bufferIn nonBlocking = .done q ⟨-EWOULDBLOCK, []⟩ none ∧ nonBlocking) ∨
      (write sizeLog2 q bufferIn nonBlocking = .wait .rReleased ∧ nonBlocking = false ∧
        bufferIn.length ≤ bufferSize sizeLog2 ∧
        bufferSize sizeLog2 < xs.length + bufferIn.length) ∨
      ∃ q', write sizeLog2 q bufferIn nonBlocking =
          .done q' ⟨bufferIn.length, []⟩ (some (.wPub, bufferIn.length)) ∧
        xs.length + bufferIn.length ≤ bufferSize sizeLog2 ∧
        Holds sizeLog2 q' released (xs ++ bufferIn) := by
  have hreserve := h.writeReserveLocked_eq hsize bufferIn.length nonBlocking
  by_cases hbig : bufferIn.length > bufferSize sizeLog2
  · rw [if_pos hbig] at hreserve
    exact .inl ⟨by simp only [write, hreserve], hbig⟩
  rw [if_neg hbig] at hreserve
  by_cases hroom : xs.length + bufferIn.length ≤ bufferSize sizeLog2
  · rw [if_pos hroom] at hreserve
    have hwrite : write sizeLog2 q bufferIn nonBlocking =
        .done { copyInRange sizeLog2 q bufferIn ⟨UInt32.ofNat (released + xs.length),
            UInt32.ofNat (released + xs.length + bufferIn.length)⟩ with
          wPub := UInt32.ofNat (released + xs.length + bufferIn.length) }
          ⟨bufferIn.length, []⟩ (some (.wPub, bufferIn.length)) := by
      simp only [write, hreserve]
    refine .inr (.inr (.inr ⟨_, hwrite, hroom, ?_⟩))
    have hcopied := holdsFrom_copyInRange h.holdsFrom hsize bufferIn hroom
    rw [copyInRange_eq hsize q _ (by omega)] at hcopied ⊢
    refine ⟨h.rReleased_eq, ?_, by simpa using hroom, hcopied⟩
    rw [List.length_append, Nat.add_assoc]
  rw [if_neg hroom] at hreserve
  cases nonBlocking with
  | true => exact .inr (.inl ⟨by simp only [write, hreserve, if_true], rfl⟩)
  | false =>
    refine .inr (.inr (.inl ⟨?_, rfl, not_lt.mp hbig, not_le.mp hroom⟩))
    simp only [write, hreserve, Bool.false_eq_true, if_false]

theorem write_eq_wait (h : Holds sizeLog2 q released xs) (hsize : sizeLog2 ≤ 30)
    {bufferIn : List UInt8} (hlen : bufferIn.length ≤ bufferSize sizeLog2)
    (hfull : bufferSize sizeLog2 < xs.length + bufferIn.length) :
    write sizeLog2 q bufferIn false = .wait .rReleased := by
  have hreserve := h.writeReserveLocked_eq hsize bufferIn.length false
  rw [if_neg (not_lt.mpr hlen), if_neg (not_le.mpr hfull)] at hreserve
  simp only [write, hreserve, Bool.false_eq_true, if_false]

end CircularByteQueue

def align (sizeofT index : UInt64) : UInt64 := (index + sizeofT - 1) &&& ~~~(sizeofT - 1)

theorem align_toNat {n : ℕ} (hn : n ≤ 2 ^ 32) :
    (align 4 (UInt64.ofNat n)).toNat = (n + 3) / 4 * 4 := by
  have hsum : UInt64.ofNat n + 4 - 1 = UInt64.ofNat (n + 3) := by
    rw [UInt64.ofNat_add]
    rw [UInt64.sub_eq_iff_eq_add]
    rw [UInt64.add_assoc]
    rfl
  have hmask : (~~~(4 - 1) : UInt64).toNat = (2 ^ 62 - 1) <<< 2 := by decide
  rw [align, hsum, UInt64.toNat_and, hmask, UInt64.toNat_ofNat', Nat.mod_eq_of_lt (by omega)]
  apply Nat.eq_of_testBit_eq
  intro i
  have hpow : (n + 3) / 4 * 4 = ((n + 3) >>> 2) <<< 2 := by
    rw [Nat.shiftRight_eq_div_pow, Nat.shiftLeft_eq]
  rw [hpow, Nat.testBit_and, Nat.testBit_shiftLeft, Nat.testBit_shiftLeft, Nat.testBit_shiftRight,
    Nat.testBit_two_pow_sub_one]
  by_cases hlow : i < 2
  · simp [show ¬ 2 ≤ i by omega]
  · have hback : 2 + (i - 2) = i := by omega
    rw [hback]
    by_cases hhigh : i < 64
    · simp [show 2 ≤ i by omega, show i - 2 < 62 by omega]
    · have hfalse : (n + 3).testBit i = false := by
        apply Nat.testBit_lt_two_pow
        exact lt_of_lt_of_le (by omega) (Nat.pow_le_pow_right (by omega) (not_lt.mp hhigh))
      simp [hfalse]

namespace CircularPacketQueue
open CircularQueueBase CircularByteQueue

inductive Call where
  | read (maxSize : ℕ)
  | writev (iov : List (List UInt8)) (nonBlocking : Bool)
  deriving DecidableEq

def calculateBufferedSize (payload : UInt64) : UInt64 := align 4 (4 + payload)

def read (sizeLog2 : ℕ) (q : CircularQueueBase) (maxSize : ℕ) : Step :=
  match waitForDataLocked q with
  | some w => .wait w
  | none =>
    let packetSize := load32 q.buffer (maskIdx sizeLog2 q.rReleased)
    if packetSize.toNat > maxSize then .done q ⟨-ENOSPC, []⟩ none
    else
      let startIdx := q.rReleased + 4
      let t : Range := ⟨startIdx, startIdx + packetSize⟩
      let buffered := calculateBufferedSize packetSize.toUInt64
      .done { q with rReleased := q.rReleased + buffered.toUInt32 }
        ⟨packetSize.toNat, copyOutRange sizeLog2 q t⟩ (some (.rReleased, buffered.toNat))

def copyInPieces (sizeLog2 : ℕ) (q : CircularQueueBase) (startIdx : UInt32) :
    List (List UInt8) → CircularQueueBase
  | [] => q
  | piece :: iov =>
    let endIdx := startIdx + UInt32.ofNat piece.length
    copyInPieces sizeLog2 (copyInRange sizeLog2 q piece ⟨startIdx, endIdx⟩) endIdx iov

def writev (sizeLog2 maxPacketSize : ℕ) (q : CircularQueueBase) (iov : List (List UInt8))
    (nonBlocking : Bool) : Step :=
  let bytes := (iov.map List.length).sum
  if bytes > maxPacketSize then .done q ⟨-ENOSPC, []⟩ none
  else
    let bufferedSize := (calculateBufferedSize (UInt64.ofNat bytes)).toNat
    match writeReserveLocked sizeLog2 q bufferedSize nonBlocking with
    | .failed errno => .done q ⟨-errno, []⟩ none
    | .blocked => .wait .rReleased
    | .range range =>
      let header : Range := ⟨range.startIdx, range.startIdx + 4⟩
      let q' := copyInRange sizeLog2 q (bytes32 (UInt32.ofNat bytes)) header
      let q' := copyInPieces sizeLog2 q' (range.startIdx + 4) iov
      .done { q' with wPub := range.endIdx } ⟨bytes, []⟩ (some (.wPub, bufferedSize))

def write (sizeLog2 maxPacketSize : ℕ) (q : CircularQueueBase) (bufferIn : List UInt8)
    (nonBlocking : Bool) : Step :=
  writev sizeLog2 maxPacketSize q [bufferIn] nonBlocking

def monitor (sizeLog2 maxPacketSize : ℕ) :
    Monitor Call CircularQueueBase QueueWord CallResult where
  body
    | .read maxSize, q => read sizeLog2 q maxSize
    | .writev iov nonBlocking, q => writev sizeLog2 maxPacketSize q iov nonBlocking
  word := word

def frameLength (n : ℕ) : ℕ := (4 + n + 3) / 4 * 4

/-- Packets in the queue: each behind its length, with what fills it up to a whole word. -/
inductive Framed : List (List UInt8) → List UInt8 → Prop where
  | nil : Framed [] []
  | cons {p pad xs : List UInt8} {ps : List (List UInt8)} : Framed ps xs →
      4 + p.length + pad.length = frameLength p.length →
      Framed (p :: ps) (bytes32 (UInt32.ofNat p.length) ++ p ++ pad ++ xs)

/-- The queue holds the packets, in these bytes, from a position on. -/
structure HoldsPackets (sizeLog2 : ℕ) (q : CircularQueueBase) (released : ℕ)
    (ps : List (List UInt8)) (xs : List UInt8) : Prop where
  aligned : 4 ∣ released
  framed : Framed ps xs
  holds : Holds sizeLog2 q released xs

variable {sizeLog2 maxPacketSize : ℕ} {q : CircularQueueBase} {released : ℕ}
  {ps : List (List UInt8)} {xs : List UInt8}

theorem calculateBufferedSize_toNat {n : ℕ} (hn : n ≤ 2 ^ 30) :
    (calculateBufferedSize (UInt64.ofNat n)).toNat = frameLength n := by
  have hsum : (4 : UInt64) + UInt64.ofNat n = UInt64.ofNat (4 + n) := by
    rw [UInt64.ofNat_add]
    rfl
  rw [calculateBufferedSize, hsum, align_toNat (by omega), frameLength]

theorem Framed.append {p pad : List UInt8} (h : Framed ps xs)
    (hpad : 4 + p.length + pad.length = frameLength p.length) :
    Framed (ps ++ [p]) (xs ++ (bytes32 (UInt32.ofNat p.length) ++ p ++ pad)) := by
  induction h with
  | nil => simpa using Framed.cons Framed.nil hpad
  | cons _ hlen ih => simpa using Framed.cons ih hlen

theorem Framed.length_eq (h : Framed ps xs) :
    xs.length = (ps.map fun p => frameLength p.length).sum := by
  induction h with
  | nil => rfl
  | cons _ hlen ih =>
    simp only [List.length_append, bytes32_length, List.map_cons, List.sum_cons]
    omega

theorem Framed.eq_nil_iff (h : Framed ps xs) : xs = [] ↔ ps = [] := by
  cases h with
  | nil => simp
  | cons _ _ => simp [bytes32]

theorem load32_header {x : UInt32} (rest : List UInt8) (hlow : 2 ≤ sizeLog2)
    (hsize : sizeLog2 ≤ 30) (haligned : 4 ∣ released)
    (h : Holds sizeLog2 q released (bytes32 x ++ rest)) :
    load32 q.buffer (maskIdx sizeLog2 q.rReleased) = x := by
  have hdvd : 4 ∣ bufferSize sizeLog2 := by
    rw [bufferSize_eq]
    exact Nat.pow_dvd_pow 2 hlow
  have hpos := bufferSize_pos sizeLog2
  have hindex := Nat.mod_lt released hpos
  have hdvd' : 4 ∣ released % bufferSize sizeLog2 := (Nat.dvd_mod_iff hdvd).mpr haligned
  rw [h.rReleased_eq, maskIdx_ofNat hsize]
  apply load32_of_holdsAt
  intro k hk
  have hk4 : k < 4 := hk
  have hat := (holdsFrom_append.mp h.holdsFrom).1 k hk
  have hnowrap : (released + k) % bufferSize sizeLog2 = released % bufferSize sizeLog2 + k := by
    rw [← Nat.mod_add_mod, Nat.mod_eq_of_lt (by omega)]
  rwa [hnowrap] at hat

theorem read_cons {p : List UInt8} (hlow : 2 ≤ sizeLog2) (hsize : sizeLog2 ≤ 30)
    (h : HoldsPackets sizeLog2 q released (p :: ps) xs) (maxSize : ℕ) :
    (read sizeLog2 q maxSize = .done q ⟨-ENOSPC, []⟩ none ∧ maxSize < p.length) ∨
      ∃ q' xs', read sizeLog2 q maxSize =
          .done q' ⟨p.length, p⟩ (some (.rReleased, frameLength p.length)) ∧
        p.length ≤ maxSize ∧ q'.wPub = q.wPub ∧
        HoldsPackets sizeLog2 q' (released + frameLength p.length) ps xs' := by
  obtain ⟨haligned, hframed, hholds⟩ := h
  obtain _ | @⟨_, pad, rest, _, hrest, hpad⟩ := hframed
  have hfits := hholds.fits
  have hbound := bufferSize_le hsize
  simp only [List.length_append, bytes32_length] at hfits
  have hdata : waitForDataLocked q = none := by
    rw [hholds.waitForDataLocked_eq hsize, if_neg (by simp [bytes32])]
  have hsizeNat : (UInt32.ofNat p.length).toNat = p.length := by
    rw [UInt32.toNat_ofNat', Nat.mod_eq_of_lt (by omega)]
  have hheader : load32 q.buffer (maskIdx sizeLog2 q.rReleased) = UInt32.ofNat p.length := by
    refine load32_header (p ++ pad ++ rest) hlow hsize haligned ?_
    simpa only [List.append_assoc] using hholds
  by_cases hlong : p.length > maxSize
  · refine .inl ⟨?_, hlong⟩
    simp only [read, hdata, hheader, hsizeNat, if_pos hlong]
  · have hsize64 : (UInt32.ofNat p.length).toUInt64 = UInt64.ofNat p.length := by
      apply UInt64.toNat.inj
      rw [UInt32.toNat_toUInt64, hsizeNat, UInt64.toNat_ofNat', Nat.mod_eq_of_lt (by omega)]
    have hbuffered := calculateBufferedSize_toNat (n := p.length) (by omega)
    rw [← hsize64] at hbuffered
    have hnext : q.rReleased + (calculateBufferedSize (UInt32.ofNat p.length).toUInt64).toUInt32 =
        UInt32.ofNat (released + frameLength p.length) := by
      rw [UInt32.ofNat_add, hholds.rReleased_eq, ← hbuffered]
      rfl
    have hpacket : copyOutRange sizeLog2 q
        ⟨q.rReleased + 4, q.rReleased + 4 + UInt32.ofNat p.length⟩ = p := by
      have hfront : Holds sizeLog2 q released
          (bytes32 (UInt32.ofNat p.length) ++ (p ++ (pad ++ rest))) := by
        simpa only [List.append_assoc] using hholds
      have hout := hfront.release.copyOutRange hsize
      simp only [UInt32.ofNat_add, ← hholds.rReleased_eq] at hout
      exact hout
    have hafter := hholds.release
    simp only [List.length_append, bytes32_length, hpad] at hafter
    refine .inr ⟨{ q with rReleased := UInt32.ofNat (released + frameLength p.length) }, rest, ?_,
      not_lt.mp hlong, rfl, ?_, hrest, hafter⟩
    · simp only [read, hdata, hheader, hsizeNat, if_neg hlong, hpacket, hbuffered, hnext]
    · exact (Nat.dvd_add_right haligned).mpr (Nat.dvd_mul_left 4 _)

theorem copyInPieces_holds (hsize : sizeLog2 ≤ 30) (iov : List (List UInt8))
    (h : HoldsFrom (bufferSize sizeLog2) q.buffer released xs)
    (hfits : xs.length + iov.flatten.length ≤ bufferSize sizeLog2) :
    HoldsFrom (bufferSize sizeLog2)
      (copyInPieces sizeLog2 q (UInt32.ofNat (released + xs.length)) iov).buffer released
      (xs ++ iov.flatten) := by
  induction iov generalizing q xs with
  | nil => simpa [copyInPieces] using h
  | cons piece iov ih =>
    rw [List.flatten_cons, List.length_append] at hfits
    have hpiece := holdsFrom_copyInRange h hsize piece (by omega)
    have hrest := ih hpiece (by simp only [List.length_append]; omega)
    simp only [List.length_append, ← Nat.add_assoc] at hrest
    rw [List.flatten_cons, ← List.append_assoc]
    simp only [copyInPieces, ← UInt32.ofNat_add]
    exact hrest

theorem copyInRange_rReleased (bs : List UInt8) (t : Range) :
    (copyInRange sizeLog2 q bs t).rReleased = q.rReleased := by
  simp only [copyInRange]
  split <;> rfl

theorem copyInPieces_rReleased (startIdx : UInt32) (iov : List (List UInt8)) :
    (copyInPieces sizeLog2 q startIdx iov).rReleased = q.rReleased := by
  induction iov generalizing q startIdx with
  | nil => rfl
  | cons piece iov ih =>
    simp only [copyInPieces, ih, copyInRange_rReleased]

theorem holdsFrom_exists (n : ℕ) (m : Memory) (start len : ℕ) :
    ∃ pad, pad.length = len ∧ HoldsFrom n m start pad := by
  refine ⟨(List.range len).map fun k => m ((start + k) % n), by simp, ?_⟩
  intro k hk
  simp

/-- What lies behind the queue becomes the frame of a packet when the packet is copied there. -/
theorem HoldsPackets.copyFrame (hsize : sizeLog2 ≤ 30)
    (h : HoldsPackets sizeLog2 q released ps xs) (iov : List (List UInt8))
    (hroom : xs.length + frameLength iov.flatten.length ≤ bufferSize sizeLog2) :
    ∃ frame, frame.length = frameLength iov.flatten.length ∧
      HoldsPackets sizeLog2
        { copyInPieces sizeLog2
            (copyInRange sizeLog2 q (bytes32 (UInt32.ofNat iov.flatten.length))
              ⟨UInt32.ofNat (released + xs.length), UInt32.ofNat (released + xs.length) + 4⟩)
            (UInt32.ofNat (released + xs.length) + 4) iov with
          wPub := UInt32.ofNat (released + xs.length + frameLength iov.flatten.length) }
        released (ps ++ [iov.flatten]) (xs ++ frame) := by
  have hframe : 4 + iov.flatten.length ≤ frameLength iov.flatten.length := by
    rw [frameLength]
    omega
  have hheader := holdsFrom_copyInRange h.holds.holdsFrom hsize
    (bytes32 (UInt32.ofNat iov.flatten.length)) (by rw [bytes32_length]; omega)
  have hpieces := copyInPieces_holds hsize iov hheader (by
    simp only [List.length_append, bytes32_length]
    omega)
  obtain ⟨pad, hlen, hpad⟩ := holdsFrom_exists (bufferSize sizeLog2) _ _
    (frameLength iov.flatten.length - (4 + iov.flatten.length))
  have hall := holdsFrom_append.mpr ⟨hpieces, hpad⟩
  have hpadded : 4 + iov.flatten.length + pad.length = frameLength iov.flatten.length := by
    omega
  simp only [List.length_append, bytes32_length, ← Nat.add_assoc, UInt32.ofNat_add] at hall
  refine ⟨bytes32 (UInt32.ofNat iov.flatten.length) ++ iov.flatten ++ pad, ?_, h.aligned,
    h.framed.append hpadded, ?_, ?_, ?_, ?_⟩
  · simp only [List.length_append, bytes32_length]
    omega
  · rw [copyInPieces_rReleased, copyInRange_rReleased]
    exact h.holds.rReleased_eq
  · simp only [List.length_append, bytes32_length, hpadded, ← Nat.add_assoc]
  · simp only [List.length_append, bytes32_length]
    omega
  · rw [← List.append_assoc, ← List.append_assoc]
    simp only [UInt32.ofNat_add]
    exact hall

theorem writev_cases (hsize : sizeLog2 ≤ 30) (hmax : maxPacketSize ≤ bufferSize sizeLog2)
    (h : HoldsPackets sizeLog2 q released ps xs) (iov : List (List UInt8)) (nonBlocking : Bool) :
    (writev sizeLog2 maxPacketSize q iov nonBlocking = .done q ⟨-ENOSPC, []⟩ none ∧
        (maxPacketSize < iov.flatten.length ∨
          bufferSize sizeLog2 < frameLength iov.flatten.length)) ∨
      (writev sizeLog2 maxPacketSize q iov nonBlocking = .done q ⟨-EWOULDBLOCK, []⟩ none ∧
        nonBlocking ∧ iov.flatten.length ≤ maxPacketSize ∧
        frameLength iov.flatten.length ≤ bufferSize sizeLog2 ∧
        bufferSize sizeLog2 < xs.length + frameLength iov.flatten.length) ∨
      (writev sizeLog2 maxPacketSize q iov nonBlocking = .wait .rReleased ∧
        nonBlocking = false ∧ iov.flatten.length ≤ maxPacketSize ∧
        frameLength iov.flatten.length ≤ bufferSize sizeLog2 ∧
        bufferSize sizeLog2 < xs.length + frameLength iov.flatten.length) ∨
      ∃ q' frame, writev sizeLog2 maxPacketSize q iov nonBlocking =
          .done q' ⟨iov.flatten.length, []⟩
            (some (.wPub, frameLength iov.flatten.length)) ∧
        iov.flatten.length ≤ maxPacketSize ∧ frame.length = frameLength iov.flatten.length ∧
        HoldsPackets sizeLog2 q' released (ps ++ [iov.flatten]) (xs ++ frame) := by
  have hbound := bufferSize_le hsize
  have hsum : (iov.map List.length).sum = iov.flatten.length := List.length_flatten.symm
  by_cases hlong : iov.flatten.length > maxPacketSize
  · exact .inl ⟨by simp only [writev, hsum, if_pos hlong], .inl hlong⟩
  have hbuffered := calculateBufferedSize_toNat (n := iov.flatten.length) (by omega)
  have hreserve := h.holds.writeReserveLocked_eq hsize (frameLength iov.flatten.length) nonBlocking
  by_cases hbig : frameLength iov.flatten.length > bufferSize sizeLog2
  · rw [if_pos hbig] at hreserve
    refine .inl ⟨?_, .inr hbig⟩
    simp only [writev, hsum, if_neg hlong, hbuffered, hreserve]
  rw [if_neg hbig] at hreserve
  by_cases hroom : xs.length + frameLength iov.flatten.length ≤ bufferSize sizeLog2
  · rw [if_pos hroom] at hreserve
    obtain ⟨frame, hlen, hframe⟩ := h.copyFrame hsize iov hroom
    refine .inr (.inr (.inr ⟨_, frame, ?_, not_lt.mp hlong, hlen, hframe⟩))
    simp only [writev, hsum, if_neg hlong, hbuffered, hreserve]
  rw [if_neg hroom] at hreserve
  cases nonBlocking with
  | true =>
    refine .inr (.inl ⟨?_, rfl, not_lt.mp hlong, not_lt.mp hbig, not_le.mp hroom⟩)
    simp only [writev, hsum, if_neg hlong, hbuffered, hreserve, if_true]
  | false =>
    refine .inr (.inr (.inl ⟨?_, rfl, not_lt.mp hlong, not_lt.mp hbig, not_le.mp hroom⟩))
    simp only [writev, hsum, if_neg hlong, hbuffered, hreserve, Bool.false_eq_true, if_false]

theorem writev_eq_wait (hsize : sizeLog2 ≤ 30) (hmax : maxPacketSize ≤ bufferSize sizeLog2)
    (h : HoldsPackets sizeLog2 q released ps xs) {iov : List (List UInt8)}
    (hlen : iov.flatten.length ≤ maxPacketSize)
    (hframe : frameLength iov.flatten.length ≤ bufferSize sizeLog2)
    (hfull : bufferSize sizeLog2 < xs.length + frameLength iov.flatten.length) :
    writev sizeLog2 maxPacketSize q iov false = .wait .rReleased := by
  have hbound := bufferSize_le hsize
  have hsum : (iov.map List.length).sum = iov.flatten.length := List.length_flatten.symm
  have hbuffered := calculateBufferedSize_toNat (n := iov.flatten.length) (by omega)
  have hreserve := h.holds.writeReserveLocked_eq hsize (frameLength iov.flatten.length) false
  rw [if_neg (not_lt.mpr hframe), if_neg (not_le.mpr hfull)] at hreserve
  simp only [writev, hsum, if_neg (not_lt.mpr hlen), hbuffered, hreserve, Bool.false_eq_true,
    if_false]

end CircularPacketQueue

end Rpi3Device.Vsoc
