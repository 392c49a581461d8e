import Rpi3Device.Bluetooth.HciEvents

/-!
# The local name of the controller

`bcm43xxReadLocalName` follows `bcm43xx_read_local_name`: the response buffer comes
from `malloc` with unknown contents, the event is read into it with the caller's
`size` as the cap, and `strncpy` copies from offset 7 as many bytes as the length
byte of the event promises. The bytes past the cap were never received. Two runs
on the same bytes agree on the name exactly when the received part of it already
holds the terminator.
-/

namespace Rpi3Device.Bluetooth
open ByteMemory ChunkedInput

def cString (m : Memory) : ℕ → ℕ → List UInt8
  | _, 0 => []
  | off, n + 1 => if m off = 0 then [] else m off :: cString m (off + 1) n

def strncpy (dst src : Memory) (off n : ℕ) : Memory :=
  let s := cString src off n
  store dst 0 (s ++ List.replicate (n - s.length) 0)

theorem cString_length_le (m : Memory) (off n : ℕ) : (cString m off n).length ≤ n := by
  induction n generalizing off with
  | zero => simp [cString]
  | succ n ih =>
    by_cases h : m off = 0
    · simp [cString, h]
    · simpa [cString, h] using ih (off + 1)

theorem cString_getElem? (m : Memory) (off n i : ℕ) : (cString m off n)[i]? =
    if i < n ∧ ∀ j ≤ i, m (off + j) ≠ 0 then some (m (off + i)) else none := by
  induction n generalizing off i with
  | zero => simp [cString]
  | succ n ih =>
    by_cases h : m off = 0
    · have hnot : ¬ ∀ j ≤ i, m (off + j) ≠ 0 := fun hall => hall 0 (by omega) (by simpa using h)
      simp [cString, h, hnot]
    · cases i with
      | zero => simp [cString, h]
      | succ i =>
        have hall : (∀ j ≤ i + 1, m (off + j) ≠ 0) ↔ ∀ j ≤ i, m (off + 1 + j) ≠ 0 := by
          constructor
          · intro hj j hle
            have hnext := hj (j + 1) (by omega)
            rwa [Nat.add_comm j 1, ← Nat.add_assoc] at hnext
          · intro hj j hle
            cases j with
            | zero => simpa using h
            | succ j =>
              rw [Nat.add_comm j 1, ← Nat.add_assoc]
              exact hj j (by omega)
        rw [cString, if_neg h, List.getElem?_cons_succ, ih]
        simp only [hall, Nat.add_lt_add_iff_right, Nat.add_assoc, Nat.add_comm 1 i]

theorem strncpy_apply (dst src : Memory) {off n i : ℕ} (hi : i < n) :
    strncpy dst src off n i = if ∀ j ≤ i, src (off + j) ≠ 0 then src (off + i) else 0 := by
  have hget := cString_getElem? src off n i
  have hlen := cString_length_le src off n
  simp only [strncpy, store, Nat.zero_le, if_true, Nat.sub_zero]
  by_cases hall : ∀ j ≤ i, src (off + j) ≠ 0
  · rw [if_pos ⟨hi, hall⟩] at hget
    obtain ⟨hlt, -⟩ := List.getElem?_eq_some_iff.mp hget
    rw [if_pos hall, List.getElem?_append_left hlt, hget, Option.getD_some]
  · rw [if_neg (by tauto)] at hget
    have hge := List.getElem?_eq_none_iff.mp hget
    rw [if_neg hall, List.getElem?_append_right hge, List.getElem?_replicate, if_pos (by omega),
      Option.getD_some]

theorem strncpy_above (dst src : Memory) {off n i : ℕ} (hi : n ≤ i) :
    strncpy dst src off n i = dst i := by
  have hlen := cString_length_le src off n
  apply store_above
  simp only [List.length_append, List.length_replicate]
  omega

theorem strncpy_congr (dst : Memory) {src src' : Memory} {off n k : ℕ}
    (hagree : ∀ j ≤ k, src (off + j) = src' (off + j)) (hk : src (off + k) = 0) :
    strncpy dst src off n = strncpy dst src' off n := by
  funext i
  by_cases hi : i < n
  · rw [strncpy_apply dst src hi, strncpy_apply dst src' hi]
    by_cases hik : i ≤ k
    · have hall : (∀ j ≤ i, src (off + j) ≠ 0) ↔ ∀ j ≤ i, src' (off + j) ≠ 0 := by
        refine forall_congr' fun j => forall_congr' fun hj => ?_
        rw [hagree j (by omega)]
      simp only [hall, hagree i hik]
    · have hnot : ¬ ∀ j ≤ i, src (off + j) ≠ 0 := fun h => h k (by omega) hk
      have hnot' : ¬ ∀ j ≤ i, src' (off + j) ≠ 0 := by
        intro h
        apply h k (by omega)
        rw [← hagree k le_rfl, hk]
      rw [if_neg hnot, if_neg hnot']
  · rw [strncpy_above dst src (by omega), strncpy_above dst src' (by omega)]

structure NameRead where
  ret : ℤ
  name : Memory
  input : Input UInt8

def asInt (size : ℕ) : ℤ := (size : ℤ).bmod 4294967296

/-- `resp` is what `malloc` returned, `written` what `write` returned for the command, and
`input` what arrives after the flush. -/
def bcm43xxReadLocalName (resp : Option Memory) (written : ℤ) (size : ℕ) (input : Input UInt8)
    (name : Memory) : NameRead :=
  match resp with
  | none => ⟨-1, name, input⟩
  | some resp =>
    if written ≠ 4 then ⟨-1, name, input⟩
    else
      let r := readHciEvent (asInt size) resp input
      if r.ret < 7 then ⟨-1, name, r.input⟩
      else if r.buf 4 ≠ 0x14 ∨ r.buf 5 ≠ 0x0c ∨ r.buf 6 ≠ 0x00 then ⟨-1, name, r.input⟩
      else
        let nameLen := ((r.buf 2).toNat + 4294967295) % 4294967296
        let copied := strncpy name r.buf 7 (min nameLen size)
        ⟨0, store copied (size - 1) [0], r.input⟩

def receivedName (size : ℕ) (bs : List UInt8) : List UInt8 :=
  match bs.dropWhile (· ≠ 0x04) with
  | _ :: _ :: n :: params => (params.take (min n.toNat (asInt size - 3).toNat)).drop 4
  | _ => []

/-- The name does not depend on what the response buffer held before. -/
def NameDetermined (size : ℕ) (input : Input UInt8) (name : Memory) : Prop :=
  ∀ (resp resp' : Memory) (input' : Input UInt8), input'.bytes = input.bytes →
    cString (bcm43xxReadLocalName (some resp) 4 size input name).name 0 size =
      cString (bcm43xxReadLocalName (some resp') 4 size input' name).name 0 size

theorem asInt_le (size : ℕ) : asInt size ≤ size := by
  unfold asInt
  rw [Int.bmod_def]
  split <;> omega

theorem bcm43xxReadLocalName_of_parse {size : ℕ} (hsize : 0 < asInt size) (resp name : Memory)
    {input : Input UInt8} {ev rest : List UInt8}
    (h : parseEvent (asInt size) input.bytes = some (ev, rest)) :
    ∃ input' : Input UInt8, bcm43xxReadLocalName (some resp) 4 size input name =
      if (ev.length : ℤ) < 7 then ⟨-1, name, input'⟩
      else if store resp 0 ev 4 ≠ 0x14 ∨ store resp 0 ev 5 ≠ 0x0c ∨ store resp 0 ev 6 ≠ 0x00 then
        ⟨-1, name, input'⟩
      else ⟨0, store (strncpy name (store resp 0 ev) 7
        (min (((store resp 0 ev 2).toNat + 4294967295) % 4294967296) size)) (size - 1) [0],
          input'⟩ := by
  obtain ⟨input', -, hread⟩ := readHciEvent_of_parse hsize resp h
  refine ⟨input', ?_⟩
  simp only [bcm43xxReadLocalName, ne_eq, not_true_eq_false, if_false, hread]

theorem bcm43xxReadLocalName_zero {resp : Memory} {size : ℕ} {input : Input UInt8} {name : Memory}
    (h : (bcm43xxReadLocalName (some resp) 4 size input name).ret = 0) :
    0 < asInt size ∧ ∃ ev rest, parseEvent (asInt size) input.bytes = some (ev, rest) ∧
      CommandComplete 0x14 0x0c ev := by
  have hret : ¬ (readHciEvent (asInt size) resp input).ret < 7 := by
    intro hlt
    simp [bcm43xxReadLocalName, hlt] at h
  have hsize : 0 < asInt size := by
    by_contra hneg
    simp [readHciEvent, not_lt.mp hneg] at hret
  cases hparse : parseEvent (asInt size) input.bytes with
  | none =>
    rw [readHciEvent_of_none hsize resp hparse] at hret
    omega
  | some r =>
    obtain ⟨ev, rest⟩ := r
    obtain ⟨input', hrun⟩ := bcm43xxReadLocalName_of_parse hsize resp name hparse
    refine ⟨hsize, ev, rest, rfl, (commandComplete_iff resp).mpr ?_⟩
    rw [hrun] at h
    by_contra hbad
    rcases Classical.not_and_iff_not_or_not.mp hbad with hlt | hcheck
    · rw [if_pos (not_not.mp hlt)] at h
      simp at h
    · rw [if_pos (not_not.mp hcheck)] at h
      split at h <;> simp at h

theorem event_bounds {n len size : ℕ} {cap : ℤ} (hcap : cap ≤ size)
    (hlen : len = 3 + min n (cap - 3).toNat) (h : 7 ≤ len) :
    len - 7 < min (n - 1) size ∧ len < size + 6 := by
  omega

theorem bcm43xxReadLocalName_name {resp : Memory} {size : ℕ} {input : Input UInt8} {name : Memory}
    (h : (bcm43xxReadLocalName (some resp) 4 size input name).ret = 0) :
    ∃ ev k, receivedName size input.bytes = ev.drop 7 ∧ 7 ≤ ev.length ∧ ev.length - 7 < k ∧
      ev.length < size + 6 ∧
      ∀ (resp' : Memory) (input' : Input UInt8), input'.bytes = input.bytes →
        (bcm43xxReadLocalName (some resp') 4 size input' name).name =
          store (strncpy name (store resp' 0 ev) 7 k) (size - 1) [0] := by
  obtain ⟨hsize, ev, rest, hparse, hdone⟩ := bcm43xxReadLocalName_zero h
  obtain ⟨code, n, params, hd, hle, hev, -⟩ := parseEvent_some hparse
  have hevlen : ev.length = 3 + min n.toNat (asInt size - 3).toNat := by
    rw [hev, List.length_cons, List.length_cons, List.length_cons, List.length_take,
      Nat.min_eq_left hle]
    exact Nat.add_comm _ 3
  obtain ⟨hcopy, hfit⟩ := event_bounds (asInt_le size) hevlen hdone.1
  refine ⟨ev, min (n.toNat - 1) size, ?_, hdone.1, hcopy, hfit, ?_⟩
  · simp only [receivedName, hd, hev, List.drop_succ_cons]
  · intro resp' input' hbytes
    obtain ⟨input'', hrun⟩ := bcm43xxReadLocalName_of_parse hsize resp' name (hbytes ▸ hparse)
    obtain ⟨hlen, hcheck⟩ := (commandComplete_iff resp').mp hdone
    have hn : store resp' 0 ev 2 = n := by
      rw [hev]
      rfl
    have hnameLen : (n.toNat + 4294967295) % 4294967296 = n.toNat - 1 := by
      have hlt := n.toNat_lt
      omega
    rw [hrun, if_neg hlen, if_neg hcheck, hn, hnameLen]

theorem store_received (resp : Memory) {ev : List UInt8} {j : ℕ} (hlen : 7 ≤ ev.length)
    (hj : j < (ev.drop 7).length) : store resp 0 ev (7 + j) = (ev.drop 7)[j] := by
  rw [List.length_drop] at hj
  have hin := store_inside resp 0 (by omega : 7 + j < ev.length)
  rw [Nat.zero_add] at hin
  rw [hin, List.getElem_drop]

theorem store_past (resp : Memory) (ev : List UInt8) : store resp 0 ev ev.length = resp ev.length :=
  store_above resp ev (by omega)

theorem name_unterminated {ev : List UInt8} {size k : ℕ} (resp name : Memory)
    (hlen : 7 ≤ ev.length) (hk : ev.length - 7 < k) (hfit : ev.length < size + 6)
    (hnul : 0 ∉ ev.drop 7) :
    (cString (store (strncpy name (store resp 0 ev) 7 k) (size - 1) [0]) 0 size)[ev.length - 7]? =
      if resp ev.length = 0 then none else some (resp ev.length) := by
  have hbyte {j : ℕ} (hj : j < ev.length - 7) : store resp 0 ev (7 + j) ≠ 0 := by
    have hlt : j < (ev.drop 7).length := by
      rw [List.length_drop]
      exact hj
    rw [store_received resp hlen hlt]
    exact fun h0 => hnul (h0 ▸ List.getElem_mem hlt)
  have hlast : store resp 0 ev (7 + (ev.length - 7)) = resp ev.length := by
    rw [Nat.add_sub_cancel' hlen]
    exact store_past resp ev
  have hall {i : ℕ} (hi : i < ev.length - 7) : ∀ j ≤ i, store resp 0 ev (7 + j) ≠ 0 :=
    fun j hj => hbyte (by omega)
  -- the copied bytes up to the first one that was not received
  have hcopy {i : ℕ} (hi : i ≤ ev.length - 7) :
      store (strncpy name (store resp 0 ev) 7 k) (size - 1) [0] i = store resp 0 ev (7 + i) := by
    rw [store_below _ _ (by omega), strncpy_apply name _ (by omega)]
    by_cases hlt : i < ev.length - 7
    · rw [if_pos (hall hlt)]
    · have hi' : i = ev.length - 7 := by omega
      subst hi'
      by_cases h0 : store resp 0 ev (7 + (ev.length - 7)) = 0
      · rw [if_neg fun h => h _ le_rfl h0, h0]
      · rw [if_pos]
        intro j hj
        rcases Nat.lt_or_ge j (ev.length - 7) with hlt' | hge
        · exact hbyte hlt'
        · rwa [Nat.le_antisymm hj hge]
  rw [cString_getElem?]
  by_cases h0 : resp ev.length = 0
  · rw [if_pos h0, if_neg]
    intro hparts
    obtain ⟨-, hne⟩ := hparts
    apply hne _ le_rfl
    rw [Nat.zero_add, hcopy le_rfl, hlast, h0]
  · rw [if_neg h0, if_pos, Nat.zero_add, hcopy le_rfl, hlast]
    refine ⟨by omega, fun j hj => ?_⟩
    rw [Nat.zero_add, hcopy hj]
    rcases Nat.lt_or_ge j (ev.length - 7) with hlt | hge
    · exact hbyte hlt
    · rwa [Nat.le_antisymm hj hge, hlast]

/-- The name is determined by the received bytes exactly when its terminator is one of
them. -/
theorem bcm43xxReadLocalName_determined_iff {resp : Memory} {size : ℕ} {input : Input UInt8}
    {name : Memory} (h : (bcm43xxReadLocalName (some resp) 4 size input name).ret = 0) :
    NameDetermined size input name ↔ 0 ∈ receivedName size input.bytes := by
  obtain ⟨ev, k, hreceived, hlen, hk, hfit, hname⟩ := bcm43xxReadLocalName_name h
  rw [hreceived]
  constructor
  · intro hdet
    by_contra hnul
    have heq := hdet (fun _ => 0) (fun _ => 1) input rfl
    rw [hname _ input rfl, hname _ input rfl] at heq
    have hzero := name_unterminated (fun _ => 0) name hlen hk hfit hnul
    have hone := name_unterminated (fun _ => 1) name hlen hk hfit hnul
    rw [← heq, hzero] at hone
    simp at hone
  · intro hnul resp₁ resp₂ input' hbytes
    obtain ⟨j, hj, hzero⟩ := List.mem_iff_getElem.mp hnul
    rw [hname resp₁ input rfl, hname resp₂ input' hbytes]
    have hagree : ∀ i ≤ j, store resp₁ 0 ev (7 + i) = store resp₂ 0 ev (7 + i) := by
      intro i hi
      rw [store_received resp₁ hlen (by omega), store_received resp₂ hlen (by omega)]
    have hend : store resp₁ 0 ev (7 + j) = 0 := by
      rw [store_received resp₁ hlen hj, hzero]
    rw [strncpy_congr name hagree hend]

def nameReply (chars : List UInt8) : Input UInt8 :=
  Input.whole 0x04 ([0x0e, 252, 0x01, 0x14, 0x0c, 0x00] ++ chars ++
    List.replicate (248 - chars.length) 0)

theorem bcm43xxReadLocalName_determined_short :
    NameDetermined 20 (nameReply [0x42, 0x43, 0x4d, 0x34, 0x33, 0x34, 0x33, 0x30, 0x41, 0x31])
      (fun _ => 0xff) := by
  apply (@bcm43xxReadLocalName_determined_iff (fun _ => 0xaa) 20 _ (fun _ => 0xff) ?_).mpr
  · decide +kernel
  · decide +kernel

/-- The name "BCM43430A1 37.4MHz" read into the 20 bytes that `bcm43xx_init` provides. -/
theorem bcm43xxReadLocalName_long_name :
    let input := nameReply [0x42, 0x43, 0x4d, 0x34, 0x33, 0x34, 0x33, 0x30, 0x41, 0x31, 0x20, 0x33,
      0x37, 0x2e, 0x34, 0x4d, 0x48, 0x7a]
    (bcm43xxReadLocalName (some fun _ => 0) 4 20 input (fun _ => 0)).ret = 0 ∧
      ¬ NameDetermined 20 input (fun _ => 0) := by
  refine ⟨by decide +kernel, fun hdet => ?_⟩
  have heq := hdet (fun _ => 0) (fun _ => 1) _ rfl
  revert heq
  decide +kernel

end Rpi3Device.Bluetooth
