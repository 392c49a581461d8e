import Rpi3Device.ChunkedInput

/-!
# HCI events on the UART

`readHciEvent` follows `read_hci_event` of hals/bluetooth/btuart/hciattach_rpi3.c:
bytes are skipped up to the packet type 0x04, the event code and the length are
read, and then as many parameter bytes as the length byte says, at most
`size - 3`. The buffer keeps its earlier contents where nothing is read.

`parseEvent` says what one call takes from the bytes of the stream. It does not
mention chunks, so `readHciEvent_of_parse` makes every call independent of them.
-/

namespace Rpi3Device.Bluetooth
open ByteMemory ChunkedInput

structure EventRead where
  ret : ℤ
  buf : Memory
  input : Input UInt8

def typeBody (c : Cursor) : Cursor ⊕ Bool × Cursor :=
  let r := c.input.read 1
  if r.1 = [] then .inr (false, { c with input := r.2 })
  else
    let buf := store c.buf 0 r.1
    if buf 0 = 0x04 then .inr (true, { c with buf := buf, input := r.2 })
    else .inl { c with buf := buf, input := r.2 }

def skipToType (c : Cursor) : Bool × Cursor :=
  BoundedLoop.measured typeBody left (false, c) c

def remain (size : ℤ) (n : UInt8) : ℤ :=
  if (n.toNat : ℤ) < size - 3 then n.toNat else size - 3

def readHciEvent (size : ℤ) (buf : Memory) (input : Input UInt8) : EventRead :=
  if size ≤ 0 then ⟨-1, buf, input⟩
  else
    match skipToType ⟨0, buf, input⟩ with
    | (false, c) => ⟨-1, c.buf, c.input⟩
    | (true, c) =>
      match fillTo 3 { c with count := c.count + 1 } with
      | (false, c) => ⟨-1, c.buf, c.input⟩
      | (true, c) =>
        -- `count - 3 < remain` asks for the count `3 + remain`
        match fillTo (3 + remain size (c.buf 2)).toNat c with
        | (false, c) => ⟨-1, c.buf, c.input⟩
        | (true, c) => ⟨c.count, c.buf, c.input⟩

/-- The event that a call takes from the stream, and the bytes it leaves. -/
def parseEvent (size : ℤ) (bs : List UInt8) : Option (List UInt8 × List UInt8) :=
  match bs.dropWhile (· ≠ 0x04) with
  | type :: code :: n :: rest =>
    let remain := min n.toNat (size - 3).toNat
    if remain ≤ rest.length then
      some (type :: code :: n :: rest.take remain, rest.drop remain)
    else none
  | _ => none

theorem read_one_cons {input : Input UInt8} {b : UInt8} {bs : List UInt8}
    (h : input.bytes = b :: bs) : (input.read 1).1 = [b] ∧ (input.read 1).2.bytes = bs := by
  have happ := Input.read_append 1 input
  have hle := Input.read_length_le 1 input
  have hne : (input.read 1).1 ≠ [] := by
    intro hnil
    rw [Input.read_eq_nil (by omega), h] at hnil
    simp at hnil
  obtain ⟨a, as, ha⟩ := List.exists_cons_of_ne_nil hne
  rw [ha, List.length_cons] at hle
  have hnil : as = [] := List.eq_nil_of_length_eq_zero (by omega)
  subst hnil
  rw [ha, h, List.singleton_append, List.cons.injEq] at happ
  obtain ⟨rfl, hrest⟩ := happ
  exact ⟨ha, hrest⟩

theorem typeBody_ended {c : Cursor} (h : c.input.bytes = []) :
    ∃ c', typeBody c = .inr (false, c') := by
  have hnil : (c.input.read 1).1 = [] := (Input.read_eq_nil (by omega)).mpr h
  exact ⟨{ c with input := (c.input.read 1).2 }, by simp only [typeBody, if_pos hnil]⟩

theorem typeBody_cons {c : Cursor} {b : UInt8} {bs : List UInt8} (h : c.input.bytes = b :: bs) :
    ∃ input : Input UInt8, input.bytes = bs ∧ typeBody c =
      if b = 0x04 then .inr (true, { c with buf := store c.buf 0 [b], input := input })
      else .inl { c with buf := store c.buf 0 [b], input := input } := by
  obtain ⟨hread, hrest⟩ := read_one_cons h
  refine ⟨_, hrest, ?_⟩
  have hhead : store c.buf 0 [b] 0 = b := rfl
  simp [typeBody, hread, hhead]

theorem typeBody_decreases : BoundedLoop.Decreases typeBody left := by
  intro c c' h
  cases hbytes : c.input.bytes with
  | nil =>
    obtain ⟨c'', hbody⟩ := typeBody_ended hbytes
    rw [hbody] at h
    simp at h
  | cons b bs =>
    obtain ⟨input, hinput, hbody⟩ := typeBody_cons hbytes
    rw [hbody] at h
    by_cases hb : b = 0x04
    · simp [hb] at h
    · rw [if_neg hb, Sum.inl.injEq] at h
      simp [← h, left, hinput, hbytes]

theorem skipToType_continue {c c' : Cursor} (h : typeBody c = .inl c') :
    skipToType c = skipToType c' := by
  rw [skipToType, BoundedLoop.measured_continue typeBody_decreases (false, c) h]
  exact BoundedLoop.run_fuel typeBody_decreases _ _ (by omega) (by omega)

theorem skipToType_missing {c : Cursor} (h : c.input.bytes.dropWhile (· ≠ 0x04) = []) :
    (skipToType c).1 = false := by
  induction hbytes : c.input.bytes generalizing c with
  | nil =>
    obtain ⟨c', hbody⟩ := typeBody_ended hbytes
    rw [skipToType, BoundedLoop.measured_exit hbody]
  | cons b bs ih =>
    obtain ⟨input, hinput, hbody⟩ := typeBody_cons hbytes
    rw [hbytes] at h
    by_cases hb : b = 0x04
    · simp [hb] at h
    · rw [if_neg hb] at hbody
      rw [skipToType_continue hbody]
      apply ih _ hinput
      simpa [hinput, hb] using h

theorem skipToType_found {c : Cursor} {rest : List UInt8}
    (h : c.input.bytes.dropWhile (· ≠ 0x04) = 0x04 :: rest) :
    ∃ input : Input UInt8, input.bytes = rest ∧
      skipToType c = (true, { c with buf := store c.buf 0 [0x04], input := input }) := by
  induction hbytes : c.input.bytes generalizing c with
  | nil => simp [hbytes] at h
  | cons b bs ih =>
    obtain ⟨input, hinput, hbody⟩ := typeBody_cons hbytes
    rw [hbytes] at h
    by_cases hb : b = 0x04
    · subst hb
      refine ⟨input, ?_, ?_⟩
      · simpa [hinput] using h
      · rw [skipToType]
        exact BoundedLoop.measured_exit (by rw [hbody, if_pos rfl])
    · rw [if_neg hb] at hbody
      have hnext : input.bytes.dropWhile (· ≠ 0x04) = 0x04 :: rest := by
        simpa [hinput, hb] using h
      obtain ⟨input', hinput', hskip⟩ :=
        ih (c := { c with buf := store c.buf 0 [b], input := input }) hnext hinput
      refine ⟨input', hinput', ?_⟩
      rw [skipToType_continue hbody, hskip]
      have hover : store (store c.buf 0 [b]) 0 [0x04] = store c.buf 0 [0x04] :=
        store_overwrite c.buf 0 le_rfl
      simp only [hover]

theorem dropWhile_type {bs rest : List UInt8} {b : UInt8}
    (h : bs.dropWhile (· ≠ 0x04) = b :: rest) : b = 0x04 := by
  induction bs with
  | nil => simp at h
  | cons a bs ih =>
    by_cases ha : a = 0x04
    · subst ha
      simp only [ne_eq, not_true_eq_false, decide_false, Bool.false_eq_true, not_false_eq_true,
        List.dropWhile_cons_of_neg, List.cons.injEq] at h
      exact h.1.symm
    · exact ih (by simpa [ha] using h)

theorem parseEvent_of_dropWhile {size : ℤ} {bs params : List UInt8} {code n : UInt8}
    (h : bs.dropWhile (· ≠ 0x04) = 0x04 :: code :: n :: params) :
    parseEvent size bs = if min n.toNat (size - 3).toNat ≤ params.length then
      some (0x04 :: code :: n :: params.take (min n.toNat (size - 3).toNat),
        params.drop (min n.toNat (size - 3).toNat)) else none := by
  simp only [parseEvent, h]

theorem parseEvent_some {size : ℤ} {bs ev rest : List UInt8}
    (h : parseEvent size bs = some (ev, rest)) :
    ∃ code n params, bs.dropWhile (· ≠ 0x04) = 0x04 :: code :: n :: params ∧
      min n.toNat (size - 3).toNat ≤ params.length ∧
      ev = 0x04 :: code :: n :: params.take (min n.toNat (size - 3).toNat) ∧
      rest = params.drop (min n.toNat (size - 3).toNat) := by
  match hd : bs.dropWhile (· ≠ 0x04) with
  | [] | [_] | [_, _] => simp only [parseEvent, hd, reduceCtorEq] at h
  | type :: code :: n :: params =>
    obtain rfl := dropWhile_type hd
    rw [parseEvent_of_dropWhile hd] at h
    by_cases hle : min n.toNat (size - 3).toNat ≤ params.length
    · rw [if_pos hle, Option.some.injEq, Prod.mk.injEq] at h
      exact ⟨code, n, params, hd, hle, h.1.symm, h.2.symm⟩
    · rw [if_neg hle] at h
      simp at h

theorem remain_target {size : ℤ} (hsize : 0 < size) (n : UInt8) :
    (3 + remain size n).toNat - 3 = min n.toNat (size - 3).toNat := by
  unfold remain
  by_cases h : (n.toNat : ℤ) < size - 3
  · rw [if_pos h]
    omega
  · rw [if_neg h]
    omega

theorem header_read (buf : Memory) {input : Input UInt8} {code n : UInt8} {params : List UInt8}
    (h : input.bytes = code :: n :: params) :
    ∃ input' : Input UInt8, input'.bytes = params ∧
      fillTo 3 ⟨1, store buf 0 [0x04], input⟩ =
        (true, ⟨3, store buf 0 [0x04, code, n], input'⟩) := by
  obtain ⟨input', hinput', hfill⟩ :=
    fillTo_enough 3 (c := ⟨1, store buf 0 [0x04], input⟩) (by simp [h])
  have hjoin : store (store buf 0 [0x04]) 1 [code, n] = store buf 0 [0x04, code, n] :=
    store_store buf 0 [0x04] [code, n]
  refine ⟨input', by simpa [h] using hinput', ?_⟩
  rw [hfill]
  simp only [h, Nat.reduceSub, Nat.reduceAdd, List.take_succ_cons, List.take_zero, hjoin]

theorem readHciEvent_of_parse {size : ℤ} (hsize : 0 < size) (buf : Memory) {input : Input UInt8}
    {ev rest : List UInt8} (h : parseEvent size input.bytes = some (ev, rest)) :
    ∃ input' : Input UInt8, input'.bytes = rest ∧
      readHciEvent size buf input = ⟨ev.length, store buf 0 ev, input'⟩ := by
  obtain ⟨code, n, params, hd, hle, rfl, rfl⟩ := parseEvent_some h
  obtain ⟨input₁, hinput₁, hskip⟩ := skipToType_found (c := ⟨0, buf, input⟩) hd
  obtain ⟨input₂, hinput₂, hhead⟩ := header_read buf hinput₁
  obtain ⟨input₃, hinput₃, hrest⟩ := fillTo_enough (3 + remain size n).toNat
    (c := ⟨3, store buf 0 [0x04, code, n], input₂⟩) (by
      rw [remain_target hsize, hinput₂]
      exact hle)
  rw [remain_target hsize, hinput₂] at hinput₃ hrest
  have hn : store buf 0 [0x04, code, n] 2 = n := rfl
  have hjoin (bs : List UInt8) : store (store buf 0 [0x04, code, n]) 3 bs =
      store buf 0 (0x04 :: code :: n :: bs) := store_store buf 0 [0x04, code, n] bs
  refine ⟨input₃, hinput₃, ?_⟩
  simp only [readHciEvent, if_neg (not_le.mpr hsize), hskip, zero_add, hhead, hn, hrest, hjoin,
    List.length_cons, List.length_take, Nat.min_eq_left hle]
  congr 1
  omega

theorem readHciEvent_of_none {size : ℤ} (hsize : 0 < size) (buf : Memory) {input : Input UInt8}
    (h : parseEvent size input.bytes = none) : (readHciEvent size buf input).ret = -1 := by
  have hpos := not_le.mpr hsize
  match hd : input.bytes.dropWhile (· ≠ 0x04) with
  | [] =>
    have hskip := skipToType_missing (c := ⟨0, buf, input⟩) hd
    simp only [readHciEvent, if_neg hpos]
    split
    · rfl
    · simp_all
  | type :: tail =>
    obtain rfl := dropWhile_type hd
    obtain ⟨input₁, hinput₁, hskip⟩ := skipToType_found (c := ⟨0, buf, input⟩) hd
    simp only [readHciEvent, if_neg hpos, hskip, zero_add]
    match tail with
    | [] | [_] =>
      have hshort := fillTo_short 3 (c := ⟨1, store buf 0 [0x04], input₁⟩)
        (by simp [hinput₁])
      split
      · rfl
      · simp_all
    | code :: n :: params =>
      rw [parseEvent_of_dropWhile hd] at h
      have hlt : ¬ min n.toNat (size - 3).toNat ≤ params.length := by
        intro hle
        rw [if_pos hle] at h
        simp at h
      obtain ⟨input₂, hinput₂, hhead⟩ := header_read buf hinput₁
      have hn : store buf 0 [0x04, code, n] 2 = n := rfl
      have hshort := fillTo_short (3 + remain size n).toNat
        (c := ⟨3, store buf 0 [0x04, code, n], input₂⟩) (by
          rw [remain_target hsize, hinput₂]
          omega)
      simp only [hhead, hn]
      split
      · rfl
      · simp_all

/-- The event is long enough for a command-complete event and reports success for the
command with the given opcode bytes. -/
def CommandComplete (op₀ op₁ : UInt8) (ev : List UInt8) : Prop :=
  7 ≤ ev.length ∧ ev[4]? = some op₀ ∧ ev[5]? = some op₁ ∧ ev[6]? = some 0x00

theorem store_getElem? (m : Memory) {ev : List UInt8} {i : ℕ} (hi : i < ev.length) :
    ev[i]? = some (store m 0 ev i) := by
  have hin := store_inside m 0 hi
  rw [Nat.zero_add] at hin
  rw [hin, List.getElem?_eq_getElem hi]

theorem commandComplete_iff (resp : Memory) {op₀ op₁ : UInt8} {ev : List UInt8} :
    CommandComplete op₀ op₁ ev ↔ ¬ (ev.length : ℤ) < 7 ∧
      ¬ (store resp 0 ev 4 ≠ op₀ ∨ store resp 0 ev 5 ≠ op₁ ∨ store resp 0 ev 6 ≠ 0x00) := by
  unfold CommandComplete
  by_cases hlen : 7 ≤ ev.length
  · have hlt : ¬ (ev.length : ℤ) < 7 := by omega
    rw [store_getElem? resp (by omega : 4 < ev.length),
      store_getElem? resp (by omega : 5 < ev.length),
      store_getElem? resp (by omega : 6 < ev.length)]
    simp only [hlen, hlt, Option.some.injEq, not_false_eq_true, true_and]
    tauto
  · have hlt : (ev.length : ℤ) < 7 := by omega
    simp [hlen, hlt]

structure HciEvent where
  code : UInt8
  params : List UInt8
  short : params.length < 256

def HciEvent.bytes (e : HciEvent) : List UInt8 :=
  0x04 :: e.code :: UInt8.ofNat e.params.length :: e.params

def HciEvent.Fits (size : ℤ) (e : HciEvent) : Prop := (e.params.length : ℤ) ≤ size - 3

/-- An event and the bytes that no event begins with before it. -/
structure Segment where
  garbage : List UInt8
  clean : ∀ b ∈ garbage, b ≠ 0x04
  event : HciEvent

def Segment.bytes (s : Segment) : List UInt8 := s.garbage ++ s.event.bytes

/-- Consecutive calls, each with a buffer of its own: what each one returns and the bytes
it leaves in its buffer. -/
def readEvents (size : ℤ) : List Memory → Input UInt8 → List (ℤ × List UInt8) × Input UInt8
  | [], input => ([], input)
  | buf :: bufs, input =>
    let r := readHciEvent size buf input
    let s := readEvents size bufs r.input
    ((r.ret, load r.buf 0 r.ret.toNat) :: s.1, s.2)

theorem dropWhile_garbage {garbage : List UInt8} (clean : ∀ b ∈ garbage, b ≠ 0x04)
    (rest : List UInt8) :
    (garbage ++ rest).dropWhile (· ≠ 0x04) = rest.dropWhile (· ≠ 0x04) := by
  apply List.dropWhile_append_of_pos
  intro b hb
  simpa using clean b hb

theorem HciEvent.length_toNat (e : HciEvent) :
    (UInt8.ofNat e.params.length).toNat = e.params.length := by
  rw [UInt8.toNat_ofNat']
  exact Nat.mod_eq_of_lt e.short

theorem HciEvent.fits_min {size : ℤ} {e : HciEvent} (h : e.Fits size) :
    min (UInt8.ofNat e.params.length).toNat (size - 3).toNat = e.params.length := by
  unfold HciEvent.Fits at h
  rw [e.length_toNat]
  omega

theorem parseEvent_segment {size : ℤ} {s : Segment} (h : s.event.Fits size) (rest : List UInt8) :
    parseEvent size (s.bytes ++ rest) = some (s.event.bytes, rest) := by
  have hd : (s.bytes ++ rest).dropWhile (· ≠ 0x04) =
      0x04 :: s.event.code :: UInt8.ofNat s.event.params.length :: (s.event.params ++ rest) := by
    rw [Segment.bytes, List.append_assoc, dropWhile_garbage s.clean]
    rfl
  rw [parseEvent_of_dropWhile hd, HciEvent.fits_min h, if_pos (by simp), List.take_left,
    List.drop_left]
  rfl

theorem parseEvent_cut {size : ℤ} {garbage part : List UInt8} {last : HciEvent}
    (clean : ∀ b ∈ garbage, b ≠ 0x04) (h : last.Fits size) (hpart : part <+: last.bytes)
    (hne : part ≠ last.bytes) : parseEvent size (garbage ++ part) = none := by
  have hlen : part.length < last.bytes.length :=
    lt_of_le_of_ne hpart.length_le fun hlen => hne (hpart.eq_of_length hlen)
  have hd := dropWhile_garbage clean part
  rw [HciEvent.bytes] at hpart hlen
  match part with
  | [] => simp only [parseEvent, hd, List.dropWhile_nil]
  | [a] | [a, _] =>
    obtain ⟨rfl, -⟩ := List.cons_prefix_cons.mp hpart
    simp only [parseEvent, hd]
    rfl
  | a :: b :: c :: params =>
    simp only [List.cons_prefix_cons] at hpart
    obtain ⟨rfl, rfl, rfl, -⟩ := hpart
    have hshort : ¬ last.params.length ≤ params.length := by
      simp only [List.length_cons] at hlen
      omega
    have hd' : (garbage ++ 0x04 :: last.code :: UInt8.ofNat last.params.length ::
        params).dropWhile (· ≠ 0x04) = 0x04 :: last.code :: _ :: params := hd
    rw [parseEvent_of_dropWhile hd', HciEvent.fits_min h, if_neg hshort]

theorem readHciEvent_segment {size : ℤ} {s : Segment} (h : s.event.Fits size) (buf : Memory)
    {input : Input UInt8} {rest : List UInt8} (hinput : input.bytes = s.bytes ++ rest) :
    ∃ input' : Input UInt8, input'.bytes = rest ∧ readHciEvent size buf input =
      ⟨s.event.bytes.length, store buf 0 s.event.bytes, input'⟩ := by
  have hsize : 0 < size := by
    unfold HciEvent.Fits at h
    omega
  apply readHciEvent_of_parse hsize
  rw [hinput]
  exact parseEvent_segment h rest

theorem readEvents_segments {size : ℤ} {segments : List Segment}
    (hfit : ∀ s ∈ segments, s.event.Fits size) {bufs : List Memory}
    (hbufs : bufs.length = segments.length) {input : Input UInt8} {rest : List UInt8}
    (hinput : input.bytes = segments.flatMap Segment.bytes ++ rest) :
    (readEvents size bufs input).1 =
        segments.map (fun s => (3 + (s.event.params.length : ℤ), s.event.bytes)) ∧
      (readEvents size bufs input).2.bytes = rest := by
  induction segments generalizing bufs input with
  | nil =>
    obtain rfl := List.eq_nil_of_length_eq_zero hbufs
    exact ⟨rfl, hinput⟩
  | cons s segments ih =>
    match bufs with
    | [] => simp at hbufs
    | buf :: bufs =>
      obtain ⟨input', hinput', hread⟩ := readHciEvent_segment (hfit s (by simp)) buf
        (by simpa only [List.flatMap_cons, List.append_assoc] using hinput)
      obtain ⟨hevents, hrest⟩ := ih (fun s hs => hfit s (by simp [hs])) (by simpa using hbufs)
        hinput'
      have hload : load (store buf 0 s.event.bytes) 0 s.event.bytes.length = s.event.bytes :=
        (holdsAt_store buf 0 s.event.bytes).load_eq
      have hlen : (s.event.bytes.length : ℤ) = 3 + s.event.params.length := by
        simp only [HciEvent.bytes, List.length_cons]
        omega
      refine ⟨?_, ?_⟩
      · simp only [readEvents, hread, hevents, Int.toNat_natCast, hload, List.map_cons]
        rw [hlen]
      · simp only [readEvents, hread, hrest]

/-- Consecutive calls return the events of the stream in order whatever its chunks are, and
the call that meets the end of the stream inside an event returns -1. -/
theorem readEvents_in_order {size : ℤ} {segments : List Segment}
    (hfit : ∀ s ∈ segments, s.event.Fits size) {bufs : List Memory}
    (hbufs : bufs.length = segments.length) {input : Input UInt8} {rest : List UInt8}
    (hinput : input.bytes = segments.flatMap Segment.bytes ++ rest) :
    (readEvents size bufs input).1 =
        segments.map (fun s => (3 + (s.event.params.length : ℤ), s.event.bytes)) ∧
      (readEvents size bufs input).2.bytes = rest ∧
      ∀ {garbage part : List UInt8} {last : HciEvent} (buf : Memory),
        (∀ b ∈ garbage, b ≠ 0x04) → last.Fits size → part <+: last.bytes → part ≠ last.bytes →
        rest = garbage ++ part →
        (readHciEvent size buf (readEvents size bufs input).2).ret = -1 := by
  obtain ⟨hevents, hbytes⟩ := readEvents_segments hfit hbufs hinput
  refine ⟨hevents, hbytes, ?_⟩
  intro garbage part last buf clean hlast hpart hne hrest
  have hsize : 0 < size := by
    unfold HciEvent.Fits at hlast
    omega
  apply readHciEvent_of_none hsize
  rw [hbytes, hrest]
  exact parseEvent_cut clean hlast hpart hne

theorem readEvents_four_chunks :
    let event : HciEvent := ⟨0x0e, [0x01, 0x03, 0x0c, 0x00], by decide⟩
    let input : Input UInt8 :=
      ⟨[[0xff, 0x04], [0x0e], [0x04, 0x01, 0x03], [0x0c, 0x00, 0x04, 0x0e]], by decide⟩
    let calls := readEvents 7 [fun _ => 0xaa] input
    calls.1 = [(7, [0x04, 0x0e, 0x04, 0x01, 0x03, 0x0c, 0x00])] ∧
      (readHciEvent 7 (fun _ => 0xaa) calls.2).ret = -1 ∧ event.Fits 7 := by
  have hfits : HciEvent.Fits 7 ⟨0x0e, [0x01, 0x03, 0x0c, 0x00], by decide⟩ := by
    simp [HciEvent.Fits]
  obtain ⟨hevents, -, hend⟩ := @readEvents_in_order 7
    [⟨[0xff], by simp, ⟨0x0e, [0x01, 0x03, 0x0c, 0x00], by decide⟩⟩] (by simpa using hfits)
    [fun _ => 0xaa] rfl
    ⟨[[0xff, 0x04], [0x0e], [0x04, 0x01, 0x03], [0x0c, 0x00, 0x04, 0x0e]], by decide⟩
    [0x04, 0x0e] rfl
  refine ⟨hevents, ?_, hfits⟩
  exact @hend [] [0x04, 0x0e] _ (fun _ => 0xaa) (by simp) hfits (by decide) (by decide) rfl

end Rpi3Device.Bluetooth
