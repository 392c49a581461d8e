import Rpi3Device.Bluetooth.HciEvents

/-!
# Downloading the firmware

`bcm43xxLoadFirmware` follows `bcm43xx_load_firmware`: after the download-mode command
the file is read record by record, three header bytes into `tx_buf[1..3]` and as many
payload bytes as `tx_buf[3]` says behind them, and each record is written to the UART
after the byte 0x01. The loop ends only at a read of no bytes. The counts of the two
reads are not compared with what was asked for, so a file that ends inside a record is
completed with what the buffer held before.
-/

namespace Rpi3Device.Bluetooth
open ByteMemory ChunkedInput

/-- What the calls of the loader meet: whether the file opens, which of its reads fail,
what each write to the UART returns and what arrives on the UART after each flush. -/
structure Host where
  opens : Bool
  readFails : ℕ → Bool
  accepted : ℕ → List UInt8 → ℤ
  inputs : ℕ → Input UInt8

structure Load where
  file : List UInt8
  txBuf : Memory
  resp : Memory
  reads : ℕ
  writes : ℕ
  sent : List UInt8

def downloadMode : List UInt8 := [0x01, 0x2e, 0xfc, 0x00]

def recordBody (host : Host) (s : Load) : Load ⊕ ℤ × List UInt8 :=
  if host.readFails s.reads then .inr (-1, s.sent)
  else
    let head := s.file.take 3
    if head = [] then .inr (0, s.sent)
    else
      let txBuf := store (store s.txBuf 1 head) 0 [0x01]
      let len := (txBuf 3).toNat
      if host.readFails (s.reads + 1) then .inr (-1, s.sent)
      else
        let txBuf := store txBuf 4 ((s.file.drop 3).take len)
        let packet := load txBuf 0 (len + 4)
        let r := host.accepted s.writes packet
        let sent := s.sent ++ packet.take r.toNat
        if r ≠ len + 4 then .inr (-1, sent)
        else .inl ⟨(s.file.drop 3).drop len, txBuf,
          (readHciEvent 7 s.resp (host.inputs s.writes)).buf, s.reads + 2, s.writes + 1, sent⟩

def recordLoop (host : Host) (s : Load) : ℤ × List UInt8 :=
  BoundedLoop.measured (recordBody host) (fun s => s.file.length) (-1, []) s

def bcm43xxLoadFirmware (host : Host) (txBuf resp : Memory) (file : List UInt8) :
    ℤ × List UInt8 :=
  if host.opens = false then (-1, [])
  else
    let r := host.accepted 0 downloadMode
    let sent := downloadMode.take r.toNat
    if r ≠ 4 then (-1, sent)
    else
      let ev := readHciEvent 7 resp (host.inputs 0)
      if ev.ret < 7 then (-1, sent)
      else if ev.buf 4 ≠ 0x2e ∨ ev.buf 5 ≠ 0xfc ∨ ev.buf 6 ≠ 0x00 then (-1, sent)
      else recordLoop host ⟨file, txBuf, ev.buf, 0, 1, sent⟩

structure Record where
  opcode₀ : UInt8
  opcode₁ : UInt8
  payload : List UInt8
  short : payload.length < 256

def Record.bytes (r : Record) : List UInt8 :=
  r.opcode₀ :: r.opcode₁ :: UInt8.ofNat r.payload.length :: r.payload

def Record.packet (r : Record) : List UInt8 := 0x01 :: r.bytes

def Complete (file : List UInt8) : Prop := ∃ rs : List Record, file = rs.flatMap Record.bytes

/-- A result 0 stands for a file of complete records that were all written in order. Any
other file gives -1, after at most some of its complete records. -/
def LoadsRecords (file : List UInt8) (r : ℤ × List UInt8) : Prop :=
  (r.1 = 0 → ∃ rs : List Record, file = rs.flatMap Record.bytes ∧
    r.2 = downloadMode ++ rs.flatMap Record.packet) ∧
  (¬ Complete file → r.1 = -1 ∧ ∃ (rs : List Record) (tail : List UInt8),
    file = rs.flatMap Record.bytes ++ tail ∧ r.2 = downloadMode ++ rs.flatMap Record.packet)

/-- The file can be read and the UART acknowledges the download-mode command and accepts
every write. -/
structure Cooperative (host : Host) : Prop where
  opens : host.opens = true
  reads : ∀ k, host.readFails k = false
  accepts : ∀ k bs, host.accepted k bs = bs.length
  acknowledges : ∃ ev rest, parseEvent 7 (host.inputs 0).bytes = some (ev, rest) ∧
    CommandComplete 0x2e 0xfc ev

def nextLoad (host : Host) (s : Load) : Load :=
  let txBuf := store (store s.txBuf 1 (s.file.take 3)) 0 [0x01]
  let len := (txBuf 3).toNat
  let txBuf := store txBuf 4 ((s.file.drop 3).take len)
  ⟨(s.file.drop 3).drop len, txBuf, (readHciEvent 7 s.resp (host.inputs s.writes)).buf,
    s.reads + 2, s.writes + 1, s.sent ++ load txBuf 0 (len + 4)⟩

theorem nextLoad_record (host : Host) {s : Load} {r : Record} {rest : List UInt8}
    (h : s.file = r.bytes ++ rest) :
    (nextLoad host s).file = rest ∧ (nextLoad host s).sent = s.sent ++ r.packet := by
  have hlen : (UInt8.ofNat r.payload.length).toNat = r.payload.length := by
    rw [UInt8.toNat_ofNat']
    exact Nat.mod_eq_of_lt r.short
  set header : List UInt8 := [r.opcode₀, r.opcode₁, UInt8.ofNat r.payload.length] with hheader
  have htake : s.file.take 3 = header := by
    rw [h]
    rfl
  have hdrop : s.file.drop 3 = r.payload ++ rest := by
    rw [h]
    rfl
  have hcount : store (store s.txBuf 1 header) 0 [0x01] 3 = UInt8.ofNat r.payload.length := rfl
  have hholds : HoldsAt (store (store (store s.txBuf 1 header) 0 [0x01]) 4 r.payload) 0
      r.packet := by
    have hsplit : r.packet = [0x01] ++ (header ++ r.payload) := rfl
    rw [hsplit, holdsAt_append, holdsAt_append]
    refine ⟨?_, ?_, holdsAt_store _ _ _⟩
    · exact (holdsAt_store _ 0 [0x01]).store_disjoint (Or.inl (by simp))
    · apply HoldsAt.store_disjoint _ (Or.inl (by simp [hheader]))
      exact (holdsAt_store s.txBuf 1 header).store_disjoint (Or.inr (by simp))
  have hpacket := hholds.load_eq
  have hpacketLen : r.packet.length = r.payload.length + 4 := rfl
  rw [hpacketLen] at hpacket
  constructor
  · simp only [nextLoad, htake, hdrop, hcount, hlen, List.drop_left]
  · simp only [nextLoad, htake, hdrop, hcount, hlen, List.take_left, hpacket]

section Rounds
variable {host : Host}

theorem recordBody_decreases :
    BoundedLoop.Decreases (recordBody host) (fun s => s.file.length) := by
  intro s s' h
  unfold recordBody at h
  by_cases hfail : host.readFails s.reads = true
  · simp [hfail] at h
  · rw [if_neg hfail] at h
    by_cases hnil : s.file.take 3 = []
    · simp [hnil] at h
    · have hpos : 0 < s.file.length := by
        apply List.length_pos_iff.mpr
        intro hfile
        simp [hfile] at hnil
      simp only [if_neg hnil] at h
      by_cases hfail' : host.readFails (s.reads + 1) = true
      · simp [hfail'] at h
      · rw [if_neg hfail'] at h
        split at h
        · simp at h
        · rw [Sum.inl.injEq] at h
          rw [← h]
          simp only [List.length_drop]
          omega

variable (coop : Cooperative host)
include coop

theorem recordBody_ended {s : Load} (h : s.file = []) : recordBody host s = .inr (0, s.sent) := by
  simp [recordBody, coop.reads, h]

theorem recordBody_round {s : Load} (h : s.file ≠ []) :
    recordBody host s = .inl (nextLoad host s) := by
  have hnil : s.file.take 3 ≠ [] := by
    simpa using h
  simp only [recordBody, nextLoad, coop.reads, Bool.false_eq_true, if_false, if_neg hnil,
    coop.accepts, load_length, Nat.cast_add, Nat.cast_ofNat, ne_eq, not_true_eq_false]
  congr 2
  rw [List.take_of_length_le]
  simp only [load_length]
  omega

theorem recordLoop_ended {s : Load} (h : s.file = []) : recordLoop host s = (0, s.sent) :=
  BoundedLoop.measured_exit (recordBody_ended coop h)

theorem recordLoop_round {s : Load} (h : s.file ≠ []) :
    recordLoop host s = recordLoop host (nextLoad host s) :=
  BoundedLoop.measured_continue recordBody_decreases _ (recordBody_round coop h)

/-- The loop never notices where the file ends. -/
theorem recordLoop_zero (s : Load) : (recordLoop host s).1 = 0 := by
  induction hn : s.file.length using Nat.strong_induction_on generalizing s with
  | _ n ih =>
    by_cases hfile : s.file = []
    · rw [recordLoop_ended coop hfile]
    · have hless := recordBody_decreases _ _ (recordBody_round coop hfile)
      rw [recordLoop_round coop hfile]
      exact ih _ (hn ▸ hless) _ rfl

theorem recordLoop_records {rs : List Record} {s : Load} (h : s.file = rs.flatMap Record.bytes) :
    recordLoop host s = (0, s.sent ++ rs.flatMap Record.packet) := by
  induction rs generalizing s with
  | nil =>
    rw [recordLoop_ended coop (by simpa using h)]
    simp
  | cons r rs ih =>
    rw [List.flatMap_cons] at h
    have hfile : s.file ≠ [] := by
      rw [h, Record.bytes]
      simp
    obtain ⟨hrest, hsent⟩ := nextLoad_record host h
    rw [recordLoop_round coop hfile, ih hrest, hsent, List.flatMap_cons, List.append_assoc]

theorem bcm43xxLoadFirmware_eq (txBuf resp : Memory) (file : List UInt8) :
    ∃ resp', bcm43xxLoadFirmware host txBuf resp file =
      recordLoop host ⟨file, txBuf, resp', 0, 1, downloadMode⟩ := by
  obtain ⟨ev, rest, hparse, hdone⟩ := coop.acknowledges
  obtain ⟨input, -, hread⟩ := readHciEvent_of_parse (by decide) resp hparse
  obtain ⟨hlen, hcheck⟩ := (commandComplete_iff resp).mp hdone
  refine ⟨store resp 0 ev, ?_⟩
  rw [bcm43xxLoadFirmware, if_neg (by simp [coop.opens])]
  simp only [coop.accepts, hread, if_neg hlen, if_neg hcheck]
  rfl

/-- The call keeps its promise exactly on the files that consist of complete records. -/
theorem bcm43xxLoadFirmware_iff (txBuf resp : Memory) (file : List UInt8) :
    LoadsRecords file (bcm43xxLoadFirmware host txBuf resp file) ↔ Complete file := by
  obtain ⟨resp', hrun⟩ := bcm43xxLoadFirmware_eq coop txBuf resp file
  rw [hrun]
  constructor
  · intro h
    obtain ⟨hzero, -⟩ := h
    obtain ⟨rs, hfile, -⟩ := hzero (recordLoop_zero coop _)
    exact ⟨rs, hfile⟩
  · intro h
    obtain ⟨rs, hfile⟩ := h
    have hloop := recordLoop_records coop (s := ⟨file, txBuf, resp', 0, 1, downloadMode⟩) hfile
    refine ⟨fun _ => ⟨rs, hfile, by rw [hloop]⟩, fun hnot => ?_⟩
    exact absurd ⟨rs, hfile⟩ hnot

end Rounds

theorem complete_header {a b n : UInt8} {rest : List UInt8} (h : Complete (a :: b :: n :: rest)) :
    n.toNat ≤ rest.length := by
  obtain ⟨rs, hrs⟩ := h
  cases rs with
  | nil => simp at hrs
  | cons r rs =>
    simp only [List.flatMap_cons, Record.bytes, List.cons_append, List.cons.injEq] at hrs
    obtain ⟨-, -, rfl, rfl⟩ := hrs
    rw [UInt8.toNat_ofNat', List.length_append]
    have hle := Nat.mod_le r.payload.length (2 ^ 8)
    omega

def acknowledgingHost : Host :=
  ⟨true, fun _ => false, fun _ bs => bs.length,
    fun _ => Input.whole 0x04 [0x0e, 0x04, 0x01, 0x2e, 0xfc, 0x00]⟩

theorem acknowledgingHost_cooperative : Cooperative acknowledgingHost := by
  refine ⟨rfl, fun _ => rfl, fun _ _ => rfl, ?_⟩
  exact ⟨[0x04, 0x0e, 0x04, 0x01, 0x2e, 0xfc, 0x00], [], by decide +kernel, by decide, rfl, rfl,
    rfl⟩

theorem bcm43xxLoadFirmware_one_record :
    LoadsRecords [0x4c, 0xfc, 0x02, 0xaa, 0xbb] (bcm43xxLoadFirmware acknowledgingHost
      (fun _ => 0x55) (fun _ => 0) [0x4c, 0xfc, 0x02, 0xaa, 0xbb]) := by
  apply (bcm43xxLoadFirmware_iff acknowledgingHost_cooperative _ _ _).mpr
  exact ⟨[⟨0x4c, 0xfc, [0xaa, 0xbb], by decide⟩], rfl⟩

/-- The last byte of the record is missing: the call returns 0 and sends the byte that
`tx_buf` held before. -/
theorem bcm43xxLoadFirmware_cut_payload :
    bcm43xxLoadFirmware acknowledgingHost (fun _ => 0x55) (fun _ => 0) [0x4c, 0xfc, 0x02, 0xaa] =
        (0, [0x01, 0x2e, 0xfc, 0x00, 0x01, 0x4c, 0xfc, 0x02, 0xaa, 0x55]) ∧
      ¬ LoadsRecords [0x4c, 0xfc, 0x02, 0xaa] (bcm43xxLoadFirmware acknowledgingHost
        (fun _ => 0x55) (fun _ => 0) [0x4c, 0xfc, 0x02, 0xaa]) := by
  have hrun : bcm43xxLoadFirmware acknowledgingHost (fun _ => 0x55) (fun _ => 0)
      [0x4c, 0xfc, 0x02, 0xaa] =
        (0, [0x01, 0x2e, 0xfc, 0x00, 0x01, 0x4c, 0xfc, 0x02, 0xaa, 0x55]) := by decide +kernel
  refine ⟨hrun, ?_⟩
  rw [hrun]
  intro h
  obtain ⟨hzero, -⟩ := h
  obtain ⟨rs, hfile, -⟩ := hzero rfl
  have hle := complete_header ⟨rs, hfile⟩
  simp at hle

end Rpi3Device.Bluetooth
