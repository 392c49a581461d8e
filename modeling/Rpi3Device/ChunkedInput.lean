import Rpi3Device.BoundedLoop
import Rpi3Device.ByteMemory

/-!
# Input that arrives in chunks

A descriptor delivers its bytes in chunks of at least one byte. A read takes at
most one chunk and at most as many bytes as it asked for, so what it returns
depends on the chunks, and an empty answer means that the input has ended.
`fillTo` is the loop that reads into a buffer until a count is reached; its
result depends on the bytes of the input and not on the chunks.
-/

namespace Rpi3Device.ChunkedInput
open ByteMemory

structure Input (α : Type*) where
  chunks : List (List α)
  nonempty : ∀ c ∈ chunks, c ≠ []

namespace Input
variable {α : Type*}

def bytes (s : Input α) : List α := s.chunks.flatten

def whole (x : α) (xs : List α) : Input α := ⟨[x :: xs], by simp⟩

def read (k : ℕ) : Input α → List α × Input α
  | ⟨[], h⟩ => ([], ⟨[], h⟩)
  | ⟨c :: cs, h⟩ =>
    if hk : c.length ≤ k then (c, ⟨cs, fun d hd => h d (by simp [hd])⟩)
    else (c.take k, ⟨c.drop k :: cs, by
      intro d hd
      rcases List.mem_cons.mp hd with rfl | hd
      · simpa using hk
      · exact h d (by simp [hd])⟩)

theorem read_append (k : ℕ) (s : Input α) : (s.read k).1 ++ (s.read k).2.bytes = s.bytes := by
  obtain ⟨chunks, h⟩ := s
  cases chunks with
  | nil => rfl
  | cons c cs =>
    by_cases hk : c.length ≤ k
    · simp [read, hk, bytes]
    · simp [read, hk, bytes, ← List.append_assoc]

theorem read_length_le (k : ℕ) (s : Input α) : (s.read k).1.length ≤ k := by
  obtain ⟨chunks, h⟩ := s
  cases chunks with
  | nil => simp [read]
  | cons c cs =>
    by_cases hk : c.length ≤ k
    · simp [read, hk]
    · simp [read, hk]

theorem read_eq_nil {k : ℕ} (hk : 0 < k) {s : Input α} : (s.read k).1 = [] ↔ s.bytes = [] := by
  constructor
  · intro hnil
    obtain ⟨chunks, h⟩ := s
    cases chunks with
    | nil => rfl
    | cons c cs =>
      have hc := h c (by simp)
      by_cases hle : c.length ≤ k
      · simp only [read, hle, dite_true] at hnil
        exact absurd hnil hc
      · simp only [read, hle, dite_false, List.take_eq_nil_iff] at hnil
        rcases hnil with rfl | hnil
        · omega
        · exact absurd hnil hc
  · intro hnil
    have happ := read_append k s
    rw [hnil] at happ
    exact (List.append_eq_nil_iff.mp happ).1

end Input

theorem store_store (m : Memory) (off : ℕ) (as bs : List UInt8) :
    store (store m off as) (off + as.length) bs = store m off (as ++ bs) := by
  funext i
  by_cases hoff : off ≤ i
  · by_cases ha : i < off + as.length
    · rw [store_below _ bs ha]
      simp only [store, if_pos hoff]
      rw [List.getElem?_append_left (by omega)]
    · have hle : off + as.length ≤ i := by omega
      have hsub : i - (off + as.length) = i - off - as.length := by omega
      simp only [store, if_pos hoff, if_pos hle]
      rw [List.getElem?_append_right (by omega), hsub,
        List.getElem?_eq_none (l := as) (by omega), Option.getD_none]
  · have hlt : i < off := by omega
    rw [store_below _ _ hlt, store_below _ _ (by omega), store_below _ _ hlt]

@[simp] theorem store_nil (m : Memory) (off : ℕ) : store m off [] = m := by
  funext i
  simp [store]

theorem store_overwrite (m : Memory) (off : ℕ) {as bs : List UInt8} (h : as.length ≤ bs.length) :
    store (store m off as) off bs = store m off bs := by
  funext i
  by_cases hoff : off ≤ i
  · by_cases hb : i - off < bs.length
    · simp only [store, if_pos hoff, List.getElem?_eq_getElem hb, Option.getD_some]
    · rw [store_above _ bs (by omega), store_above m bs (by omega), store_above m as (by omega)]
  · have hlt : i < off := by omega
    rw [store_below _ _ hlt, store_below _ _ hlt, store_below _ _ hlt]

structure Cursor where
  count : ℕ
  buf : Memory
  input : Input UInt8

/-- One round: read what is missing, give up at the end of the input. -/
def fillBody (target : ℕ) (c : Cursor) : Cursor ⊕ Bool × Cursor :=
  if c.count < target then
    let r := c.input.read (target - c.count)
    if r.1 = [] then .inr (false, { c with input := r.2 })
    else .inl ⟨c.count + r.1.length, store c.buf c.count r.1, r.2⟩
  else .inr (true, c)

def left (c : Cursor) : ℕ := c.input.bytes.length

theorem fillBody_decreases (target : ℕ) : BoundedLoop.Decreases (fillBody target) left := by
  intro c c' h
  unfold fillBody at h
  by_cases hlt : c.count < target
  · rw [if_pos hlt] at h
    by_cases hnil : (c.input.read (target - c.count)).1 = []
    · simp [hnil] at h
    · simp only [hnil, if_false, Sum.inl.injEq] at h
      have hpos := List.length_pos_iff.mpr hnil
      have hlen := congrArg List.length (Input.read_append (target - c.count) c.input)
      rw [List.length_append] at hlen
      rw [← h]
      simp only [left]
      omega
  · simp [if_neg hlt] at h

def fillTo (target : ℕ) (c : Cursor) : Bool × Cursor :=
  BoundedLoop.measured (fillBody target) left (false, c) c

theorem fillTo_exit {target : ℕ} {c : Cursor} {r : Bool × Cursor}
    (h : fillBody target c = .inr r) : fillTo target c = r :=
  BoundedLoop.measured_exit h

theorem fillTo_continue {target : ℕ} {c c' : Cursor} (h : fillBody target c = .inl c') :
    fillTo target c = fillTo target c' := by
  have hd := fillBody_decreases target
  rw [fillTo, BoundedLoop.measured_continue hd (false, c) h]
  exact BoundedLoop.run_fuel hd _ _ (by omega) (by omega)

theorem fillTo_enough (target : ℕ) {c : Cursor} (h : target - c.count ≤ c.input.bytes.length) :
    ∃ input : Input UInt8, input.bytes = c.input.bytes.drop (target - c.count) ∧
      fillTo target c = (true, ⟨c.count + (target - c.count),
        store c.buf c.count (c.input.bytes.take (target - c.count)), input⟩) := by
  induction hn : c.input.bytes.length using Nat.strong_induction_on generalizing c with
  | _ n ih =>
    by_cases hlt : c.count < target
    · have hpos : 0 < target - c.count := by omega
      set r := c.input.read (target - c.count) with hr
      have hne : r.1 ≠ [] := by
        intro hnil
        have hbytes := (Input.read_eq_nil hpos).mp hnil
        rw [hbytes, List.length_nil] at h
        omega
      have hle : r.1.length ≤ target - c.count := Input.read_length_le _ _
      have hbody : fillBody target c =
          .inl ⟨c.count + r.1.length, store c.buf c.count r.1, r.2⟩ := by
        simp only [fillBody, if_pos hlt, ← hr, if_neg hne]
      have hless := fillBody_decreases target _ _ hbody
      have happ : c.input.bytes = r.1 ++ r.2.bytes := (Input.read_append _ c.input).symm
      have hrest : target - (c.count + r.1.length) = target - c.count - r.1.length := by omega
      have hlen : target - (c.count + r.1.length) ≤ r.2.bytes.length := by
        rw [happ, List.length_append] at h
        omega
      obtain ⟨input, hinput, hfill⟩ := ih _ (by simpa only [left, hn] using hless)
        (c := ⟨c.count + r.1.length, store c.buf c.count r.1, r.2⟩) hlen rfl
      refine ⟨input, ?_, ?_⟩
      · rw [hinput, happ, List.drop_append, List.drop_eq_nil_of_le hle]
        simp only [hrest, List.nil_append]
      · rw [fillTo_continue hbody, hfill, happ, List.take_append, List.take_of_length_le hle]
        simp only [hrest, store_store]
        congr 2
        omega
    · have hzero : target - c.count = 0 := by omega
      have hbody : fillBody target c = .inr (true, c) := by simp only [fillBody, if_neg hlt]
      refine ⟨c.input, by simp [hzero], ?_⟩
      rw [fillTo_exit hbody, hzero]
      simp

theorem fillTo_short (target : ℕ) {c : Cursor} (h : c.input.bytes.length < target - c.count) :
    (fillTo target c).1 = false := by
  induction hn : c.input.bytes.length using Nat.strong_induction_on generalizing c with
  | _ n ih =>
    have hlt : c.count < target := by omega
    set r := c.input.read (target - c.count) with hr
    by_cases hnil : r.1 = []
    · have hbody : fillBody target c = .inr (false, { c with input := r.2 }) := by
        simp only [fillBody, if_pos hlt, ← hr, if_pos hnil]
      rw [fillTo_exit hbody]
    · have hbody : fillBody target c =
          .inl ⟨c.count + r.1.length, store c.buf c.count r.1, r.2⟩ := by
        simp only [fillBody, if_pos hlt, ← hr, if_neg hnil]
      have hless := fillBody_decreases target _ _ hbody
      have hlen := congrArg List.length (Input.read_append (target - c.count) c.input)
      rw [← hr, List.length_append] at hlen
      rw [fillTo_continue hbody]
      apply ih _ (by simpa only [left, hn] using hless) _ rfl
      simp only
      omega

end Rpi3Device.ChunkedInput
