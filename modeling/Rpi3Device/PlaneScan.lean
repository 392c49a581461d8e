import Mathlib.Tactic

/-!
# Scans of frames with halved colour planes

A scan goes through the pixels of a frame in pairs, row by row, with a pointer into
each of three planes. The two colour pointers are set back after every even row, so
that two rows share their colour bytes. The loop carries a state of its own along a
row and another from row to row, and visits a value at each pair. A two by two block
is named by its half coordinates, and the scan finds its colour bytes at a fixed
place of the planes, whatever the states do.
-/

namespace Rpi3Device.PlaneScan

structure Cursor where
  Y : ℕ
  U : ℕ
  V : ℕ
deriving DecidableEq

structure Visit (α : Type*) where
  x : ℕ
  y : ℕ
  cursor : Cursor
  value : α
deriving DecidableEq

def Cursor.next (step : ℕ) (c : Cursor) : Cursor := ⟨c.Y + 2, c.U + step, c.V + step⟩

section Scan
variable {α τ ρ : Type*}

def scanRow (pixel : τ → α × τ) (step y : ℕ) : ℕ → ℕ → Cursor → τ → List (Visit α) × Cursor
  | 0, _, c, _ => ([], c)
  | n + 1, x, c, t =>
    let rest := scanRow pixel step y n (x + 2) (c.next step) (pixel t).2
    (⟨x, y, c, (pixel t).1⟩ :: rest.1, rest.2)

def scanRows (enter : ρ → τ) (leave : ρ → ρ) (pixel : τ → α × τ) (step pairs : ℕ) :
    ℕ → ℕ → Cursor → Cursor → ρ → List (Visit α)
  | 0, _, _, _, _ => []
  | rows + 1, y, c, home, r =>
    let row := scanRow pixel step y pairs 0 c (enter r)
    row.1 ++
      if y % 2 = 1 then scanRows enter leave pixel step pairs rows (y + 1) row.2 row.2 (leave r)
      else
        scanRows enter leave pixel step pairs rows (y + 1) ⟨row.2.Y, home.U, home.V⟩ home (leave r)

def Visit.Located (v : Visit α) (U V step pairs : ℕ) : Prop :=
  v.cursor.U = U + (v.y / 2 * pairs + v.x / 2) * step ∧
    v.cursor.V = V + (v.y / 2 * pairs + v.x / 2) * step

variable {pixel : τ → α × τ} {step y : ℕ}

theorem scanRow_cursor (n x : ℕ) (c : Cursor) (t : τ) :
    (scanRow pixel step y n x c t).2 = ⟨c.Y + 2 * n, c.U + n * step, c.V + n * step⟩ := by
  induction n generalizing x c t with
  | zero => simp [scanRow]
  | succ n ih =>
    simp only [scanRow, ih, Cursor.next, Cursor.mk.injEq]
    refine ⟨by omega, by ring, by ring⟩

theorem mem_scanRow {n x : ℕ} {c : Cursor} {t : τ} {v : Visit α}
    (h : v ∈ (scanRow pixel step y n x c t).1) :
    ∃ k < n, v.x = x + 2 * k ∧ v.y = y ∧ v.cursor.U = c.U + k * step ∧
      v.cursor.V = c.V + k * step := by
  induction n generalizing x c t with
  | zero => simp [scanRow] at h
  | succ n ih =>
    rcases List.mem_cons.mp h with rfl | hrest
    · exact ⟨0, Nat.succ_pos n, by simp, rfl, by simp, by simp⟩
    · obtain ⟨k, hk, hx, hy, hU, hV⟩ := ih hrest
      refine ⟨k + 1, Nat.succ_lt_succ hk, by omega, hy, ?_, ?_⟩
      · rw [hU, Cursor.next]
        ring
      · rw [hV, Cursor.next]
        ring

theorem exists_mem_scanRow {n k : ℕ} (hk : k < n) (x : ℕ) (c : Cursor) (t : τ) :
    ∃ v ∈ (scanRow pixel step y n x c t).1, v.x = x + 2 * k ∧ v.y = y := by
  induction n generalizing k x c t with
  | zero => exact absurd hk (Nat.not_lt_zero k)
  | succ n ih =>
    cases k with
    | zero => exact ⟨⟨x, y, c, (pixel t).1⟩, List.mem_cons_self .., rfl, rfl⟩
    | succ k =>
      obtain ⟨v, hv, hx, hy⟩ := ih (Nat.lt_of_succ_lt_succ hk) (x + 2) (c.next step) (pixel t).2
      exact ⟨v, List.mem_cons_of_mem _ hv, by omega, hy⟩

variable {enter : ρ → τ} {leave : ρ → ρ} {pairs : ℕ}

structure AtRow (U V step pairs y : ℕ) (c : Cursor) : Prop where
  U : c.U = U + y / 2 * pairs * step
  V : c.V = V + y / 2 * pairs * step

theorem AtRow.row_located {U V : ℕ} {c : Cursor} (hc : AtRow U V step pairs y c) {t : τ}
    {v : Visit α} (h : v ∈ (scanRow pixel step y pairs 0 c t).1) :
    v.Located U V step pairs ∧ v.y = y ∧ v.x < 2 * pairs := by
  obtain ⟨k, hk, hx, hy, hU, hV⟩ := mem_scanRow h
  have hhalf : v.x / 2 = k := by omega
  refine ⟨⟨?_, ?_⟩, hy, by omega⟩
  · rw [hU, hc.U, hy, hhalf]
    ring
  · rw [hV, hc.V, hy, hhalf]
    ring

theorem AtRow.next {U V : ℕ} {c home : Cursor} (hc : AtRow U V step pairs y c)
    (hhome : AtRow U V step pairs y home) (t : τ) :
    let e := (scanRow pixel step y pairs 0 c t).2
    (y % 2 = 1 → AtRow U V step pairs (y + 1) e) ∧
      (¬ y % 2 = 1 → AtRow U V step pairs (y + 1) ⟨e.Y, home.U, home.V⟩ ∧
        AtRow U V step pairs (y + 1) home) := by
  simp only [scanRow_cursor]
  constructor
  · intro hodd
    have hhalf : (y + 1) / 2 = y / 2 + 1 := by omega
    constructor
    · simp only [hc.U, hhalf]
      ring
    · simp only [hc.V, hhalf]
      ring
  · intro heven
    have hhalf : (y + 1) / 2 = y / 2 := by omega
    have hnext : AtRow U V step pairs (y + 1) home := by
      constructor
      · rw [hhome.U, hhalf]
      · rw [hhome.V, hhalf]
    exact ⟨⟨hnext.U, hnext.V⟩, hnext⟩

theorem mem_scanRows {U V rows : ℕ} {c home : Cursor} {r : ρ} (hc : AtRow U V step pairs y c)
    (hhome : AtRow U V step pairs y home) {v : Visit α}
    (h : v ∈ scanRows enter leave pixel step pairs rows y c home r) :
    v.Located U V step pairs ∧ v.y < y + rows ∧ v.x < 2 * pairs := by
  induction rows generalizing y c home r with
  | zero => simp [scanRows] at h
  | succ rows ih =>
    obtain ⟨hodd, heven⟩ := hc.next hhome (enter r)
    rcases List.mem_append.mp h with hrow | hrest
    · obtain ⟨hlocated, hy, hx⟩ := hc.row_located hrow
      exact ⟨hlocated, by omega, hx⟩
    · split_ifs at hrest with hparity
      · obtain ⟨hlocated, hy, hx⟩ := ih (hodd hparity) (hodd hparity) hrest
        exact ⟨hlocated, by omega, hx⟩
      · obtain ⟨hlocated, hy, hx⟩ := ih (heven hparity).1 (heven hparity).2 hrest
        exact ⟨hlocated, by omega, hx⟩

theorem exists_mem_scanRows {rows k row : ℕ} (hk : k < pairs) (hrow : row < rows) (c home : Cursor)
    (r : ρ) :
    ∃ v ∈ scanRows enter leave pixel step pairs rows y c home r,
      v.x = 2 * k ∧ v.y = y + row := by
  induction rows generalizing y row c home r with
  | zero => exact absurd hrow (Nat.not_lt_zero row)
  | succ rows ih =>
    cases row with
    | zero =>
      obtain ⟨v, hv, hx, hy⟩ := @exists_mem_scanRow α τ pixel step y _ k hk 0 c (enter r)
      exact ⟨v, List.mem_append_left _ hv, by omega, hy⟩
    | succ row =>
      have hrow := Nat.lt_of_succ_lt_succ hrow
      simp only [scanRows]
      split_ifs with hparity
      · obtain ⟨v, hv, hx, hy⟩ := @ih (y + 1) row hrow _ _ (leave r)
        exact ⟨v, List.mem_append_right _ hv, hx, by omega⟩
      · obtain ⟨v, hv, hx, hy⟩ := @ih (y + 1) row hrow _ _ (leave r)
        exact ⟨v, List.mem_append_right _ hv, hx, by omega⟩

theorem scanRow_luma {n x : ℕ} {c : Cursor} {t : τ} {v : Visit α}
    (h : v ∈ (scanRow pixel step y n x c t).1) : v.cursor.Y + x = c.Y + v.x := by
  induction n generalizing x c t with
  | zero => simp [scanRow] at h
  | succ n ih =>
    rcases List.mem_cons.mp h with rfl | hrest
    · rfl
    · have hnext := ih hrest
      simp only [Cursor.next] at hnext
      omega

theorem scanRows_luma {rows : ℕ} {c home : Cursor} {r : ρ} {v : Visit α}
    (h : v ∈ scanRows enter leave pixel step pairs rows y c home r) :
    v.cursor.Y + y * (2 * pairs) = c.Y + v.y * (2 * pairs) + v.x := by
  induction rows generalizing y c home r with
  | zero => simp [scanRows] at h
  | succ rows ih =>
    rcases List.mem_append.mp h with hrow | hrest
    · have hluma := scanRow_luma hrow
      obtain ⟨k, hk, hx, hy, -⟩ := mem_scanRow hrow
      rw [hy]
      omega
    · split_ifs at hrest with hparity
      · have hluma := ih hrest
        rw [scanRow_cursor, Nat.succ_mul] at hluma
        dsimp only at hluma
        omega
      · have hluma := ih hrest
        rw [scanRow_cursor, Nat.succ_mul] at hluma
        dsimp only at hluma
        omega

end Scan

section Plain
variable {ρ : Type*} {enter : ρ → Unit} {leave : ρ → ρ} {step y pairs Y U V : ℕ}

/-- The visit to the pair `k` of the row `y`. -/
def placed (Y U V step pairs y k : ℕ) : Visit Unit :=
  ⟨2 * k, y, ⟨Y + y * (2 * pairs) + 2 * k, U + (y / 2 * pairs + k) * step,
    V + (y / 2 * pairs + k) * step⟩, ()⟩

theorem scanRow_plain (n x : ℕ) (c : Cursor) :
    (scanRow (fun _ : Unit => ((), ())) step y n x c ()).1 =
      (List.range n).map fun k =>
        ⟨x + 2 * k, y, ⟨c.Y + 2 * k, c.U + k * step, c.V + k * step⟩, ()⟩ := by
  induction n generalizing x c with
  | zero => rfl
  | succ n ih =>
    simp only [scanRow, ih, List.range_succ_eq_map, List.map_cons, List.map_map]
    congr 1
    · simp
    · refine List.map_congr_left fun k _ => ?_
      simp only [Function.comp, Cursor.next, Visit.mk.injEq, Cursor.mk.injEq, true_and, and_true]
      refine ⟨by omega, by omega, by rw [Nat.succ_eq_add_one]; ring, ?_⟩
      rw [Nat.succ_eq_add_one]
      ring

theorem AtRow.row_placed {c : Cursor} (hc : AtRow U V step pairs y c)
    (hY : c.Y = Y + y * (2 * pairs)) :
    (scanRow (fun _ : Unit => ((), ())) step y pairs 0 c ()).1 =
      (List.range pairs).map (placed Y U V step pairs y) := by
  rw [scanRow_plain]
  refine List.map_congr_left fun k _ => ?_
  simp only [placed, hY, hc.U, hc.V, Visit.mk.injEq, Cursor.mk.injEq, true_and, and_true]
  refine ⟨by omega, by ring, by ring⟩

theorem scanRows_plain {rows : ℕ} {c home : Cursor} {r : ρ} (hc : AtRow U V step pairs y c)
    (hhome : AtRow U V step pairs y home) (hY : c.Y = Y + y * (2 * pairs)) :
    scanRows enter leave (fun _ : Unit => ((), ())) step pairs rows y c home r =
      (List.range' y rows).flatMap fun y => (List.range pairs).map (placed Y U V step pairs y) := by
  induction rows generalizing y c home r with
  | zero => rfl
  | succ rows ih =>
    obtain ⟨hodd, heven⟩ :=
      @AtRow.next Unit Unit (fun _ => ((), ())) step y pairs U V c home hc hhome (enter r)
    have hend : (scanRow (fun _ : Unit => ((), ())) step y pairs 0 c (enter r)).2.Y =
        Y + (y + 1) * (2 * pairs) := by
      rw [scanRow_cursor, hY]
      ring
    simp only [scanRows, List.range'_succ, List.flatMap_cons]
    rw [hc.row_placed hY]
    congr 1
    split_ifs with hparity
    · exact ih (hodd hparity) (hodd hparity) hend
    · exact ih (heven hparity).1 (heven hparity).2 hend

end Plain

section Raster
variable {α : Type*}

def raster (w h : ℕ) (p : ℕ → ℕ → α) : List α :=
  (List.range h).flatMap fun y => (List.range w).map fun x => p x y

theorem raster_succ (w h : ℕ) (p : ℕ → ℕ → α) :
    raster w (h + 1) p = raster w h p ++ (List.range w).map fun x => p x h := by
  simp [raster, List.range_succ]

@[simp] theorem length_raster (w h : ℕ) (p : ℕ → ℕ → α) : (raster w h p).length = h * w := by
  induction h with
  | zero => simp [raster]
  | succ h ih => simp [raster_succ, ih, Nat.succ_mul]

theorem getElem?_raster {w h : ℕ} (p : ℕ → ℕ → α) {x y : ℕ} (hx : x < w) (hy : y < h) :
    (raster w h p)[y * w + x]? = some (p x y) := by
  induction h with
  | zero => omega
  | succ h ih =>
    rw [raster_succ]
    rcases Nat.lt_succ_iff_lt_or_eq.mp hy with hlt | heq
    · have hbound : y * w + x < h * w := by nlinarith
      rw [List.getElem?_append_left (by simpa using hbound), ih hlt]
    · subst heq
      rw [List.getElem?_append_right (by simp)]
      simp [hx]

theorem raster_congr {w h : ℕ} {p q : ℕ → ℕ → α} (hpq : ∀ x y, x < w → y < h → p x y = q x y) :
    raster w h p = raster w h q := by
  refine List.flatMap_congr fun y hy => List.map_congr_left fun x hx => ?_
  exact hpq x y (List.mem_range.mp hx) (List.mem_range.mp hy)

theorem flatMap_pairs (n : ℕ) (f : ℕ → α) :
    ((List.range n).flatMap fun k => [f (2 * k), f (2 * k + 1)]) =
      (List.range (2 * n)).map f := by
  induction n with
  | zero => rfl
  | succ n ih =>
    rw [List.range_succ, List.flatMap_append, ih, Nat.mul_succ, List.range_succ, List.range_succ]
    simp

end Raster

def SameBlock {α β : Type*} (v : Visit α) (w : Visit β) : Prop :=
  v.x / 2 = w.x / 2 ∧ v.y / 2 = w.y / 2

instance {α β : Type*} (v : Visit α) (w : Visit β) : Decidable (SameBlock v w) :=
  inferInstanceAs (Decidable (_ ∧ _))

theorem Visit.Located.same_bytes {α β : Type*} {v : Visit α} {w : Visit β} {U V step pairs : ℕ}
    (hv : v.Located U V step pairs) (hw : w.Located U V step pairs) (hblock : SameBlock v w) :
    v.cursor.U = w.cursor.U ∧ v.cursor.V = w.cursor.V := by
  obtain ⟨hx, hy⟩ := hblock
  rw [hv.1, hv.2, hw.1, hw.2, hx, hy]
  exact ⟨rfl, rfl⟩

end Rpi3Device.PlaneScan
