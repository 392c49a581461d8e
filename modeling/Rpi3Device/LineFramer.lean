import Mathlib.Data.List.DropRight
import Rpi3Device.TransitionSystem

/-!
# Lines cut from a stream by a buffer of bounded length

The framer collects symbols up to a newline and emits what it holds. When the
buffer is full, the next symbol is not stored: it only starts a mode in which
everything up to a newline is dropped. That symbol is not examined, so if it is
itself the newline of a line that fills the buffer exactly, the line after it is
dropped in place of nothing.

A stream is seen through its lines: `emitted_eq` replaces the symbols by a scan
of the lines in which only the mode is left, and `dropsAfter_iff` says which mode
the scan is in.
-/

namespace Rpi3Device.LineFramer
open TransitionSystem

structure Framer (α : Type*) where
  dropping : Bool
  held : List α

variable {α : Type*} (newline : α) (limit : ℕ)

def step [DecidableEq α] (f : Framer α) (c : α) : Framer α × Option (List α) :=
  if f.dropping then ({ f with dropping := c ≠ newline }, none)
  else if limit ≤ f.held.length then (⟨true, []⟩, none)
  else if c = newline then (⟨false, []⟩, some (f.held ++ [c]))
  else (⟨false, f.held ++ [c]⟩, none)

def emitted [DecidableEq α] : Framer α → List α → List (List α)
  | _, [] => []
  | f, c :: cs => (step newline limit f c).2.toList ++ emitted (step newline limit f c).1 cs

theorem step_held [DecidableEq α] {f : Framer α} (hf : f.held.length ≤ limit) (c : α) :
    (step newline limit f c).1.held.length ≤ limit := by
  unfold step
  split
  · exact hf
  · split
    · exact limit.zero_le
    · rename_i hroom
      split
      · exact limit.zero_le
      · simp only [List.length_append, List.length_singleton]
        omega

def within (dropping : Bool) (p : List α) : Framer α :=
  if dropping ∨ limit < p.length then ⟨true, []⟩ else ⟨false, p⟩

theorem within_nil (dropping : Bool) : within limit dropping ([] : List α) = ⟨dropping, []⟩ := by
  cases dropping <;> simp [within]

def dropsNext (dropping : Bool) (l : List α) : Bool := !dropping && l.length = limit

def keeps (dropping : Bool) (l : List α) : Option (List α) :=
  if dropping = false ∧ l.length < limit then some (l ++ [newline]) else none

def kept (dropping : Bool) : List (List α) → List (List α)
  | [] => []
  | l :: ls => (keeps newline limit dropping l).toList ++ kept (dropsNext limit dropping l) ls

section Stream
variable [DecidableEq α]

theorem step_within (dropping : Bool) (p : List α) {c : α} (hc : c ≠ newline) :
    step newline limit (within limit dropping p) c =
      (within limit dropping (p ++ [c]), none) := by
  have hlen : (p ++ [c]).length = p.length + 1 := by simp
  by_cases hdrop : dropping ∨ limit < p.length
  · have hdrop' : dropping ∨ limit < (p ++ [c]).length := hdrop.imp_right fun h => by omega
    simp only [step, within, if_pos hdrop, if_pos hdrop', if_true, hc, ne_eq, not_false_eq_true,
      decide_true]
  · have hfull : (dropping ∨ limit < (p ++ [c]).length) ↔ limit ≤ p.length := by
      constructor
      · intro h
        have := h.resolve_left fun h => hdrop (Or.inl h)
        omega
      · intro h
        exact Or.inr (by omega)
    simp only [step, within, if_neg hdrop, hfull, Bool.false_eq_true, if_false, if_neg hc]
    split <;> rfl

theorem step_newline (dropping : Bool) (p : List α) :
    step newline limit (within limit dropping p) newline =
      (⟨dropsNext limit dropping p, []⟩, keeps newline limit dropping p) := by
  cases dropping with
  | true => simp [step, within, dropsNext, keeps]
  | false =>
    rcases lt_trichotomy p.length limit with hlt | heq | hgt
    · simp [step, within, dropsNext, keeps, hlt, hlt.ne, hlt.not_ge, hlt.not_gt]
    · simp [step, within, dropsNext, keeps, heq]
    · simp [step, within, dropsNext, keeps, hgt, hgt.ne', hgt.not_gt]

theorem emitted_open (dropping : Bool) (p : List α) {q : List α} (hq : newline ∉ q) :
    emitted newline limit (within limit dropping p) q = [] := by
  induction q generalizing p with
  | nil => rfl
  | cons c q ih =>
    obtain ⟨hc, hq⟩ := not_or.mp (List.mem_cons.not.mp hq)
    rw [emitted, step_within newline limit dropping p (Ne.symm hc)]
    exact ih (p ++ [c]) hq

theorem emitted_line (dropping : Bool) (p : List α) {q : List α} (hq : newline ∉ q)
    (rest : List α) :
    emitted newline limit (within limit dropping p) (q ++ newline :: rest) =
      (keeps newline limit dropping (p ++ q)).toList ++
        emitted newline limit ⟨dropsNext limit dropping (p ++ q), []⟩ rest := by
  induction q generalizing p with
  | nil => simp only [List.nil_append, emitted, step_newline, List.append_nil]
  | cons c q ih =>
    obtain ⟨hc, hq⟩ := not_or.mp (List.mem_cons.not.mp hq)
    rw [List.cons_append, emitted, step_within newline limit dropping p (Ne.symm hc)]
    simpa using ih (p ++ [c]) hq

def lines (s : List α) : List (List α) := (s.splitOn newline).dropLast

theorem not_mem_of_mem_splitOn {s l : List α} (hl : l ∈ s.splitOn newline) : newline ∉ l := by
  induction s generalizing l with
  | nil =>
    rw [List.splitOn_nil, List.mem_singleton] at hl
    simp [hl]
  | cons c s ih =>
    rw [List.splitOn_cons_eq_if_modifyHead] at hl
    split at hl
    · rcases List.mem_cons.mp hl with rfl | hl
      · simp
      · exact ih hl
    · rename_i hc
      obtain ⟨first, others, hsplit⟩ :=
        List.exists_cons_of_ne_nil (List.splitOn_ne_nil newline s)
      rw [hsplit] at hl ih
      rcases List.mem_cons.mp hl with rfl | hl
      · have hfirst : newline ∉ first := ih List.mem_cons_self
        rw [beq_iff_eq] at hc
        exact List.mem_cons.not.mpr (not_or.mpr ⟨Ne.symm hc, hfirst⟩)
      · exact ih (List.mem_cons_of_mem first hl)

theorem emitted_intercalate (dropping : Bool) {fields : List (List α)}
    (hfree : ∀ l ∈ fields, newline ∉ l) :
    emitted newline limit ⟨dropping, []⟩ ([newline].intercalate fields) =
      kept newline limit dropping fields.dropLast := by
  induction fields generalizing dropping with
  | nil => rfl
  | cons l fields ih =>
    rw [List.forall_mem_cons] at hfree
    rw [← within_nil limit dropping]
    cases fields with
    | nil => simpa [kept] using emitted_open newline limit dropping [] hfree.1
    | cons m fields =>
      have hline := emitted_line newline limit dropping [] hfree.1
        ([newline].intercalate (m :: fields))
      rw [List.nil_append, ih _ hfree.2] at hline
      simpa [List.intercalate, kept] using hline

theorem emitted_eq (s : List α) :
    emitted newline limit ⟨false, []⟩ s = kept newline limit false (lines newline s) := by
  have hrun := emitted_intercalate newline limit false
    fun l (hl : l ∈ s.splitOn newline) => not_mem_of_mem_splitOn newline hl
  rwa [List.intercalate_splitOn] at hrun

end Stream

/-- How many lines that fill the buffer exactly stand at the end of `ls`. -/
def brimful (ls : List (List α)) : ℕ := (ls.rtakeWhile fun l => l.length = limit).length

def dropsAfter (ls : List (List α)) : Bool := ls.foldl (dropsNext limit) false

theorem dropsAfter_iff (ls : List (List α)) :
    dropsAfter limit ls = true ↔ ¬ Even (brimful limit ls) := by
  induction ls using List.reverseRecOn with
  | nil => simp [dropsAfter, brimful]
  | append_singleton ls l ih =>
    have hlast : dropsAfter limit (ls ++ [l]) = dropsNext limit (dropsAfter limit ls) l := by
      simp [dropsAfter]
    rw [hlast]
    by_cases hl : l.length = limit
    · have hrun : brimful limit (ls ++ [l]) = brimful limit ls + 1 := by
        simp [brimful, List.rtakeWhile_concat_pos, hl]
      rw [hrun, Nat.even_add_one, not_not, ← not_iff_not, ← ih]
      simp [dropsNext, hl]
    · have hrun : brimful limit (ls ++ [l]) = 0 := by
        simp [brimful, List.rtakeWhile_concat_neg, hl]
      simp [hrun, dropsNext, hl]

theorem kept_append (dropping : Bool) (ls ms : List (List α)) :
    kept newline limit dropping (ls ++ ms) =
      kept newline limit dropping ls ++
        kept newline limit (ls.foldl (dropsNext limit) dropping) ms := by
  induction ls generalizing dropping with
  | nil => rfl
  | cons l ls ih => simp only [List.cons_append, kept, ih, List.append_assoc, List.foldl_cons]

theorem kept_concat (ls : List (List α)) (l : List α) :
    kept newline limit false (ls ++ [l]) =
      kept newline limit false ls ++ (keeps newline limit (dropsAfter limit ls) l).toList := by
  rw [kept_append]
  simp [kept, dropsAfter]

def wholeLines (ls : List (List α)) : List (List α) :=
  (ls.filter fun l => l.length < limit).map (· ++ [newline])

theorem wholeLines_concat (ls : List (List α)) (l : List α) :
    wholeLines newline limit (ls ++ [l]) =
      wholeLines newline limit ls ++ (keeps newline limit false l).toList := by
  by_cases hl : l.length < limit
  · simp [wholeLines, keeps, hl]
  · simp [wholeLines, keeps, hl]

theorem kept_length_le (ls : List (List α)) :
    (kept newline limit false ls).length ≤ (wholeLines newline limit ls).length := by
  induction ls using List.reverseRecOn with
  | nil => exact le_rfl
  | append_singleton ls l ih =>
    rw [kept_concat, wholeLines_concat, List.length_append, List.length_append]
    refine Nat.add_le_add ih ?_
    unfold keeps
    by_cases hl : l.length < limit
    · simp only [hl, and_true, if_true, Option.toList_some, List.length_singleton]
      split <;> simp
    · simp [hl]

/-- A line that fits follows an even number of lines that fill the buffer exactly. -/
def Reached (before : List (List α)) (l : List α) : Prop :=
  l.length < limit → Even (brimful limit before)

theorem kept_eq_iff (ls : List (List α)) :
    kept newline limit false ls = wholeLines newline limit ls ↔ Justified (Reached limit) ls := by
  induction ls using List.reverseRecOn with
  | nil => exact iff_of_true rfl (justified_nil _)
  | append_singleton ls l ih =>
    rw [kept_concat, wholeLines_concat, justified_snoc, ← ih]
    by_cases hl : l.length < limit
    · cases hmode : dropsAfter limit ls with
      | false =>
        have heven : Reached limit ls l := by
          intro _
          by_contra hodd
          simp [(dropsAfter_iff limit ls).mpr hodd] at hmode
        simp [heven]
      | true =>
        have hodd : ¬ Reached limit ls l := fun h => (dropsAfter_iff limit ls).mp hmode (h hl)
        refine iff_of_false (fun heq => ?_) fun h => hodd h.2
        have hlen := congrArg List.length heq
        have hle := kept_length_le newline limit ls
        simp [keeps, hl] at hlen
        omega
    · have hreached : Reached limit ls l := fun h => absurd h hl
      simp [keeps, hl, hreached]

end Rpi3Device.LineFramer
