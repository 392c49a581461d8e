import Mathlib.Tactic

/-!
# Ring buffers with one unused slot

A ring of size `n` takes elements at its tail and gives them up at its head. It is
empty when the two indices meet and full when one more step of the tail would make
them meet, so it holds at most `n - 1` elements. `Represents` relates a ring to the
list it stands for, oldest element first.
-/

namespace Rpi3Device.RingBuffer

structure RingQueue (α : Type*) where
  slots : Nat → Option α
  head : Nat
  tail : Nat

variable {α : Type*} {n : Nat} {r : RingQueue α} {x : α} {xs : List α}

def RingQueue.empty : RingQueue α := ⟨fun _ => none, 0, 0⟩

def RingQueue.hasRoom (n : Nat) (r : RingQueue α) : Prop := (r.tail + 1) % n ≠ r.head

instance (n : Nat) (r : RingQueue α) : Decidable (r.hasRoom n) :=
  inferInstanceAs (Decidable (¬ _ = _))

def RingQueue.push (n : Nat) (r : RingQueue α) (x : α) : RingQueue α where
  slots := Function.update r.slots r.tail (some x)
  head := r.head
  tail := (r.tail + 1) % n

def RingQueue.advance (n : Nat) (r : RingQueue α) : RingQueue α where
  slots := Function.update r.slots r.head none
  head := (r.head + 1) % n
  tail := r.tail

structure Represents (n : Nat) (r : RingQueue α) (xs : List α) : Prop where
  head_lt : r.head < n
  length_lt : xs.length < n
  tail_eq : r.tail = (r.head + xs.length) % n
  slots_eq : ∀ i < xs.length, r.slots ((r.head + i) % n) = xs[i]?

theorem represents_empty (hn : 0 < n) : Represents n (RingQueue.empty : RingQueue α) [] :=
  ⟨hn, hn, by simp [RingQueue.empty], by simp⟩

theorem Represents.tail_lt (h : Represents n r xs) : r.tail < n := by
  rw [h.tail_eq]
  exact Nat.mod_lt _ (Nat.zero_lt_of_lt h.head_lt)

theorem offset_injective {a i j : Nat} (hi : i < n) (hj : j < n)
    (h : (a + i) % n = (a + j) % n) : i = j := by
  have hmod : i ≡ j [MOD n] := Nat.ModEq.add_left_cancel' a h
  rwa [Nat.ModEq, Nat.mod_eq_of_lt hi, Nat.mod_eq_of_lt hj] at hmod

theorem Represents.empty_iff (h : Represents n r xs) : r.head = r.tail ↔ xs = [] := by
  rw [h.tail_eq]
  constructor
  · intro heq
    have hzero : (r.head + 0) % n = (r.head + xs.length) % n := by
      rwa [Nat.add_zero, Nat.mod_eq_of_lt h.head_lt]
    have hlength := offset_injective (Nat.zero_lt_of_lt h.head_lt) h.length_lt hzero
    exact List.length_eq_zero_iff.mp hlength.symm
  · intro hsame
    obtain rfl := hsame
    exact (Nat.mod_eq_of_lt h.head_lt).symm

theorem Represents.hasRoom_iff (h : Represents n r xs) :
    r.hasRoom n ↔ xs.length + 1 < n := by
  have hnext : (r.tail + 1) % n = (r.head + (xs.length + 1)) % n := by
    rw [h.tail_eq, Nat.mod_add_mod, Nat.add_assoc]
  have hhead : (r.head + 0) % n = r.head := by
    rw [Nat.add_zero, Nat.mod_eq_of_lt h.head_lt]
  rw [RingQueue.hasRoom, hnext]
  constructor
  · intro hne
    by_contra hfull
    have hn : xs.length + 1 = n := by
      have := h.length_lt
      omega
    apply hne
    rw [hn, Nat.add_mod_right, Nat.mod_eq_of_lt h.head_lt]
  · intro hlt heq
    rw [← hhead, Nat.mod_add_mod] at heq
    have := offset_injective hlt (Nat.zero_lt_of_lt h.head_lt) (by simpa using heq)
    omega

theorem Represents.push (h : Represents n r xs) (hroom : r.hasRoom n) (x : α) :
    Represents n (r.push n x) (xs ++ [x]) := by
  have hlength := h.hasRoom_iff.mp hroom
  refine ⟨h.head_lt, by simpa using hlength, ?_, fun i hi => ?_⟩
  · simp only [RingQueue.push, h.tail_eq, List.length_append, List.length_singleton]
    rw [Nat.mod_add_mod, Nat.add_assoc]
  · simp only [RingQueue.push, List.length_append, List.length_singleton] at hi ⊢
    by_cases hlast : i = xs.length
    · subst hlast
      rw [h.tail_eq, Function.update_self]
      simp
    · have hbefore : i < xs.length := by omega
      have hne : (r.head + i) % n ≠ r.tail := by
        rw [h.tail_eq]
        intro heq
        exact hlast (offset_injective (hbefore.trans h.length_lt) h.length_lt heq)
      rw [Function.update_of_ne hne, h.slots_eq i hbefore, List.getElem?_append_left hbefore]

theorem Represents.head_eq (h : Represents n r (x :: xs)) : r.slots r.head = some x := by
  have hslot := h.slots_eq 0 (by simp)
  rwa [Nat.add_zero, Nat.mod_eq_of_lt h.head_lt] at hslot

theorem Represents.advance (h : Represents n r (x :: xs)) : Represents n (r.advance n) xs := by
  have hlength : xs.length + 1 < n := by simpa using h.length_lt
  refine ⟨Nat.mod_lt _ (by omega), by omega, ?_, fun i hi => ?_⟩
  · simp only [RingQueue.advance, h.tail_eq, List.length_cons]
    rw [Nat.mod_add_mod, Nat.add_assoc, Nat.add_comm 1]
  · simp only [RingQueue.advance]
    rw [Nat.mod_add_mod, Nat.add_assoc, Nat.add_comm 1]
    have hne : (r.head + (i + 1)) % n ≠ r.head := by
      intro heq
      have hzero : (r.head + (i + 1)) % n = (r.head + 0) % n := by
        rw [heq, Nat.add_zero, Nat.mod_eq_of_lt h.head_lt]
      have := offset_injective (by omega) (by omega) hzero
      omega
    rw [Function.update_of_ne hne, h.slots_eq (i + 1) (by simpa using hi)]
    simp

end Rpi3Device.RingBuffer
