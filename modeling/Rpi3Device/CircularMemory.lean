import Rpi3Device.ByteMemory

/-!
# Byte ranges that wrap around

The first `n` bytes of a memory are used in a circle: a range that starts at a position
below `n` and passes the end goes on at the front. A range is written and read in one or
two pieces. Positions are counted on without bound and taken modulo `n` only to address
the memory.
-/

namespace Rpi3Device.CircularMemory
open ByteMemory

def storeWrapped (n : ℕ) (m : Memory) (index : ℕ) (bs : List UInt8) : Memory :=
  if index + bs.length ≤ n then store m index bs
  else store (store m index (bs.take (n - index))) 0 (bs.drop (n - index))

def loadWrapped (n : ℕ) (m : Memory) (index len : ℕ) : List UInt8 :=
  if index + len ≤ n then load m index len
  else load m index (n - index) ++ load m 0 (len - (n - index))

/-- The bytes lie in the circle from position `start` on. -/
def HoldsFrom (n : ℕ) (m : Memory) (start : ℕ) (bs : List UInt8) : Prop :=
  ∀ k (hk : k < bs.length), m ((start + k) % n) = bs[k]

variable {n index start k : ℕ} {m : Memory} {as bs : List UInt8}

theorem wrap_eq (hindex : index < n) (hk : k < n) :
    (index + k) % n = if index + k < n then index + k else index + k - n := by
  by_cases hlt : index + k < n
  · rw [if_pos hlt, Nat.mod_eq_of_lt hlt]
  · rw [if_neg hlt, Nat.mod_eq_sub_mod (not_lt.mp hlt), Nat.mod_eq_of_lt (by omega)]

theorem storeWrapped_at (m : Memory) (hindex : index < n) (hlen : bs.length ≤ n) (hk : k < n) :
    storeWrapped n m index bs ((index + k) % n) = bs[k]?.getD (m ((index + k) % n)) := by
  rw [wrap_eq hindex hk]
  by_cases hfits : index + bs.length ≤ n
  · simp only [storeWrapped, if_pos hfits, store]
    by_cases hlt : index + k < n
    · rw [if_pos hlt, if_pos (Nat.le_add_right _ _), Nat.add_sub_cancel_left]
    · rw [if_neg hlt, if_neg (by omega), List.getElem?_eq_none (by omega), Option.getD_none]
  · simp only [storeWrapped, if_neg hfits, store, Nat.zero_le, if_true, Nat.sub_zero]
    by_cases hlt : index + k < n
    · have hfront : (bs.drop (n - index))[index + k]? = none := by
        rw [List.getElem?_drop]
        exact List.getElem?_eq_none (by omega)
      rw [if_pos hlt, hfront, Option.getD_none, if_pos (Nat.le_add_right _ _),
        Nat.add_sub_cancel_left, List.getElem?_take_of_lt (by omega)]
    · have hsum : n - index + (index + k - n) = k := by omega
      rw [if_neg hlt, List.getElem?_drop, hsum, if_neg (by omega)]

theorem holdsFrom_storeWrapped (m : Memory) (hn : 0 < n) (hlen : bs.length ≤ n) :
    HoldsFrom n (storeWrapped n m (start % n) bs) start bs := by
  intro k hk
  have hat := storeWrapped_at m (Nat.mod_lt start hn) hlen (lt_of_lt_of_le hk hlen)
  rw [Nat.mod_add_mod] at hat
  rw [hat, List.getElem?_eq_getElem hk, Option.getD_some]

theorem HoldsFrom.storeWrapped (h : HoldsFrom n m start as) (hn : 0 < n)
    (hlen : as.length + bs.length ≤ n) :
    HoldsFrom n (storeWrapped n m ((start + as.length) % n) bs) start as := by
  intro k hk
  have hposition : (start + k) % n =
      ((start + as.length) % n + (n - as.length + k)) % n := by
    rw [Nat.mod_add_mod]
    have hsum : start + as.length + (n - as.length + k) = start + k + n := by omega
    rw [hsum, Nat.add_mod_right]
  rw [hposition, storeWrapped_at m (Nat.mod_lt _ hn) (by omega) (by omega), ← hposition,
    List.getElem?_eq_none (by omega), Option.getD_none]
  exact h k hk

theorem holdsFrom_append : HoldsFrom n m start (as ++ bs) ↔
    HoldsFrom n m start as ∧ HoldsFrom n m (start + as.length) bs := by
  constructor
  · intro h
    constructor
    · intro k hk
      rw [h k (by simp; omega), List.getElem_append_left hk]
    · intro k hk
      rw [Nat.add_assoc, h (as.length + k) (by simp; omega)]
      simp
  · intro hparts k hk
    obtain ⟨has, hbs⟩ := hparts
    rw [List.getElem_append]
    split
    · rename_i hlt
      exact has k hlt
    · rename_i hle
      have hback := hbs (k - as.length) (by simp at hk; omega)
      rwa [Nat.add_assoc, Nat.add_sub_of_le (not_lt.mp hle)] at hback

theorem HoldsFrom.load_eq (h : HoldsFrom n m start bs) (hn : 0 < n) (hlen : bs.length ≤ n) :
    loadWrapped n m (start % n) bs.length = bs := by
  have hindex := Nat.mod_lt start hn
  have hbyte (k : ℕ) (hk : k < bs.length) : m ((start % n + k) % n) = bs[k] := by
    rw [Nat.mod_add_mod]
    exact h k hk
  unfold loadWrapped
  split
  · apply List.ext_getElem (by simp)
    intro k hk hk'
    rw [load_getElem, ← hbyte k hk', wrap_eq hindex (by omega), if_pos (by omega)]
  · rename_i hlong
    apply List.ext_getElem (by simp; omega)
    intro k hk hk'
    rw [← hbyte k hk', wrap_eq hindex (by omega), List.getElem_append]
    split
    · rename_i hfirst
      rw [load_length] at hfirst
      rw [load_getElem, if_pos (by omega)]
    · rename_i hsecond
      rw [load_length] at hsecond
      rw [load_getElem, if_neg (by omega), load_length]
      congr 1
      omega

end Rpi3Device.CircularMemory
