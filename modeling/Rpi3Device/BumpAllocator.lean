import Mathlib.Tactic

/-!
# Allocation of consecutive numbers to keys

An allocator hands out the numbers from `base` on, each at most once, and keeps
which key received which number. The invariant is part of the value. A step
either keeps the allocator or grants the next number to a key without one; what
a key has received it keeps along any number of steps.
-/

namespace Rpi3Device.BumpAllocator

structure Allocator (κ : Type*) where
  base : ℕ
  next : ℕ
  table : κ → Option ℕ
  base_le : base ≤ next
  bounds : ∀ k a, table k = some a → base ≤ a ∧ a < next
  injective : ∀ k k' a, table k = some a → table k' = some a → k = k'

namespace Allocator
variable {κ : Type*}

def empty (κ : Type*) (base : ℕ) : Allocator κ where
  base := base
  next := base
  table _ := none
  base_le := le_rfl
  bounds := by simp
  injective := by simp

def grant [DecidableEq κ] (A : Allocator κ) (key : κ) (free : A.table key = none) :
    Allocator κ where
  base := A.base
  next := A.next + 1
  table := Function.update A.table key (some A.next)
  base_le := A.base_le.trans (Nat.le_succ _)
  bounds k a h := by
    have hb := A.base_le
    by_cases hk : k = key
    · subst hk
      simp only [Function.update_self, Option.some.injEq] at h
      omega
    · rw [Function.update_of_ne hk] at h
      have hbounds := A.bounds k a h
      omega
  injective k k' a h h' := by
    by_cases hk : k = key <;> by_cases hk' : k' = key
    · exact hk.trans hk'.symm
    · subst hk
      rw [Function.update_of_ne hk'] at h'
      simp only [Function.update_self, Option.some.injEq] at h
      have hbounds := A.bounds k' a h'
      omega
    · subst hk'
      rw [Function.update_of_ne hk] at h
      simp only [Function.update_self, Option.some.injEq] at h'
      have hbounds := A.bounds k a h
      omega
    · rw [Function.update_of_ne hk] at h
      rw [Function.update_of_ne hk'] at h'
      exact A.injective k k' a h h'

inductive Step [DecidableEq κ] : Allocator κ → Allocator κ → Prop where
  | keep (A : Allocator κ) : Step A A
  | grant (A : Allocator κ) (key : κ) (free : A.table key = none) : Step A (A.grant key free)

variable [DecidableEq κ] {A B : Allocator κ}

theorem Step.table_of_some (h : Step A B) {k : κ} {a : ℕ} (hk : A.table k = some a) :
    B.table k = some a := by
  cases h with
  | keep => exact hk
  | grant key free =>
    have hne : k ≠ key := by
      intro heq
      obtain rfl := heq
      simp [free] at hk
    exact (Function.update_of_ne hne _ _).trans hk

abbrev Steps : Allocator κ → Allocator κ → Prop := Relation.ReflTransGen Step

theorem Steps.table_of_some (h : Steps A B) {k : κ} {a : ℕ} (hk : A.table k = some a) :
    B.table k = some a := by
  induction h with
  | refl => exact hk
  | tail _ hs ih => exact hs.table_of_some ih

end Allocator
end Rpi3Device.BumpAllocator
