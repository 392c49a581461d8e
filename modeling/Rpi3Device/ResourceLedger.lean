import Mathlib.Tactic
import Rpi3Device.TransitionSystem

/-!
# Ledgers of acquired and released handles

A ledger is the list of operations made on handles, oldest first. It is
disciplined when every handle is acquired at most once and is used and released
only while it is held. A program keeps the discipline when the handles its state
owns are, at every moment, exactly the ones the ledger says are held.
-/

namespace Rpi3Device.ResourceLedger
open TransitionSystem

inductive Op (H : Type*) where
  | acquire (h : H)
  | use (h : H)
  | release (h : H)
deriving DecidableEq

variable {H : Type*} [DecidableEq H]

def heldAfter (hs : Multiset H) : Op H → Multiset H
  | .acquire h => h ::ₘ hs
  | .use _ => hs
  | .release h => hs.erase h

def held (ops : List (Op H)) : Multiset H := ops.foldl heldAfter 0

@[simp] theorem held_append (ops ops' : List (Op H)) :
    held (ops ++ ops') = ops'.foldl heldAfter (held ops) := by
  rw [held, held, List.foldl_append]

def Proper (earlier : List (Op H)) : Op H → Prop
  | .acquire h => .acquire h ∉ earlier
  | .use h => h ∈ held earlier
  | .release h => h ∈ held earlier

def Disciplined (ops : List (Op H)) : Prop := Justified Proper ops

theorem Disciplined.snoc {ops : List (Op H)} {op : Op H} (h : Disciplined ops)
    (hop : Proper ops op) : Disciplined (ops ++ [op]) :=
  justified_snoc.mpr ⟨h, hop⟩

theorem Disciplined.count_acquire {ops : List (Op H)} (hops : Disciplined ops) (h : H) :
    ops.count (.acquire h) = ops.count (.release h) + (held ops).count h := by
  induction ops using List.reverseRecOn with
  | nil => rfl
  | append_singleton ops op ih =>
    obtain ⟨hpre, hop⟩ := justified_snoc.mp hops
    have ih := ih hpre
    cases op with
    | acquire h' =>
      by_cases hh : h' = h
      · subst hh
        simp [heldAfter, ih]
        omega
      · simp [heldAfter, hh, Ne.symm hh, ih]
    | use h' => simp [heldAfter, ih]
    | release h' =>
      by_cases hh : h' = h
      · subst hh
        have hpos := Multiset.count_pos.mpr hop
        simp [heldAfter, ih]
        omega
      · simp [heldAfter, hh, Ne.symm hh, ih]

theorem Disciplined.acquire_at_most_once {ops : List (Op H)} (hops : Disciplined ops) (h : H) :
    ops.count (.acquire h) ≤ 1 := by
  induction ops using List.reverseRecOn with
  | nil => simp
  | append_singleton ops op ih =>
    obtain ⟨hpre, hop⟩ := justified_snoc.mp hops
    have ih := ih hpre
    by_cases hh : op = .acquire h
    · subst hh
      rw [List.count_append, List.count_eq_zero_of_not_mem hop]
      simp
    · rw [List.count_append, List.count_singleton, if_neg (by simpa using hh)]
      simpa using ih

theorem Disciplined.released_once {ops : List (Op H)} (hops : Disciplined ops) {h : H}
    (hacq : .acquire h ∈ ops) (hheld : h ∉ held ops) : ops.count (.release h) = 1 := by
  have hcount := hops.count_acquire h
  have honce := hops.acquire_at_most_once h
  have hpos := List.count_pos_iff.mpr hacq
  rw [Multiset.count_eq_zero_of_notMem hheld] at hcount
  omega

theorem Disciplined.not_released_of_held {ops : List (Op H)} (hops : Disciplined ops) {h : H}
    (hheld : h ∈ held ops) : .release h ∉ ops ∧ (held ops).count h = 1 := by
  have hcount := hops.count_acquire h
  have honce := hops.acquire_at_most_once h
  have hpos := Multiset.count_pos.mpr hheld
  refine ⟨fun hrel => ?_, by omega⟩
  have hrel := List.count_pos_iff.mpr hrel
  omega

structure Tracks (ops : List (Op H)) (owned : Multiset H) : Prop where
  disciplined : Disciplined ops
  held : held ops = owned

theorem tracks_nil : Tracks ([] : List (Op H)) 0 := ⟨justified_nil _, rfl⟩

theorem Tracks.acquire {ops : List (Op H)} {owned : Multiset H} (t : Tracks ops owned) {h : H}
    (hnew : .acquire h ∉ ops) : Tracks (ops ++ [.acquire h]) (h ::ₘ owned) := by
  refine ⟨t.disciplined.snoc hnew, ?_⟩
  rw [held_append, t.held]
  rfl

theorem Tracks.release {ops : List (Op H)} {owned : Multiset H} {h : H}
    (t : Tracks ops (h ::ₘ owned)) : Tracks (ops ++ [.release h]) owned := by
  refine ⟨t.disciplined.snoc ?_, ?_⟩
  · rw [Proper, t.held]
    exact Multiset.mem_cons_self h owned
  · rw [held_append, t.held]
    exact Multiset.erase_cons_head h owned

theorem Tracks.releases {ops : List (Op H)} {owned : Multiset H} {hs : List H}
    (t : Tracks ops (hs + owned)) : Tracks (ops ++ hs.map .release) owned := by
  induction hs generalizing ops with
  | nil => simpa using t
  | cons h hs ih =>
    rw [← Multiset.cons_coe, Multiset.cons_add] at t
    simpa using ih t.release

theorem Tracks.count {ops : List (Op H)} {owned : Multiset H} (t : Tracks ops owned) (h : H) :
    ops.count (.acquire h) = ops.count (.release h) + owned.count h ∧
      ops.count (.acquire h) ≤ 1 := by
  refine ⟨?_, t.disciplined.acquire_at_most_once h⟩
  rw [← t.held]
  exact t.disciplined.count_acquire h

end Rpi3Device.ResourceLedger
