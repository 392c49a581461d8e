import Mathlib.Tactic
import Mathlib.Data.List.AList

/-!
# Tables whose keys are issued by a counter

A keyed vector holds one value a key; adding a value under a key that is there
replaces the old one. The values of a kind are counted over its entries. When every
key was issued before the next one, a new entry never replaces an old one.
-/

namespace Rpi3Device.KeyedTable

abbrev KeyedVector (κ β : Type*) := AList fun _ : κ => β

variable {κ β : Type*}

def countValues (p : β → Bool) (t : KeyedVector κ β) : Nat := t.entries.countP fun e => p e.2

def IssuedBefore (rank : κ → ℕ) (next : ℕ) (t : KeyedVector κ β) : Prop := ∀ k ∈ t, rank k < next

theorem IssuedBefore.notMem {rank : κ → ℕ} {t : KeyedVector κ β} {k : κ}
    (h : IssuedBefore rank (rank k) t) : k ∉ t := by
  intro hmem
  exact lt_irrefl (rank k) (h k hmem)

theorem issuedBefore_of_keys_nil {rank : κ → ℕ} {t : KeyedVector κ β} (h : t.keys = [])
    (next : ℕ) : IssuedBefore rank next t := by
  intro k hk
  rw [AList.mem_keys, h] at hk
  cases hk

section Operations
variable [DecidableEq κ] {p : β → Bool} {t : KeyedVector κ β} {k : κ} {v w : β}

theorem countValues_insert_of_notMem (h : k ∉ t) :
    countValues p (t.insert k v) = countValues p t + if p v = true then 1 else 0 := by
  simp only [countValues, AList.entries_insert_of_notMem h, List.countP_cons]

theorem length_keys_insert (h : k ∉ t) : (t.insert k v).keys.length = t.keys.length + 1 := by
  rw [AList.keys_insert, List.erase_of_not_mem (fun hmem => h (AList.mem_keys.mpr hmem))]
  rfl

theorem countValues_erase (h : t.lookup k = some v) :
    countValues p t = countValues p (t.erase k) + if p v = true then 1 else 0 := by
  have hmem : k ∈ t.entries.keys := AList.lookup_isSome.mp (by simp [h])
  obtain ⟨w, front, back, -, hentries, herase⟩ := List.exists_of_kerase hmem
  have hvalue : w = v := by
    have hin : Sigma.mk k w ∈ t.entries := by simp [hentries]
    rw [AList.mem_lookup_iff.mpr hin] at h
    exact Option.some.inj h
  subst hvalue
  have hrest : (t.erase k).entries = front ++ back := herase
  simp only [countValues, hentries, hrest, List.countP_append, List.countP_cons]
  omega

theorem erase_insert : (t.insert k v).erase k = t.erase k := by
  apply AList.ext
  change List.kerase k (t.insert k v).entries = List.kerase k t.entries
  rw [AList.entries_insert]
  exact List.kerase_cons_eq rfl

theorem countValues_insert_same (h : t.lookup k = some v) (hsame : p w = p v) :
    countValues p (t.insert k w) = countValues p t := by
  rw [countValues_erase (AList.lookup_insert t), countValues_erase h, erase_insert, hsame]

theorem IssuedBefore.insert {rank : κ → ℕ} {next : ℕ} (h : IssuedBefore rank (rank k) t)
    (hlt : rank k < next) : IssuedBefore rank next (t.insert k v) := by
  intro k' hk'
  rcases (AList.mem_insert t).mp hk' with rfl | hold
  · exact hlt
  · exact lt_trans (h k' hold) hlt

theorem IssuedBefore.insert_same {rank : κ → ℕ} {next : ℕ} (h : IssuedBefore rank next t)
    (hk : k ∈ t) : IssuedBefore rank next (t.insert k v) := by
  intro k' hk'
  rcases (AList.mem_insert t).mp hk' with rfl | hold
  · exact h k' hk
  · exact h k' hold

theorem IssuedBefore.erase {rank : κ → ℕ} {next : ℕ} (h : IssuedBefore rank next t) :
    IssuedBefore rank next (t.erase k) := by
  intro k' hk'
  exact h k' (AList.mem_erase.mp hk').2

end Operations
end Rpi3Device.KeyedTable
