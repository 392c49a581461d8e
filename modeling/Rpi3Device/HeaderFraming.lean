import Mathlib.Data.List.Infix
import Mathlib.Tactic

/-!
# Packets whose header tells their length

A packet is a header of fixed size and a body whose length the header determines. The
total length that a string announces depends on its header alone, so a string is cut into
packets in at most one way, and what is left over at its end is a packet that is not
finished yet.
-/

namespace Rpi3Device.HeaderFraming

structure Framing (α : Type*) where
  headerSize : ℕ
  bodyLength : List α → ℕ
  headerSize_pos : 0 < headerSize

namespace Framing
variable {α : Type*} (F : Framing α)

def total (xs : List α) : ℕ := F.headerSize + F.bodyLength (xs.take F.headerSize)

def IsPacket (p : List α) : Prop := p.length = F.total p

def Unfinished (r : List α) : Prop := r.length < F.total r

instance : DecidablePred F.IsPacket := fun p =>
  inferInstanceAs (Decidable (p.length = F.total p))

variable {F}

theorem headerSize_le_total (xs : List α) : F.headerSize ≤ F.total xs :=
  Nat.le_add_right _ _

theorem total_append {p : List α} (hp : F.headerSize ≤ p.length) (xs : List α) :
    F.total (p ++ xs) = F.total p := by
  rw [total, total, List.take_append_of_le_length hp]

theorem IsPacket.headerSize_le {p : List α} (hp : F.IsPacket p) : F.headerSize ≤ p.length :=
  hp ▸ headerSize_le_total p

theorem IsPacket.ne_nil {p : List α} (hp : F.IsPacket p) : p ≠ [] := by
  intro hnil
  have hsize := hp.headerSize_le
  have hpos := F.headerSize_pos
  rw [hnil, List.length_nil] at hsize
  omega

theorem unfinished_of_short {r : List α} (hr : r.length < F.headerSize) : F.Unfinished r :=
  Nat.lt_of_lt_of_le hr (headerSize_le_total _)

theorem IsPacket.eq_of_append {p q xs ys : List α} (hp : F.IsPacket p) (hq : F.IsPacket q)
    (h : p ++ xs = q ++ ys) : p = q ∧ xs = ys := by
  apply List.append_inj h
  rw [hp, hq, ← total_append hp.headerSize_le xs, h, total_append hq.headerSize_le]

theorem Unfinished.lt_of_prefix {r q : List α} (hr : F.Unfinished r) (hq : F.IsPacket q)
    {xs : List α} (h : r <+: q ++ xs) : r.length < q.length := by
  by_contra hge
  obtain ⟨t, ht⟩ : q <+: r :=
    List.prefix_of_prefix_length_le (List.prefix_append q xs) h (by omega)
  have htotal := total_append hq.headerSize_le t
  rw [ht, ← hq] at htotal
  rw [Unfinished, htotal] at hr
  omega

structure Cut (F : Framing α) (ps : List (List α)) (r bs : List α) : Prop where
  bytes : bs = ps.flatten ++ r
  packets : ∀ p ∈ ps, F.IsPacket p

theorem Cut.prefix_of {ps qs : List (List α)} {r bs : List α} (h : F.Cut ps r bs)
    (hq : ∀ q ∈ qs, F.IsPacket q) (hbs : bs <+: qs.flatten) :
    ∃ rest, qs = ps ++ rest ∧ r <+: rest.flatten := by
  obtain ⟨rfl, hp⟩ := h
  induction ps generalizing qs with
  | nil => exact ⟨qs, rfl, by simpa using hbs⟩
  | cons p ps ih =>
    have hpacket := hp p (by simp)
    cases qs with
    | nil =>
      have hempty := List.prefix_nil.mp hbs
      simp [hpacket.ne_nil] at hempty
    | cons q qs =>
      obtain ⟨t, ht⟩ := hbs
      simp only [List.flatten_cons, List.append_assoc] at ht
      obtain ⟨rfl, hrest⟩ := hpacket.eq_of_append (hq q (by simp)) ht
      have hqs : ∀ q ∈ qs, F.IsPacket q := fun q hmem => hq q (List.mem_cons_of_mem p hmem)
      have hps : ∀ q ∈ ps, F.IsPacket q := fun q hmem => hp q (List.mem_cons_of_mem p hmem)
      obtain ⟨rest, rfl, hr⟩ := ih hqs hps ⟨t, by rw [List.append_assoc]; exact hrest⟩
      exact ⟨rest, rfl, hr⟩

theorem Cut.whole_iff {ps qs : List (List α)} {r bs : List α} (h : F.Cut ps r bs)
    (hr : F.Unfinished r) (hq : ∀ q ∈ qs, F.IsPacket q) (hbs : bs <+: qs.flatten) {n : ℕ}
    (hn : n ≤ qs.length) : (qs.take n).flatten.length ≤ bs.length ↔ n ≤ ps.length := by
  obtain ⟨rest, rfl, hrest⟩ := h.prefix_of hq hbs
  have hbytes := congrArg List.length h.bytes
  rw [List.length_append] at hbytes
  constructor
  · intro hle
    by_contra hgt
    have hsplit : (ps ++ rest).take n = ps ++ rest.take (n - ps.length) := by
      rw [List.take_append, List.take_of_length_le (by omega)]
    cases rest with
    | nil =>
      rw [List.append_nil] at hn
      omega
    | cons q rest =>
      have hlt := hr.lt_of_prefix (hq q (by simp)) hrest
      have hstep : n - ps.length = (n - ps.length - 1) + 1 := by omega
      rw [hsplit, hstep, List.take_succ_cons, List.flatten_append, List.flatten_cons,
        List.length_append, List.length_append] at hle
      omega
  · intro hle
    rw [List.take_append_of_le_length hle, hbytes]
    have hsub := (List.take_prefix n ps).flatten.length_le
    omega

end Framing
end Rpi3Device.HeaderFraming
