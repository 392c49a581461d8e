import Mathlib.Tactic

/-!
# Bounded loops

`run` executes a loop body that either continues with a new state or exits with
a result. `measured` supplies the rounds from a measure that every continuing
round decreases; it then satisfies the loop's own unfolding equations, and the
value returned on exhausted rounds is never used.

`forEach` is a loop over a list whose body may also return from the function around it, or end
the program.
-/

namespace Rpi3Device.BoundedLoop

variable {σ ρ : Type*}

def run (body : σ → σ ⊕ ρ) (out : ρ) : ℕ → σ → ρ
  | 0, _ => out
  | fuel + 1, s => match body s with
    | .inl s' => run body out fuel s'
    | .inr r => r

def Decreases (body : σ → σ ⊕ ρ) (μ : σ → ℕ) : Prop :=
  ∀ s s', body s = .inl s' → μ s' < μ s

theorem run_fuel {body : σ → σ ⊕ ρ} {μ : σ → ℕ} (hμ : Decreases body μ) (out out' : ρ)
    {n m : ℕ} {s : σ} (hn : μ s < n) (hm : μ s < m) :
    run body out n s = run body out' m s := by
  induction n generalizing m s with
  | zero => omega
  | succ n ih =>
    cases m with
    | zero => omega
    | succ m =>
      simp only [run]
      cases hb : body s with
      | inl s' =>
        have hlt := hμ s s' hb
        exact ih (by omega) (by omega)
      | inr r => rfl

def measured (body : σ → σ ⊕ ρ) (μ : σ → ℕ) (out : ρ) (s : σ) : ρ := run body out (μ s + 1) s

theorem measured_continue {body : σ → σ ⊕ ρ} {μ : σ → ℕ} (hμ : Decreases body μ) (out : ρ)
    {s s' : σ} (hs : body s = .inl s') : measured body μ out s = measured body μ out s' := by
  have hlt := hμ s s' hs
  have hrun : run body out (μ s + 1) s = run body out (μ s) s' := by simp only [run, hs]
  rw [measured, hrun]
  exact run_fuel hμ out out hlt (by omega)

theorem measured_exit {body : σ → σ ⊕ ρ} {μ : σ → ℕ} {out : ρ} {s : σ} {r : ρ}
    (hs : body s = .inr r) : measured body μ out s = r := by
  simp only [measured, run, hs]

section ForEach
variable {α : Type*}

/-- The body goes on with the next element (`true`), returns (`false`) or ends the program. -/
def forEach (body : σ → α → Option (Bool × σ)) : List α → σ → Option (Bool × σ)
  | [], s => some (true, s)
  | a :: l, s => match body s a with
    | some (true, s') => forEach body l s'
    | some (false, s') => some (false, s')
    | none => none

variable {body : σ → α → Option (Bool × σ)} {pass stop : α → Prop}

theorem forEach_passes_iff (hpass : ∀ s a, (∃ t, body s a = some (true, t)) ↔ pass a)
    (l : List α) (s : σ) : (∃ t, forEach body l s = some (true, t)) ↔ ∀ a ∈ l, pass a := by
  induction l generalizing s with
  | nil => simp [forEach]
  | cons a l ih =>
    rw [List.forall_mem_cons, ← hpass s a]
    simp only [forEach]
    cases hbody : body s a with
    | none => simp
    | some r =>
      obtain ⟨goes, s'⟩ := r
      cases goes with
      | false => simp
      | true => simpa using ih s'

theorem forEach_eq_none_iff (hpass : ∀ s a, (∃ t, body s a = some (true, t)) ↔ pass a)
    (hstop : ∀ s a, body s a = none ↔ stop a) (l : List α) (s : σ) :
    forEach body l s = none ↔
      ∃ pre a post, l = pre ++ a :: post ∧ (∀ b ∈ pre, pass b) ∧ stop a := by
  induction l generalizing s with
  | nil => simp [forEach]
  | cons a l ih =>
    have hfirst : (∃ pre b post, a :: l = pre ++ b :: post ∧ (∀ c ∈ pre, pass c) ∧ stop b) ↔
        stop a ∨ pass a ∧ ∃ pre b post, l = pre ++ b :: post ∧ (∀ c ∈ pre, pass c) ∧ stop b := by
      constructor
      · intro hsplit
        obtain ⟨pre, b, post, heq, hpre, hb⟩ := hsplit
        cases pre with
        | nil =>
          obtain ⟨rfl, -⟩ := List.cons.inj heq
          exact Or.inl hb
        | cons c pre =>
          obtain ⟨rfl, hl⟩ := List.cons.inj heq
          rw [List.forall_mem_cons] at hpre
          exact Or.inr ⟨hpre.1, pre, b, post, hl, hpre.2, hb⟩
      · intro hcases
        rcases hcases with hstop | ⟨ha, pre, b, post, rfl, hpre, hb⟩
        · exact ⟨[], a, l, rfl, by simp, hstop⟩
        · exact ⟨a :: pre, b, post, rfl, List.forall_mem_cons.mpr ⟨ha, hpre⟩, hb⟩
    rw [hfirst, ← hpass s a, ← hstop s a]
    simp only [forEach]
    cases hbody : body s a with
    | none => simp
    | some r =>
      obtain ⟨goes, s'⟩ := r
      cases goes with
      | false => simp
      | true => simpa using ih s'

theorem forEach_returned {l : List α} {s t : σ} (h : forEach body l s = some (false, t)) :
    ∃ s' a, body s' a = some (false, t) := by
  induction l generalizing s with
  | nil => simp [forEach] at h
  | cons a l ih =>
    simp only [forEach] at h
    cases hbody : body s a with
    | none => simp [hbody] at h
    | some r =>
      obtain ⟨goes, s'⟩ := r
      cases goes with
      | false =>
        simp only [hbody, Option.some.injEq, Prod.mk.injEq, true_and] at h
        exact ⟨s, a, h ▸ hbody⟩
      | true =>
        simp only [hbody] at h
        exact ih h

end ForEach

end Rpi3Device.BoundedLoop
