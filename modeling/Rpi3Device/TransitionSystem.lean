import Mathlib.Tactic

/-!
# Runs of partial machines with observable events

A step consumes one input, may be undefined, and reports the events it makes in
order. A run collects the events of its steps. The predicate `ok` restricts the
inputs a run may use in a given state: it carries the assumptions on the
environment under which a property of runs is stated.
-/

namespace Rpi3Device.TransitionSystem

structure Machine (σ ι ε : Type*) where
  step : σ → ι → Option (σ × List ε)

/-- Every event of the trace is justified by the events before it. -/
def Justified {ε : Type*} (J : List ε → ε → Prop) (tr : List ε) : Prop :=
  ∀ pre e post, tr = pre ++ e :: post → J pre e

theorem justified_nil {ε : Type*} (J : List ε → ε → Prop) : Justified J [] := by
  intro pre e post h
  simp at h

theorem justified_snoc {ε : Type*} {J : List ε → ε → Prop} {tr : List ε} {e : ε} :
    Justified J (tr ++ [e]) ↔ Justified J tr ∧ J tr e := by
  constructor
  · intro h
    refine ⟨fun pre e' post htr => h pre e' (post ++ [e]) (by simp [htr]), h tr e [] rfl⟩
  · intro hparts pre e' post heq
    obtain ⟨htr, he⟩ := hparts
    rcases List.eq_nil_or_concat post with rfl | ⟨post', f, rfl⟩
    · obtain ⟨rfl, hf⟩ := List.append_inj' heq rfl
      simp only [List.cons.injEq, and_true] at hf
      exact hf ▸ he
    · rw [List.concat_eq_append, ← List.cons_append, ← List.append_assoc] at heq
      exact htr pre e' post' (List.append_inj' heq rfl).1

theorem Justified.append {ε : Type*} {J : List ε → ε → Prop} {tr es : List ε}
    (h : Justified J tr) (hes : ∀ e ∈ es, ∀ pre, J pre e) : Justified J (tr ++ es) := by
  induction es using List.reverseRecOn with
  | nil => simpa using h
  | append_singleton es e ih =>
    rw [← List.append_assoc]
    exact justified_snoc.mpr ⟨ih fun e he => hes e (by simp [he]), hes e (by simp) _⟩

theorem Justified.last {ε : Type*} {J : List ε → ε → Prop} {tr : List ε} (h : Justified J tr)
    {e : ε} (he : e ∈ tr.getLast?) : J tr.dropLast e :=
  h tr.dropLast e [] (List.dropLast_append_getLast? e he).symm

/-- Some event that asks for an answer has not got one since. -/
def Unanswered {ε : Type*} (ask answer : ε → Prop) (tr : List ε) : Prop :=
  ∃ pre e post, tr = pre ++ e :: post ∧ ask e ∧ ∀ e' ∈ post, ¬ answer e'

theorem unanswered_nil {ε : Type*} (ask answer : ε → Prop) : ¬ Unanswered ask answer [] := by
  intro h
  obtain ⟨pre, e, post, htr, -⟩ := h
  simp at htr

theorem unanswered_snoc {ε : Type*} {ask answer : ε → Prop} {tr : List ε} {e : ε} :
    Unanswered ask answer (tr ++ [e]) ↔ ask e ∨ Unanswered ask answer tr ∧ ¬ answer e := by
  constructor
  · intro h
    obtain ⟨pre, e', post, htr, hask, hpost⟩ := h
    rcases List.eq_nil_or_concat post with rfl | ⟨post, f, rfl⟩
    · obtain ⟨-, hlast⟩ := List.append_inj' htr rfl
      exact .inl (List.singleton_inj.mp hlast ▸ hask)
    · rw [List.concat_eq_append, ← List.cons_append, ← List.append_assoc] at htr
      obtain ⟨hfront, hlast⟩ := List.append_inj' htr rfl
      obtain rfl := List.singleton_inj.mp hlast
      exact .inr ⟨⟨pre, e', post, hfront, hask, fun a ha => hpost a (by simp [ha])⟩,
        hpost e (by simp)⟩
  · intro h
    obtain hask | ⟨⟨pre, e', post, htr, hask, hpost⟩, hanswer⟩ := h
    · exact ⟨tr, e, [], rfl, hask, by simp⟩
    · refine ⟨pre, e', post ++ [e], by simp [htr], hask, fun a ha => ?_⟩
      obtain ha | ha := List.mem_append.mp ha
      · exact hpost a ha
      · exact List.mem_singleton.mp ha ▸ hanswer

theorem unanswered_of_append {ε : Type*} {ask answer : ε → Prop} {tr es : List ε}
    (h : Unanswered ask answer (tr ++ es)) (hask : ∀ e ∈ es, ¬ ask e) :
    Unanswered ask answer tr ∧ ∀ e ∈ es, ¬ answer e := by
  induction es using List.reverseRecOn with
  | nil => exact ⟨by simpa using h, by simp⟩
  | append_singleton es e ih =>
    rw [← List.append_assoc] at h
    obtain hlast | ⟨hfront, hanswer⟩ := unanswered_snoc.mp h
    · exact absurd hlast (hask e (by simp))
    · obtain ⟨htr, hes⟩ := ih hfront fun a ha => hask a (by simp [ha])
      refine ⟨htr, fun a ha => ?_⟩
      obtain ha | ha := List.mem_append.mp ha
      · exact hes a ha
      · exact List.mem_singleton.mp ha ▸ hanswer

theorem answered_of_not {ε : Type*} {ask answer : ε → Prop} {pre post : List ε} {e : ε}
    (h : ¬ Unanswered ask answer (pre ++ e :: post)) (hask : ask e) : ∃ e' ∈ post, answer e' := by
  by_contra hnone
  push Not at hnone
  exact h ⟨pre, e, post, rfl, hask, hnone⟩

namespace Machine
variable {σ ι ε : Type*}

inductive Run (M : Machine σ ι ε) (ok : σ → ι → Prop) (s₀ : σ) : List ε → σ → Prop where
  | nil : Run M ok s₀ [] s₀
  | snoc {tr es : List ε} {s s' : σ} {i : ι} : Run M ok s₀ tr s → ok s i →
      M.step s i = some (s', es) → Run M ok s₀ (tr ++ es) s'

variable {M : Machine σ ι ε} {ok : σ → ι → Prop} {s₀ : σ}

theorem Run.invariant {P : List ε → σ → Prop} (init : P [] s₀)
    (step : ∀ {tr es s s' i}, P tr s → ok s i → M.step s i = some (s', es) → P (tr ++ es) s')
    {tr : List ε} {s : σ} (run : M.Run ok s₀ tr s) : P tr s := by
  induction run with
  | nil => exact init
  | snoc _ hok hs ih => exact step ih hok hs

theorem Run.trans {s t : σ} {tr tr' : List ε} (first : M.Run ok s₀ tr s)
    (second : M.Run ok s tr' t) : M.Run ok s₀ (tr ++ tr') t := by
  induction second with
  | nil => simpa using first
  | snoc _ hok hs ih => simpa only [List.append_assoc] using Run.snoc ih hok hs

theorem Run.refines {τ κ : Type*} {N : Machine τ κ ε} {ok' : τ → κ → Prop} (f : σ → τ)
    (hstep : ∀ {s s' i es}, ok s i → M.step s i = some (s', es) →
      f s' = f s ∧ es = [] ∨ ∃ j, ok' (f s) j ∧ N.step (f s) j = some (f s', es))
    {tr : List ε} {s : σ} (run : M.Run ok s₀ tr s) : N.Run ok' (f s₀) tr (f s) := by
  induction run with
  | nil => exact .nil
  | snoc _ hok hs ih =>
    obtain ⟨hsame, rfl⟩ | ⟨j, hok', hs'⟩ := hstep hok hs
    · rw [hsame, List.append_nil]
      exact ih
    · exact .snoc ih hok' hs'

def Along (M : Machine σ ι ε) (Q : σ → ι → Prop) : σ → List ι → Prop
  | _, [] => True
  | s, i :: is => Q s i ∧ ∀ s' es, M.step s i = some (s', es) → M.Along Q s' is

theorem along_iff {P : σ → Prop} {Q R : σ → ι → Prop} (hiff : ∀ {s i}, P s → (Q s i ↔ R s i))
    (hstep : ∀ {s i s' es}, P s → Q s i → M.step s i = some (s', es) → P s') {s : σ} (hs : P s)
    (is : List ι) : M.Along Q s is ↔ M.Along R s is := by
  induction is generalizing s with
  | nil => exact Iff.rfl
  | cons i is ih =>
    have hnext (hq : Q s i) : (∀ s' es, M.step s i = some (s', es) → M.Along Q s' is) ↔
        ∀ s' es, M.step s i = some (s', es) → M.Along R s' is := by
      refine forall_congr' fun s' => forall_congr' fun es => forall_congr' fun h => ?_
      exact ih (hstep hs hq h)
    constructor
    · intro hparts
      obtain ⟨hq, hrest⟩ := hparts
      exact ⟨(hiff hs).mp hq, (hnext hq).mp hrest⟩
    · intro hparts
      obtain ⟨hr, hrest⟩ := hparts
      have hq := (hiff hs).mpr hr
      exact ⟨hq, (hnext hq).mpr hrest⟩

def exec (M : Machine σ ι ε) (ok : σ → ι → Prop) [∀ s i, Decidable (ok s i)] :
    σ → List ι → Option (σ × List ε)
  | s, [] => some (s, [])
  | s, i :: is =>
    if ok s i then
      match M.step s i with
      | none => none
      | some (s', es) => (M.exec ok s' is).map fun r => (r.1, es ++ r.2)
    else none

theorem exec_run [∀ s i, Decidable (ok s i)] {is : List ι} {s t : σ} {tr : List ε}
    (h : M.exec ok s is = some (t, tr)) : M.Run ok s tr t := by
  induction is generalizing s tr with
  | nil =>
    simp only [exec, Option.some.injEq, Prod.mk.injEq] at h
    obtain ⟨rfl, rfl⟩ := h
    exact .nil
  | cons i is ih =>
    simp only [exec] at h
    split at h
    · rename_i hok
      split at h
      · simp at h
      · rename_i s' es hs
        obtain ⟨r, hr, heq⟩ := Option.map_eq_some_iff.mp h
        simp only [Prod.mk.injEq] at heq
        obtain ⟨rfl, rfl⟩ := heq
        have hone : M.Run ok s ([] ++ es) s' := .snoc .nil hok hs
        simpa using hone.trans (ih hr)
    · simp at h

theorem exec_append [∀ s i, Decidable (ok s i)] {is js : List ι} {s t u : σ} {tr tr' : List ε}
    (h : M.exec ok s is = some (t, tr)) (h' : M.exec ok t js = some (u, tr')) :
    M.exec ok s (is ++ js) = some (u, tr ++ tr') := by
  induction is generalizing s tr with
  | nil =>
    obtain ⟨rfl, rfl⟩ : s = t ∧ [] = tr := by simpa [exec] using h
    exact h'
  | cons i is ih =>
    simp only [List.cons_append, exec] at h ⊢
    by_cases hok : ok s i
    · simp only [if_pos hok] at h ⊢
      cases hs : M.step s i with
      | none => simp [hs] at h
      | some r =>
        simp only [hs] at h ⊢
        obtain ⟨⟨t', es⟩, hexec, heq⟩ := Option.map_eq_some_iff.mp h
        obtain ⟨rfl, rfl⟩ := Prod.mk.inj heq
        rw [ih hexec, Option.map_some, List.append_assoc]
    · simp [if_neg hok] at h

theorem exec_of_total (total : ∀ s i, ∃ r, M.step s i = some r) (s : σ) (is : List ι) :
    ∃ t tr, M.exec (fun _ _ => True) s is = some (t, tr) := by
  induction is generalizing s with
  | nil => exact ⟨s, [], rfl⟩
  | cons i is ih =>
    obtain ⟨⟨s', es⟩, hs⟩ := total s i
    obtain ⟨t, tr, hexec⟩ := ih s'
    exact ⟨t, es ++ tr, by simp only [exec, hs, hexec, if_true, Option.map_some]⟩

theorem exec_events_iff [∀ s i, Decidable (ok s i)] {P : ε → Prop}
    (hstep : ∀ {s i s' es}, M.step s i = some (s', es) → ((∀ e ∈ es, P e) ↔ ok s i))
    {is : List ι} {s t : σ} {tr : List ε} (h : M.exec (fun _ _ => True) s is = some (t, tr)) :
    (∀ e ∈ tr, P e) ↔ M.exec ok s is = some (t, tr) := by
  induction is generalizing s tr with
  | nil =>
    obtain ⟨rfl, rfl⟩ : s = t ∧ [] = tr := by simpa [exec] using h
    simp [exec]
  | cons i is ih =>
    simp only [exec, if_true] at h ⊢
    cases hs : M.step s i with
    | none => simp [hs] at h
    | some r =>
      obtain ⟨s', es⟩ := r
      simp only [hs] at h
      obtain ⟨⟨t', tr'⟩, hexec, heq⟩ := Option.map_eq_some_iff.mp h
      obtain ⟨rfl, rfl⟩ := Prod.mk.inj heq
      have hsplit : (∀ e ∈ es ++ tr', P e) ↔ (∀ e ∈ es, P e) ∧ ∀ e ∈ tr', P e :=
        List.forall_mem_append
      rw [hsplit, hstep hs, ih hexec]
      by_cases hok : ok s i
      · simp [hok, Prod.ext_iff]
      · simp [hok]

theorem run_of_exec (M : Machine σ ι ε) (ok : σ → ι → Prop) [∀ s i, Decidable (ok s i)] (s : σ)
    (is : List ι) (p : σ → List ε → Prop) [∀ t tr, Decidable (p t tr)]
    (h : (M.exec ok s is).any (fun r => p r.1 r.2) = true) :
    ∃ tr t, M.Run ok s tr t ∧ p t tr := by
  cases hexec : M.exec ok s is with
  | none => simp [hexec] at h
  | some r => exact ⟨r.2, r.1, exec_run hexec, by simpa [hexec] using h⟩

end Machine
end Rpi3Device.TransitionSystem
