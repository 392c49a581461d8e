import Mathlib.Tactic

/-!
# Programs of nested locks

A program locks a mutex, runs a body, unlocks it and goes on. A thread is what is
left of the innermost body together with the mutexes it holds and what follows each
of them. A thread waits for the owner of the mutex it is about to lock. Two threads
cross when each holds a mutex that the other will still lock before it gives up its
own; crossings come about only when a mutex is acquired.
-/

namespace Rpi3Device.LockPrograms

inductive Prog (μ : Type*) where
  | done
  | locked (m : μ) (body next : Prog μ)

structure LockThread (μ : Type*) where
  current : Prog μ := .done
  stack : List (μ × Prog μ) := []

structure LockState (θ μ : Type*) where
  threads : θ → LockThread μ
  owner : μ → Option θ

variable {θ μ : Type*}

def LockThread.held (t : LockThread μ) : List μ := t.stack.map Prod.fst

def sections : List μ → Prog μ → Prog μ
  | [], next => next
  | m :: ms, next => .locked m .done (sections ms next)

def LockState.unlocked : LockState θ μ := ⟨fun _ => {}, fun _ => none⟩

section Steps
variable [DecidableEq θ] [DecidableEq μ]

def LockState.advance (s : LockState θ μ) (t : θ) : Option (LockState θ μ) :=
  match s.threads t with
  | ⟨.locked m body next, stack⟩ =>
    if s.owner m = none then
      some ⟨Function.update s.threads t ⟨body, (m, next) :: stack⟩,
        Function.update s.owner m (some t)⟩
    else none
  | ⟨.done, (m, next) :: stack⟩ =>
    some ⟨Function.update s.threads t ⟨next, stack⟩, Function.update s.owner m none⟩
  | ⟨.done, []⟩ => none

def LockState.begin (s : LockState θ μ) (t : θ) (p : Prog μ) : Option (LockState θ μ) :=
  match s.threads t with
  | ⟨.done, []⟩ => some { s with threads := Function.update s.threads t ⟨p, []⟩ }
  | _ => none

end Steps

def LockState.blocker (s : LockState θ μ) (t : θ) : Option θ :=
  match (s.threads t).current with
  | .done => none
  | .locked m _ _ => s.owner m

def WaitsFor (s : LockState θ μ) (t u : θ) : Prop := s.blocker t = some u

def Deadlocked (s : LockState θ μ) : Prop := ∃ t, Relation.TransGen (WaitsFor s) t t

theorem waitsFor_iff {s : LockState θ μ} {t u : θ} :
    WaitsFor s t u ↔
      ∃ m body next, (s.threads t).current = .locked m body next ∧ s.owner m = some u := by
  unfold WaitsFor LockState.blocker
  cases (s.threads t).current with
  | done => simp
  | locked m body next => simp

theorem cycle_next {r : θ → θ → Prop} {t : θ} (h : Relation.TransGen r t t) :
    ∃ u, r t u ∧ Relation.TransGen r u u := by
  obtain ⟨u, htu, hut⟩ := Relation.TransGen.head'_iff.mp h
  exact ⟨u, htu, Relation.TransGen.tail' hut htu⟩

theorem cycle_prev {r : θ → θ → Prop} {t : θ} (h : Relation.TransGen r t t) : ∃ u, r u t := by
  obtain ⟨u, -, hut⟩ := Relation.TransGen.tail'_iff.mp h
  exact ⟨u, hut⟩

structure Owned (s : LockState θ μ) : Prop where
  holds : ∀ m t, s.owner m = some t ↔ m ∈ (s.threads t).held
  nodup : ∀ t, (s.threads t).held.Nodup

/-- Every lock of the program is allowed on top of the mutexes held at that point. -/
def Conforms (D : List μ → μ → Prop) : List μ → Prog μ → Prop
  | _, .done => True
  | h, .locked m body next => D h m ∧ Conforms D (m :: h) body ∧ Conforms D h next

def FramesConform (D : List μ → μ → Prop) : List (μ × Prog μ) → Prop
  | [] => True
  | (m, next) :: rest =>
    D (rest.map Prod.fst) m ∧ Conforms D (rest.map Prod.fst) next ∧ FramesConform D rest

structure LockThread.Disciplined (D : List μ → μ → Prop) (t : LockThread μ) : Prop where
  current : Conforms D t.held t.current
  frames : FramesConform D t.stack

theorem conforms_sections {D : List μ → μ → Prop} {h : List μ} {ms : List μ} {next : Prog μ}
    (hms : ∀ m ∈ ms, D h m) (hnext : Conforms D h next) : Conforms D h (sections ms next) := by
  induction ms with
  | nil => exact hnext
  | cons m ms ih =>
    refine ⟨hms m (List.mem_cons_self ..), trivial, ih fun m' hm' => ?_⟩
    exact hms m' (List.mem_cons_of_mem m hm')

def Prog.Locks (b : μ) : Prog μ → Prop
  | .done => False
  | .locked m body next => m = b ∨ body.Locks b ∨ next.Locks b

/-- The thread locks `b` before it unlocks `a`. -/
def AheadOf (a b : μ) : Prog μ → List (μ × Prog μ) → Prop
  | _, [] => False
  | current, (m, next) :: rest => current.Locks b ∨ m ≠ a ∧ AheadOf a b next rest

def LockThread.Ahead (t : LockThread μ) (a b : μ) : Prop := AheadOf a b t.current t.stack

def Crossing (s : LockState θ μ) (t u : θ) (a b : μ) : Prop :=
  s.owner a = some t ∧ (s.threads t).Ahead a b ∧ s.owner b = some u ∧ (s.threads u).Ahead b a

def AcquiresClear (s : LockState θ μ) (t : θ) : Prop :=
  ∀ m body next, (s.threads t).current = .locked m body next → ∀ b u, s.owner b = some u →
    u ≠ t → body.Locks b → ¬ (s.threads u).Ahead b m

theorem aheadOf_mono {a b : μ} {p q : Prog μ} {stack : List (μ × Prog μ)}
    (hlocks : p.Locks b → q.Locks b) (h : AheadOf a b p stack) : AheadOf a b q stack := by
  cases stack with
  | nil => exact h
  | cons frame rest => exact h.imp_left hlocks

theorem LockThread.ahead_of_current {t : LockThread μ} {m : μ} {body next : Prog μ} {a : μ}
    (hcurrent : t.current = .locked m body next) (ha : a ∈ t.held) : t.Ahead a m := by
  obtain ⟨current, stack⟩ := t
  cases stack with
  | nil => simp [LockThread.held] at ha
  | cons frame rest =>
    refine .inl ?_
    rw [hcurrent]
    exact .inl rfl

theorem ahead_of_unlock {m a b : μ} {next : Prog μ} {stack : List (μ × Prog μ)} (hne : m ≠ a)
    (h : AheadOf a b next stack) : AheadOf a b .done ((m, next) :: stack) :=
  .inr ⟨hne, h⟩

theorem ahead_of_lock {m a b : μ} {body next : Prog μ} {stack : List (μ × Prog μ)}
    (ha : a ∈ stack.map Prod.fst) (h : AheadOf a b body ((m, next) :: stack)) :
    AheadOf a b (.locked m body next) stack := by
  rcases h with hbody | ⟨-, hnext⟩
  · cases stack with
    | nil => simp at ha
    | cons frame rest => exact .inl (.inr (.inl hbody))
  · exact aheadOf_mono (fun hlocks => .inr (.inr hlocks)) hnext

theorem Crossing.symm {s : LockState θ μ} {t u : θ} {a b : μ} (h : Crossing s t u a b) :
    Crossing s u t b a :=
  ⟨h.2.2.1, h.2.2.2, h.1, h.2.1⟩

structure LockInv (D : θ → List μ → μ → Prop) (s : LockState θ μ) : Prop where
  owned : Owned s
  disciplined : ∀ t, (s.threads t).Disciplined (D t)
  clear : ∀ t u a b, t ≠ u → ¬ Crossing s t u a b

section Cycles
variable {D : θ → List μ → μ → Prop} {s : LockState θ μ} {t u : θ}

theorem LockInv.on_cycle (inv : LockInv D s) (h : Relation.TransGen (WaitsFor s) t t) :
    ∃ m u, D t (s.threads t).held m ∧ (s.threads t).held ≠ [] ∧ m ∈ (s.threads u).held ∧
      WaitsFor s t u ∧ Relation.TransGen (WaitsFor s) u u := by
  obtain ⟨u, hwaits, hcycle⟩ := cycle_next h
  obtain ⟨m, body, next, hcurrent, howner⟩ := waitsFor_iff.mp hwaits
  obtain ⟨v, hprev⟩ := cycle_prev h
  obtain ⟨a, -, -, -, hheld⟩ := waitsFor_iff.mp hprev
  have hconforms := (inv.disciplined t).current
  rw [hcurrent] at hconforms
  refine ⟨m, u, hconforms.1, ?_, (inv.owned.holds m u).mp howner, hwaits, hcycle⟩
  exact List.ne_nil_of_mem ((inv.owned.holds a t).mp hheld)

theorem LockInv.holder_unique (inv : LockInv D s) {m : μ} (ht : m ∈ (s.threads t).held)
    (hu : m ∈ (s.threads u).held) : t = u := by
  have howner := (inv.owned.holds m t).mpr ht
  rw [(inv.owned.holds m u).mpr hu] at howner
  exact (Option.some.inj howner).symm

theorem LockInv.not_waits_back (inv : LockInv D s) (hne : t ≠ u) (htu : WaitsFor s t u) :
    ¬ WaitsFor s u t := by
  intro hut
  obtain ⟨b, body, next, hcurrent, hb⟩ := waitsFor_iff.mp htu
  obtain ⟨a, body', next', hcurrent', ha⟩ := waitsFor_iff.mp hut
  refine inv.clear t u a b hne ⟨ha, ?_, hb, ?_⟩
  · exact LockThread.ahead_of_current hcurrent ((inv.owned.holds a t).mp ha)
  · exact LockThread.ahead_of_current hcurrent' ((inv.owned.holds b u).mp hb)

end Cycles

theorem lockInv_unlocked (D : θ → List μ → μ → Prop) :
    LockInv D (LockState.unlocked : LockState θ μ) := by
  refine ⟨⟨?_, ?_⟩, fun t => ⟨trivial, trivial⟩, ?_⟩
  · simp [LockState.unlocked, LockThread.held]
  · simp [LockState.unlocked, LockThread.held]
  · intro t u a b _ hparts
    obtain ⟨h, -⟩ := hparts
    cases h

section Steps
variable [DecidableEq θ] [DecidableEq μ] {D : θ → List μ → μ → Prop} {s s' : LockState θ μ} {t : θ}

theorem advance_cases (h : s.advance t = some s') :
    (∃ m body next stack, s.threads t = ⟨.locked m body next, stack⟩ ∧ s.owner m = none ∧
      s' = ⟨Function.update s.threads t ⟨body, (m, next) :: stack⟩,
        Function.update s.owner m (some t)⟩) ∨
    ∃ m next stack, s.threads t = ⟨.done, (m, next) :: stack⟩ ∧
      s' = ⟨Function.update s.threads t ⟨next, stack⟩, Function.update s.owner m none⟩ := by
  unfold LockState.advance at h
  split at h
  · rename_i m body next stack hthread
    split_ifs at h with hfree
    exact .inl ⟨m, body, next, stack, hthread, hfree, (Option.some.inj h).symm⟩
  · rename_i m next stack hthread
    exact .inr ⟨m, next, stack, hthread, (Option.some.inj h).symm⟩
  · cases h

omit [DecidableEq μ] in
theorem begin_cases {p : Prog μ} (h : s.begin t p = some s') :
    s.threads t = ⟨.done, []⟩ ∧
      s' = { s with threads := Function.update s.threads t ⟨p, []⟩ } := by
  unfold LockState.begin at h
  split at h
  · rename_i hthread
    exact ⟨hthread, (Option.some.inj h).symm⟩
  · cases h

omit [DecidableEq μ] in
theorem LockInv.begin (inv : LockInv D s) {p : Prog μ} (hp : Conforms (D t) [] p)
    (h : s.begin t p = some s') : LockInv D s' := by
  obtain ⟨hthread, rfl⟩ := begin_cases h
  have hheld : ∀ u, ((Function.update s.threads t ⟨p, []⟩) u).held = (s.threads u).held := by
    intro u
    by_cases hu : u = t
    · subst hu
      simp [hthread, LockThread.held]
    · rw [Function.update_of_ne hu]
  have hidle : ∀ m, s.owner m ≠ some t := by
    intro m howner
    have hmem := (inv.owned.holds m t).mp howner
    simp [hthread, LockThread.held] at hmem
  refine ⟨⟨fun m u => ?_, fun u => ?_⟩, fun u => ?_, ?_⟩
  · simp only [hheld]
    exact inv.owned.holds m u
  · simp only [hheld]
    exact inv.owned.nodup u
  · by_cases hu : u = t
    · subst hu
      simpa using ⟨hp, trivial⟩
    · simp only [Function.update_of_ne hu]
      exact inv.disciplined u
  · intro u v a b huv hparts
    obtain ⟨hau, haheadu, hbv, haheadv⟩ := hparts
    have hu : u ≠ t := fun heq => hidle a (heq ▸ hau)
    have hv : v ≠ t := fun heq => hidle b (heq ▸ hbv)
    simp only [Function.update_of_ne hu] at haheadu
    simp only [Function.update_of_ne hv] at haheadv
    exact inv.clear u v a b huv ⟨hau, haheadu, hbv, haheadv⟩

section Lock
variable {m : μ} {body next : Prog μ} {stack : List (μ × Prog μ)}

theorem Owned.lock (h : Owned s) (hthread : s.threads t = ⟨.locked m body next, stack⟩)
    (hfree : s.owner m = none) :
    Owned ⟨Function.update s.threads t ⟨body, (m, next) :: stack⟩,
      Function.update s.owner m (some t)⟩ := by
  have hnot : ∀ u, m ∉ (s.threads u).held := by
    intro u hmem
    simp [(h.holds m u).mpr hmem] at hfree
  refine ⟨fun m' u => ?_, fun u => ?_⟩
  · by_cases hm : m' = m
    · subst hm
      by_cases hu : u = t
      · subst hu
        simp [LockThread.held]
      · simp [Function.update_of_ne hu, hnot u, Ne.symm hu]
    · simp only [Function.update_of_ne hm, h.holds m' u]
      by_cases hu : u = t
      · subst hu
        simp [LockThread.held, hthread, hm]
      · rw [Function.update_of_ne hu]
  · by_cases hu : u = t
    · subst hu
      have hnodup := h.nodup u
      have hnew := hnot u
      rw [hthread] at hnodup hnew
      simp only [Function.update_self]
      exact List.nodup_cons.mpr ⟨hnew, hnodup⟩
    · simp only [Function.update_of_ne hu]
      exact h.nodup u

theorem Owned.unlock (h : Owned s) (hthread : s.threads t = ⟨.done, (m, next) :: stack⟩) :
    Owned ⟨Function.update s.threads t ⟨next, stack⟩, Function.update s.owner m none⟩ := by
  have howner : s.owner m = some t := (h.holds m t).mpr (by simp [hthread, LockThread.held])
  have hnodup := h.nodup t
  rw [hthread] at hnodup
  obtain ⟨hnew, hrest⟩ := List.nodup_cons.mp hnodup
  refine ⟨fun m' u => ?_, fun u => ?_⟩
  · by_cases hm : m' = m
    · subst hm
      by_cases hu : u = t
      · subst hu
        simpa [LockThread.held] using hnew
      · have hother : m' ∉ (s.threads u).held := by
          intro hmem
          have hsame := (h.holds m' u).mpr hmem
          rw [howner, Option.some.injEq] at hsame
          exact hu hsame.symm
        simpa [Function.update_of_ne hu] using hother
    · simp only [Function.update_of_ne hm, h.holds m' u]
      by_cases hu : u = t
      · subst hu
        simp [LockThread.held, hthread, hm]
      · rw [Function.update_of_ne hu]
  · by_cases hu : u = t
    · subst hu
      simp only [Function.update_self]
      exact hrest
    · simp only [Function.update_of_ne hu]
      exact h.nodup u

theorem not_crossing_lock (inv : LockInv D s)
    (hthread : s.threads t = ⟨.locked m body next, stack⟩) (hclear : AcquiresClear s t)
    {v : θ} (hv : v ≠ t) {a b : μ} :
    ¬ Crossing ⟨Function.update s.threads t ⟨body, (m, next) :: stack⟩,
      Function.update s.owner m (some t)⟩ t v a b := by
  intro h
  obtain ⟨ha, hahead, hb, haheadv⟩ := h
  have hbm : b ≠ m := by
    intro heq
    obtain rfl := heq
    simp [Ne.symm hv] at hb
  simp only [Function.update_of_ne hbm] at hb
  simp only [Function.update_of_ne hv] at haheadv
  simp only [Function.update_self] at hahead
  by_cases ham : a = m
  · subst ham
    have hbody : body.Locks b := by
      rcases hahead with hbody | ⟨hne, -⟩
      · exact hbody
      · exact absurd rfl hne
    exact hclear a body next (by rw [hthread]) b v hb hv hbody haheadv
  · simp only [Function.update_of_ne ham] at ha
    have hheld := (inv.owned.holds a t).mp ha
    rw [hthread] at hheld
    refine inv.clear t v a b (Ne.symm hv) ⟨ha, ?_, hb, haheadv⟩
    rw [hthread]
    exact ahead_of_lock hheld hahead

theorem LockInv.lock (inv : LockInv D s)
    (hthread : s.threads t = ⟨.locked m body next, stack⟩) (hfree : s.owner m = none)
    (hclear : AcquiresClear s t) :
    LockInv D ⟨Function.update s.threads t ⟨body, (m, next) :: stack⟩,
      Function.update s.owner m (some t)⟩ := by
  refine ⟨inv.owned.lock hthread hfree, fun u => ?_, fun u v a b huv hcross => ?_⟩
  · by_cases hu : u = t
    · subst hu
      have hdisciplined := inv.disciplined u
      rw [hthread] at hdisciplined
      obtain ⟨⟨hlock, hbody, hnext⟩, hframes⟩ := hdisciplined
      simp only [Function.update_self]
      exact ⟨hbody, hlock, hnext, hframes⟩
    · simp only [Function.update_of_ne hu]
      exact inv.disciplined u
  · by_cases hu : u = t
    · subst hu
      exact not_crossing_lock inv hthread hclear (Ne.symm huv) hcross
    · by_cases hv : v = t
      · subst hv
        exact not_crossing_lock inv hthread hclear huv hcross.symm
      · obtain ⟨ha, haheadu, hb, haheadv⟩ := hcross
        have ham : a ≠ m := by
          intro heq
          obtain rfl := heq
          simp [Ne.symm hu] at ha
        have hbm : b ≠ m := by
          intro heq
          obtain rfl := heq
          simp [Ne.symm hv] at hb
        simp only [Function.update_of_ne ham] at ha
        simp only [Function.update_of_ne hbm] at hb
        simp only [Function.update_of_ne hu] at haheadu
        simp only [Function.update_of_ne hv] at haheadv
        exact inv.clear u v a b huv ⟨ha, haheadu, hb, haheadv⟩

theorem LockInv.unlock (inv : LockInv D s)
    (hthread : s.threads t = ⟨.done, (m, next) :: stack⟩) :
    LockInv D ⟨Function.update s.threads t ⟨next, stack⟩, Function.update s.owner m none⟩ := by
  refine ⟨inv.owned.unlock hthread, fun u => ?_, ?_⟩
  · by_cases hu : u = t
    · subst hu
      have hdisciplined := inv.disciplined u
      rw [hthread] at hdisciplined
      obtain ⟨-, -, hnext, hframes⟩ := hdisciplined
      simp only [Function.update_self]
      exact ⟨hnext, hframes⟩
    · simp only [Function.update_of_ne hu]
      exact inv.disciplined u
  · have hbefore : ∀ u a b, a ≠ m →
        ((Function.update s.threads t ⟨next, stack⟩) u).Ahead a b → (s.threads u).Ahead a b := by
      intro u a b ham hahead
      by_cases hu : u = t
      · subst hu
        simp only [Function.update_self] at hahead
        rw [hthread]
        exact ahead_of_unlock (Ne.symm ham) hahead
      · rwa [Function.update_of_ne hu] at hahead
    intro u v a b huv h
    obtain ⟨ha, haheadu, hb, haheadv⟩ := h
    have ham : a ≠ m := by
      intro heq
      obtain rfl := heq
      simp at ha
    have hbm : b ≠ m := by
      intro heq
      obtain rfl := heq
      simp at hb
    simp only [Function.update_of_ne ham] at ha
    simp only [Function.update_of_ne hbm] at hb
    exact inv.clear u v a b huv ⟨ha, hbefore u a b ham haheadu, hb, hbefore v b a hbm haheadv⟩

end Lock

theorem LockInv.advance (inv : LockInv D s) (hclear : AcquiresClear s t)
    (h : s.advance t = some s') : LockInv D s' := by
  rcases advance_cases h with ⟨m, body, next, stack, hthread, hfree, rfl⟩ |
    ⟨m, next, stack, hthread, rfl⟩
  · exact inv.lock hthread hfree hclear
  · exact inv.unlock hthread

end Steps

theorem acquiresClear_iff {s : LockState θ μ} {t : θ} :
    AcquiresClear s t ↔ match (s.threads t).current with
      | .done => True
      | .locked m body _ => ∀ b, body.Locks b → ∀ u ∈ s.owner b, u ≠ t →
        ¬ (s.threads u).Ahead b m := by
  unfold AcquiresClear
  cases (s.threads t).current with
  | done => simp
  | locked m body next =>
    constructor
    · intro h b hbody u hu hne
      exact h m body next rfl b u hu hne hbody
    · intro h m' body' next' heq b u hu hne hbody
      cases heq
      exact h b hbody u hu hne

section Decidable
variable [DecidableEq θ] [DecidableEq μ]

def Prog.decidableLocks (b : μ) : (p : Prog μ) → Decidable (p.Locks b)
  | .done => inferInstanceAs (Decidable False)
  | .locked m body next =>
    haveI := body.decidableLocks b
    haveI := next.decidableLocks b
    inferInstanceAs (Decidable (m = b ∨ body.Locks b ∨ next.Locks b))

instance (b : μ) (p : Prog μ) : Decidable (p.Locks b) := p.decidableLocks b

def decidableAheadOf (a b : μ) :
    (current : Prog μ) → (stack : List (μ × Prog μ)) → Decidable (AheadOf a b current stack)
  | _, [] => inferInstanceAs (Decidable False)
  | current, (m, next) :: rest =>
    haveI := decidableAheadOf a b next rest
    inferInstanceAs (Decidable (current.Locks b ∨ m ≠ a ∧ AheadOf a b next rest))

instance (t : LockThread μ) (a b : μ) : Decidable (t.Ahead a b) :=
  decidableAheadOf a b t.current t.stack

instance [Fintype μ] (s : LockState θ μ) (t : θ) : Decidable (AcquiresClear s t) :=
  haveI : Decidable (match (s.threads t).current with
      | .done => True
      | .locked m body _ => ∀ b, body.Locks b → ∀ u ∈ s.owner b, u ≠ t →
        ¬ (s.threads u).Ahead b m) :=
    match (s.threads t).current with
    | .done => inferInstanceAs (Decidable True)
    | .locked _ body _ => inferInstanceAs (Decidable (∀ b, Prog.Locks b body → ∀ u ∈ s.owner b, _))
  decidable_of_iff _ acquiresClear_iff.symm

end Decidable
end Rpi3Device.LockPrograms
