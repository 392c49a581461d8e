import Rpi3Device.TransitionSystem

/-!
# Calls on locked data that wait on words of it

Threads make calls on shared data under one lock. A call that cannot go on gives up the
lock and sleeps on a word of the data, unless the word is no longer what the call saw; it
then starts over. A call that is done may signal a word after it has given up the lock.
A signal visits the sides of its route one after the other and wakes what sleeps there.

The lock word names the side of its holder only. Whether a word moved is counted without
bound beside the run; the word itself wraps around.
-/

namespace Rpi3Device.FutexMonitor
open TransitionSystem

inductive Outcome (δ ω ρ : Type*) where
  | wait (w : ω)
  | done (data : δ) (result : ρ) (moved : Option (ω × ℕ))

structure Monitor (κ δ ω ρ : Type*) where
  body : κ → δ → Outcome δ ω ρ
  word : ω → δ → UInt32

inductive Pc (κ δ ω : Type*) where
  | idle
  | entering (c : κ)
  | locked (c : κ)
  | working (c : κ) (seen : δ)
  | giving (c : κ) (w : ω) (expected : UInt32) (mark : ℕ)
  | checking (c : κ) (w : ω) (expected : UInt32) (mark : ℕ)
  | asleep (c : κ) (w : ω)
  | leaving (w : Option ω)
  | signalling (w : ω)

structure State (θ σ κ δ ω : Type*) where
  data : δ
  lock : Option σ := none
  pcs : θ → Pc κ δ ω := fun _ => .idle
  moved : ω → ℕ := fun _ => 0
  pending : List (ω × List σ) := []

inductive Input (θ σ κ ω : Type*) where
  | call (t : θ) (c : κ)
  | acquire (t : θ)
  | look (t : θ)
  | act (t : θ)
  | unlock (t : θ)
  | check (t : θ)
  | wakeEarly (t : θ)
  | send (t : θ)
  | deliver (w : ω) (s : σ) (rest : List σ)

/-- Where the threads run and which sides their signals visit. -/
structure Sides (θ σ : Type*) where
  side : θ → σ
  route : σ → List σ

variable {θ σ κ δ ω ρ : Type*}

def Pc.holds : Pc κ δ ω → Bool
  | .locked _ | .working _ _ | .giving _ _ _ _ | .leaving _ => true
  | _ => false

def Pc.atRest : Pc κ δ ω → Bool
  | .idle | .asleep _ _ => true
  | _ => false

def Pc.sleeping : Pc κ δ ω → Option (κ × ω)
  | .asleep c w => some (c, w)
  | _ => none

theorem sleeping_eq_some {pc : Pc κ δ ω} {c : κ} {w : ω} :
    pc.sleeping = some (c, w) ↔ pc = .asleep c w := by
  cases pc <;> simp [Pc.sleeping]

def Pc.WillSignal (w : ω) : Pc κ δ ω → Prop
  | .leaving v => v = some w
  | .signalling v => v = w
  | _ => False

theorem not_atRest {pc : Pc κ δ ω} {w : ω} (h : pc.WillSignal w) : ¬ pc.atRest := by
  cases pc with
  | idle => exact h.elim
  | asleep c v => exact h.elim
  | _ => simp [Pc.atRest]

section Steps
variable [DecidableEq θ] [DecidableEq σ] [DecidableEq ω]

def State.at (s : State θ σ κ δ ω) (t : θ) (pc : Pc κ δ ω) : State θ σ κ δ ω :=
  { s with pcs := Function.update s.pcs t pc }

def Pc.wake (w : ω) (here : Bool) : Pc κ δ ω → Pc κ δ ω
  | .asleep c v => if here ∧ v = w then .entering c else .asleep c v
  | pc => pc

def travelled : Option (ω × ℕ) → ω → ℕ
  | none, _ => 0
  | some (v, k), w => if v = w then k else 0

def State.advance (s : State θ σ κ δ ω) (m : Option (ω × ℕ)) (w : ω) : ℕ :=
  s.moved w + travelled m w

def Monitor.act (M : Monitor κ δ ω ρ) (s : State θ σ κ δ ω) (t : θ) (c : κ) (seen : δ) :
    State θ σ κ δ ω × List (θ × κ × ρ) :=
  match M.body c seen with
  | .wait w => (s.at t (.giving c w (M.word w seen) (s.moved w)), [])
  | .done d r m =>
    ({ s.at t (.leaving (m.map Prod.fst)) with data := d, moved := s.advance m }, [(t, c, r)])

def Monitor.step (M : Monitor κ δ ω ρ) (G : Sides θ σ) (s : State θ σ κ δ ω) :
    Input θ σ κ ω → Option (State θ σ κ δ ω × List (θ × κ × ρ))
  | .call t c =>
    match s.pcs t with
    | .idle => some (s.at t (.entering c), [])
    | _ => none
  | .acquire t =>
    match s.pcs t with
    | .entering c =>
      if s.lock = none then some ({ s.at t (.locked c) with lock := some (G.side t) }, [])
      else some (s, [])
    | _ => none
  | .look t =>
    match s.pcs t with
    | .locked c => some (s.at t (.working c s.data), [])
    | _ => none
  | .act t =>
    match s.pcs t with
    | .working c seen => some (M.act s t c seen)
    | _ => none
  | .unlock t =>
    match s.pcs t with
    | .giving c w e mark => some ({ s.at t (.checking c w e mark) with lock := none }, [])
    | .leaving none => some ({ s.at t .idle with lock := none }, [])
    | .leaving (some w) => some ({ s.at t (.signalling w) with lock := none }, [])
    | _ => none
  | .check t =>
    match s.pcs t with
    | .checking c w e _ =>
      some (s.at t (if M.word w s.data = e then .asleep c w else .entering c), [])
    | _ => none
  | .wakeEarly t =>
    match s.pcs t with
    | .asleep c _ => some (s.at t (.entering c), [])
    | _ => none
  | .send t =>
    match s.pcs t with
    | .signalling w =>
      some ({ s.at t .idle with pending := (w, G.route (G.side t)) :: s.pending }, [])
    | _ => none
  | .deliver w x rest =>
    if (w, x :: rest) ∈ s.pending then
      some ({ s with
        pcs := fun t => (s.pcs t).wake w (decide (G.side t = x))
        pending := (w, rest) :: s.pending.erase (w, x :: rest) }, [])
    else none

def Monitor.machine (M : Monitor κ δ ω ρ) (G : Sides θ σ) :
    Machine (State θ σ κ δ ω) (Input θ σ κ ω) (θ × κ × ρ) := ⟨M.step G⟩

end Steps

def Pc.Prompt (moved : ω → ℕ) : Pc κ δ ω → Prop
  | .checking _ w _ mark => moved w < mark + 2 ^ 32
  | _ => True

instance (moved : ω → ℕ) (pc : Pc κ δ ω) : Decidable (pc.Prompt moved) :=
  match pc with
  | .checking _ w _ mark => inferInstanceAs (Decidable (moved w < mark + 2 ^ 32))
  | .idle | .entering _ | .locked _ | .working _ _ | .giving _ _ _ _ | .asleep _ _ | .leaving _
  | .signalling _ => inferInstanceAs (Decidable True)

/-- A thread that is about to sleep compares the word before it moved `2 ^ 32` further. -/
def Prompt (s : State θ σ κ δ ω) : Input θ σ κ ω → Prop
  | .check t => (s.pcs t).Prompt s.moved
  | _ => True

instance (s : State θ σ κ δ ω) (i : Input θ σ κ ω) : Decidable (Prompt s i) :=
  match i with
  | .check t => inferInstanceAs (Decidable ((s.pcs t).Prompt s.moved))
  | .call _ _ | .acquire _ | .look _ | .act _ | .unlock _ | .wakeEarly _ | .send _
  | .deliver _ _ _ => inferInstanceAs (Decidable True)

section Moves
variable [DecidableEq θ] [DecidableEq σ] [DecidableEq ω]

inductive Moves (M : Monitor κ δ ω ρ) (G : Sides θ σ) (s : State θ σ κ δ ω) :
    State θ σ κ δ ω → List (θ × κ × ρ) → Prop where
  | call {t c} : s.pcs t = .idle → Moves M G s (s.at t (.entering c)) []
  | acquire {t c} : s.pcs t = .entering c → s.lock = none →
      Moves M G s { s.at t (.locked c) with lock := some (G.side t) } []
  | spin : Moves M G s s []
  | look {t c} : s.pcs t = .locked c → Moves M G s (s.at t (.working c s.data)) []
  | wait {t c seen w} : s.pcs t = .working c seen → M.body c seen = .wait w →
      Moves M G s (s.at t (.giving c w (M.word w seen) (s.moved w))) []
  | done {t c seen d r m} : s.pcs t = .working c seen → M.body c seen = .done d r m →
      Moves M G s { s.at t (.leaving (m.map Prod.fst)) with data := d, moved := s.advance m }
        [(t, c, r)]
  | give {t c w e mark} : s.pcs t = .giving c w e mark →
      Moves M G s { s.at t (.checking c w e mark) with lock := none } []
  | leave {t} : s.pcs t = .leaving none → Moves M G s { s.at t .idle with lock := none } []
  | signal {t w} : s.pcs t = .leaving (some w) →
      Moves M G s { s.at t (.signalling w) with lock := none } []
  | sleep {t c w e mark} : s.pcs t = .checking c w e mark → M.word w s.data = e →
      Prompt s (.check t : Input θ σ κ ω) → Moves M G s (s.at t (.asleep c w)) []
  | retry {t c} : (∃ w e mark, s.pcs t = .checking c w e mark) ∨ (∃ w, s.pcs t = .asleep c w) →
      Moves M G s (s.at t (.entering c)) []
  | send {t w} : s.pcs t = .signalling w →
      Moves M G s { s.at t .idle with pending := (w, G.route (G.side t)) :: s.pending } []
  | deliver {w x rest} : (w, x :: rest) ∈ s.pending →
      Moves M G s { s with
        pcs := fun t => (s.pcs t).wake w (decide (G.side t = x))
        pending := (w, rest) :: s.pending.erase (w, x :: rest) } []

theorem moves_of_step {M : Monitor κ δ ω ρ} {G : Sides θ σ} {s s' : State θ σ κ δ ω}
    {i : Input θ σ κ ω} {es : List (θ × κ × ρ)} (hok : Prompt s i)
    (h : M.step G s i = some (s', es)) : Moves M G s s' es := by
  cases i with
  | call t c =>
    simp only [Monitor.step] at h
    split at h <;> cases h
    exact .call ‹_›
  | acquire t =>
    simp only [Monitor.step] at h
    split at h
    · split at h <;> cases h
      · exact .acquire ‹_› ‹_›
      · exact .spin
    · cases h
  | look t =>
    simp only [Monitor.step] at h
    split at h <;> cases h
    exact .look ‹_›
  | act t =>
    simp only [Monitor.step] at h
    split at h
    · rename_i c seen hpc
      simp only [Monitor.act, Option.some.injEq] at h
      split at h <;> cases h
      · exact .wait hpc ‹_›
      · exact .done hpc ‹_›
    · cases h
  | unlock t =>
    simp only [Monitor.step] at h
    split at h <;> cases h
    · exact .give ‹_›
    · exact .leave ‹_›
    · exact .signal ‹_›
  | check t =>
    simp only [Monitor.step] at h
    split at h
    · rename_i c w e mark hpc
      by_cases hsame : M.word w s.data = e
      · rw [if_pos hsame] at h
        cases h
        exact .sleep hpc hsame hok
      · rw [if_neg hsame] at h
        cases h
        exact .retry (.inl ⟨w, e, mark, hpc⟩)
    · cases h
  | wakeEarly t =>
    simp only [Monitor.step] at h
    split at h <;> cases h
    exact .retry (.inr ⟨_, ‹_›⟩)
  | send t =>
    simp only [Monitor.step] at h
    split at h <;> cases h
    exact .send ‹_›
  | deliver w x rest =>
    simp only [Monitor.step] at h
    split at h <;> cases h
    exact .deliver ‹_›

end Moves

section Lock
variable [DecidableEq θ] {M : Monitor κ δ ω ρ} {G : Sides θ σ}
  {s s' : State θ σ κ δ ω} {es : List (θ × κ × ρ)}

def Owned (G : Sides θ σ) (s : State θ σ κ δ ω) (owner : Option θ) : Prop :=
  s.lock = owner.map G.side ∧ (∀ t, (s.pcs t).holds ↔ owner = some t) ∧
    ∀ t c seen, s.pcs t = .working c seen → seen = s.data

theorem wake_holds [DecidableEq ω] (pc : Pc κ δ ω) (w : ω) (here : Bool) :
    (pc.wake w here).holds = pc.holds := by
  cases pc with
  | asleep c v =>
    simp only [Pc.wake]
    split <;> rfl
  | _ => rfl

theorem wake_eq_working [DecidableEq ω] {pc : Pc κ δ ω} {w : ω} {here : Bool} {c : κ} {seen : δ}
    (h : pc.wake w here = .working c seen) : pc = .working c seen := by
  cases pc with
  | asleep d v =>
    simp only [Pc.wake] at h
    split at h <;> cases h
  | _ => exact h

theorem Owned.at {owner : Option θ} (h : Owned G s owner) {t : θ} {p : Pc κ δ ω}
    (hholds : p.holds = (s.pcs t).holds)
    (hseen : ∀ c seen, p = .working c seen → seen = s.data) : Owned G (s.at t p) owner := by
  obtain ⟨hlock, howner, hdata⟩ := h
  refine ⟨hlock, ?_, ?_⟩
  · intro u
    by_cases hu : u = t
    · rw [hu, ← howner t, ← hholds]
      simp [State.at]
    · simpa [State.at, Function.update_of_ne hu] using howner u
  · intro u c seen hpc
    by_cases hu : u = t
    · rw [hu] at hpc
      exact hseen c seen (by simpa [State.at] using hpc)
    · exact hdata u c seen (by simpa [State.at, Function.update_of_ne hu] using hpc)

theorem Owned.acquire (h : Owned G s none) {t : θ} {c : κ} :
    Owned G { s.at t (.locked c) with lock := some (G.side t) } (some t) := by
  obtain ⟨-, howner, hdata⟩ := h
  refine ⟨rfl, ?_, ?_⟩
  · intro u
    by_cases hu : u = t
    · simp [State.at, hu, Pc.holds]
    · have hfree := howner u
      simp only [State.at, Function.update_of_ne hu, Option.some.injEq]
      constructor
      · intro hholds
        exact absurd (hfree.mp hholds) (by simp)
      · intro heq
        exact absurd heq.symm hu
  · intro u d seen hpc
    by_cases hu : u = t
    · simp [State.at, hu] at hpc
    · exact hdata u d seen (by simpa [State.at, Function.update_of_ne hu] using hpc)

theorem Owned.release {owner : Option θ} (h : Owned G s owner) {t : θ} {pc : Pc κ δ ω}
    (hholds : (s.pcs t).holds) (hpc : pc.holds = false) :
    Owned G { s.at t pc with lock := none } none := by
  obtain ⟨-, howner, hdata⟩ := h
  have ht := (howner t).mp hholds
  refine ⟨rfl, ?_, ?_⟩
  · intro u
    by_cases hu : u = t
    · simp [State.at, hu, hpc]
    · simp only [State.at, Function.update_of_ne hu, reduceCtorEq, iff_false]
      intro hother
      rw [(howner u).mp hother] at ht
      exact hu (Option.some.inj ht)
  · intro u c seen hworking
    by_cases hu : u = t
    · rw [hu] at hworking
      simp only [State.at, Function.update_self] at hworking
      rw [hworking] at hpc
      cases hpc
    · exact hdata u c seen (by simpa [State.at, Function.update_of_ne hu] using hworking)

theorem Owned.done {owner : Option θ} (h : Owned G s owner) {t : θ} {pc : Pc κ δ ω}
    {c : κ} {seen d : δ} (moved : ω → ℕ) (hpc : s.pcs t = .working c seen)
    (hholds : pc.holds) (hnot : ∀ c seen, pc ≠ .working c seen) :
    Owned G { s.at t pc with data := d, moved := moved } owner := by
  obtain ⟨hlock, howner, -⟩ := h
  have ht : owner = some t := (howner t).mp (by rw [hpc]; rfl)
  refine ⟨hlock, ?_, ?_⟩
  · intro u
    by_cases hu : u = t
    · simp [State.at, hu, hholds, ht]
    · simpa [State.at, Function.update_of_ne hu] using howner u
  · intro u c' seen' hworking
    by_cases hu : u = t
    · rw [hu] at hworking
      simp only [State.at, Function.update_self] at hworking
      exact absurd hworking (hnot c' seen')
    · simp only [State.at, Function.update_of_ne hu] at hworking
      have hother := (howner u).mp (by rw [hworking]; rfl)
      rw [ht] at hother
      exact absurd (Option.some.inj hother).symm hu

theorem Owned.moves [DecidableEq σ] [DecidableEq ω] (h : ∃ owner, Owned G s owner)
    (hm : Moves M G s s' es) : ∃ owner, Owned G s' owner := by
  obtain ⟨owner, h⟩ := h
  cases hm with
  | call hpc => exact ⟨owner, h.at (by rw [hpc]; rfl) (by simp)⟩
  | acquire hpc hfree =>
    have hnone : owner = none := by simpa [hfree] using h.1.symm
    exact ⟨_, Owned.acquire (hnone ▸ h)⟩
  | spin => exact ⟨owner, h⟩
  | look hpc =>
    refine ⟨owner, h.at (by rw [hpc]; rfl) ?_⟩
    intro c seen heq
    exact (Pc.working.inj heq).2.symm
  | wait hpc _ => exact ⟨owner, h.at (by rw [hpc]; rfl) (by simp)⟩
  | done hpc _ => exact ⟨owner, h.done _ hpc rfl (by simp)⟩
  | give hpc => exact ⟨none, h.release (by rw [hpc]; rfl) rfl⟩
  | leave hpc => exact ⟨none, h.release (by rw [hpc]; rfl) rfl⟩
  | signal hpc => exact ⟨none, h.release (by rw [hpc]; rfl) rfl⟩
  | sleep hpc _ _ => exact ⟨owner, h.at (by rw [hpc]; rfl) (by simp)⟩
  | retry hpc =>
    refine ⟨owner, h.at ?_ (by simp)⟩
    obtain ⟨w, e, mark, hpc⟩ | ⟨w, hpc⟩ := hpc <;> rw [hpc] <;> rfl
  | send hpc => exact ⟨owner, h.at (p := .idle) (by rw [hpc]; rfl) (by simp)⟩
  | deliver hmem =>
    obtain ⟨hlock, howner, hdata⟩ := h
    refine ⟨owner, hlock, ?_, ?_⟩
    · intro u
      rw [wake_holds]
      exact howner u
    · intro u c seen hpc
      exact hdata u c seen (wake_eq_working hpc)

end Lock

section Waiting
variable {M : Monitor κ δ ω ρ} {G : Sides θ σ} {s : State θ σ κ δ ω} {w : ω} {x : σ}

def UnderWay (s : State θ σ κ δ ω) (w : ω) (x : σ) : Prop :=
  (∃ t, (s.pcs t).WillSignal w) ∨ ∃ route, (w, route) ∈ s.pending ∧ x ∈ route

def Watched (M : Monitor κ δ ω ρ) (s : State θ σ κ δ ω) (x : σ) : Pc κ δ ω → Prop
  | .giving c w e mark | .checking c w e mark =>
    mark ≤ s.moved w ∧ M.word w s.data = e + UInt32.ofNat (s.moved w - mark) ∧
      (s.moved w = mark → M.body c s.data = .wait w)
  | .asleep c w => M.body c s.data = .wait w ∨ UnderWay s w x
  | _ => True

/-- What a family of calls has to satisfy: the calls keep `P`, a word goes on by what a call
says it moved it, and a call that waits on a word goes on waiting until the word moves. -/
structure Lawful [DecidableEq ω] (M : Monitor κ δ ω ρ) (P : List (θ × κ × ρ) → δ → Prop) :
    Prop where
  keep : ∀ {tr t c d d' r m}, P tr d → M.body c d = .done d' r m → P (tr ++ [(t, c, r)]) d'
  word_done : ∀ {tr c d d' r m}, P tr d → M.body c d = .done d' r m →
    ∀ w, M.word w d' = M.word w d + UInt32.ofNat (travelled m w)
  wait_done : ∀ {tr c c' d d' r m w}, P tr d → M.body c d = .wait w →
    M.body c' d = .done d' r m → M.body c d' = .wait w ∨ 0 < travelled m w

def Sound (M : Monitor κ δ ω ρ) (G : Sides θ σ) (P : List (θ × κ × ρ) → δ → Prop)
    (tr : List (θ × κ × ρ)) (s : State θ σ κ δ ω) : Prop :=
  P tr s.data ∧ (∃ owner, Owned G s owner) ∧ ∀ t, Watched M s (G.side t) (s.pcs t)

/-- No thread is in the middle of a call, except asleep, and no signal is under way. -/
def Quiet (s : State θ σ κ δ ω) : Prop :=
  (∀ t, (s.pcs t).atRest) ∧ ∀ p ∈ s.pending, p.2 = []

theorem Sound.waits_of_quiet {P : List (θ × κ × ρ) → δ → Prop} {tr : List (θ × κ × ρ)}
    (h : Sound M G P tr s) (hquiet : Quiet s) {t : θ} {c : κ} {w : ω}
    (hpc : s.pcs t = .asleep c w) : M.body c s.data = .wait w := by
  obtain ⟨hthreads, hpending⟩ := hquiet
  have hwatched := h.2.2 t
  rw [hpc] at hwatched
  obtain hwait | ⟨u, hu⟩ | ⟨route, hmem, hx⟩ := hwatched
  · exact hwait
  · exact absurd (hthreads u) (not_atRest hu)
  · have hnil : route = [] := hpending (w, route) hmem
    rw [hnil] at hx
    exact absurd hx List.not_mem_nil

section Threads
variable [DecidableEq θ]

theorem UnderWay.at (h : UnderWay s w x) {t : θ} {p : Pc κ δ ω}
    (hpc : (s.pcs t).WillSignal w → p.WillSignal w) : UnderWay (s.at t p) w x := by
  obtain ⟨u, hu⟩ | hpending := h
  · refine .inl ⟨u, ?_⟩
    by_cases hut : u = t
    · subst hut
      simpa [State.at] using hpc hu
    · simpa [State.at, Function.update_of_ne hut] using hu
  · exact .inr hpending

theorem Watched.at {p' : Pc κ δ ω} (h : Watched M s x p') {t : θ} {p : Pc κ δ ω}
    (hpc : ∀ w, (s.pcs t).WillSignal w → p.WillSignal w) :
    Watched M (s.at t p) x p' := by
  cases p' with
  | asleep c w =>
    obtain hwait | hway := h
    · exact .inl hwait
    · exact .inr (hway.at (hpc w))
  | _ => exact h

theorem watched_of_at {s' : State θ σ κ δ ω} {t : θ} {pc : Pc κ δ ω}
    (h : ∀ u, Watched M s (G.side u) (s.pcs u)) (hpcs : s'.pcs = Function.update s.pcs t pc)
    (hstay : ∀ u, u ≠ t → Watched M s (G.side u) (s.pcs u) → Watched M s' (G.side u) (s.pcs u))
    (hgo : Watched M s (G.side t) (s.pcs t) → Watched M s' (G.side t) pc) (u : θ) :
    Watched M s' (G.side u) (s'.pcs u) := by
  rw [hpcs]
  by_cases hu : u = t
  · subst hu
    rw [Function.update_self]
    exact hgo (h u)
  · rw [Function.update_of_ne hu]
    exact hstay u hu (h u)

end Threads

theorem travelled_pos [DecidableEq ω] {m : Option (ω × ℕ)} (h : 0 < travelled m w) :
    m.map Prod.fst = some w := by
  obtain _ | ⟨v, k⟩ := m
  · simp [travelled] at h
  · by_cases hv : v = w
    · simp [hv]
    · simp [travelled, hv] at h

theorem UnderWay.send [DecidableEq θ] (hroute : ∀ x y, x ∈ G.route y) (h : UnderWay s w x)
    {t : θ} {v : ω} (hpc : s.pcs t = .signalling v) :
    UnderWay { s.at t .idle with pending := (v, G.route (G.side t)) :: s.pending } w x := by
  obtain ⟨u, hu⟩ | ⟨route, hmem, hx⟩ := h
  · by_cases hut : u = t
    · rw [hut, hpc] at hu
      obtain rfl : v = w := hu
      exact .inr ⟨_, List.mem_cons_self, hroute _ _⟩
    · exact .inl ⟨u, by simpa [State.at, Function.update_of_ne hut] using hu⟩
  · exact .inr ⟨route, List.mem_cons_of_mem _ hmem, hx⟩

section Words
variable [DecidableEq ω]

theorem wake_asleep (c : κ) (u v : ω) (here : Bool) :
    (Pc.asleep c u : Pc κ δ ω).wake v here =
      if here ∧ u = v then .entering c else .asleep c u :=
  rfl

theorem WillSignal.wake {pc : Pc κ δ ω} (h : pc.WillSignal w) (v : ω) (here : Bool) :
    (pc.wake v here).WillSignal w := by
  cases pc with
  | asleep c u => cases h
  | _ => exact h

theorem UnderWay.deliver [DecidableEq σ] (h : UnderWay s w x) {v : ω} {y : σ} {rest : List σ}
    (hother : ¬ (v = w ∧ x = y)) :
    UnderWay { s with
      pcs := fun t => (s.pcs t).wake v (decide (G.side t = y))
      pending := (v, rest) :: s.pending.erase (v, y :: rest) } w x := by
  obtain ⟨u, hu⟩ | ⟨route, hmem, hx⟩ := h
  · exact .inl ⟨u, WillSignal.wake hu _ _⟩
  · by_cases hsame : (w, route) = (v, y :: rest)
    · obtain ⟨rfl, rfl⟩ := Prod.mk.inj hsame
      obtain rfl | hrest := List.mem_cons.mp hx
      · exact absurd ⟨rfl, rfl⟩ hother
      · exact .inr ⟨rest, List.mem_cons_self, hrest⟩
    · exact .inr ⟨route, List.mem_cons_of_mem _ ((List.mem_erase_of_ne hsame).mpr hmem), hx⟩

theorem Watched.deliver [DecidableEq σ] {u : θ} (h : Watched M s (G.side u) (s.pcs u)) {v : ω}
    {y : σ} {rest : List σ} :
    Watched M { s with
      pcs := fun t => (s.pcs t).wake v (decide (G.side t = y))
      pending := (v, rest) :: s.pending.erase (v, y :: rest) } (G.side u)
      ((s.pcs u).wake v (decide (G.side u = y))) := by
  generalize s.pcs u = pc at h
  cases pc with
  | asleep c w =>
    rw [wake_asleep]
    split
    · trivial
    · rename_i hnot
      rw [decide_eq_true_eq] at hnot
      obtain hwait | hway := h
      · exact .inl hwait
      · exact .inr (hway.deliver fun hboth => hnot ⟨hboth.2, hboth.1.symm⟩)
  | _ => exact h

variable [DecidableEq θ]

theorem Watched.done {P : List (θ × κ × ρ) → δ → Prop} (hM : Lawful M P) {tr : List (θ × κ × ρ)}
    (hP : P tr s.data) {t : θ} {c : κ} {seen d : δ} {r : ρ} {m : Option (ω × ℕ)}
    (hpc : s.pcs t = .working c seen) (hbody : M.body c s.data = .done d r m)
    {pc : Pc κ δ ω} (h : Watched M s x pc) :
    Watched M { s.at t (.leaving (m.map Prod.fst)) with data := d, moved := s.advance m } x pc := by
  have hgo {c w e mark} (hknown : Watched M s x (.checking c w e mark)) :
      Watched M { s.at t (.leaving (m.map Prod.fst)) with data := d, moved := s.advance m } x
        (.checking c w e mark) := by
    obtain ⟨hmark, hword, hwait⟩ := hknown
    have hsum : s.moved w + travelled m w - mark = s.moved w - mark + travelled m w := by omega
    refine ⟨le_trans hmark (Nat.le_add_right _ _), ?_, ?_⟩
    · simp only [State.advance, hsum, UInt32.ofNat_add]
      rw [hM.word_done hP hbody w, hword, UInt32.add_assoc]
    · intro hstill
      simp only [State.advance] at hstill
      obtain hafter | hmoved := hM.wait_done hP (hwait (by omega)) hbody
      · exact hafter
      · omega
  cases pc with
  | giving c w e mark => exact hgo h
  | checking c w e mark => exact hgo h
  | asleep c w =>
    obtain hwait | hway := h
    · obtain hafter | hmoved := hM.wait_done hP hwait hbody
      · exact .inl hafter
      · exact .inr (.inl ⟨t, by simp [State.at, Pc.WillSignal, travelled_pos hmoved]⟩)
    · refine .inr ?_
      have hother := hway.at (t := t) (p := .leaving (m.map Prod.fst))
        (by rw [hpc]; exact False.elim)
      exact hother
  | _ => exact h

end Words

variable [DecidableEq θ] [DecidableEq σ] [DecidableEq ω] {s' : State θ σ κ δ ω}
  {es : List (θ × κ × ρ)}

theorem Watched.moves {P : List (θ × κ × ρ) → δ → Prop} (hM : Lawful M P)
    (hroute : ∀ x y, x ∈ G.route y) {tr : List (θ × κ × ρ)} (hP : P tr s.data)
    (hseen : ∀ t c seen, s.pcs t = .working c seen → seen = s.data)
    (h : ∀ t, Watched M s (G.side t) (s.pcs t)) (hm : Moves M G s s' es) :
    ∀ t, Watched M s' (G.side t) (s'.pcs t) := by
  cases hm with
  | call hpc =>
    exact watched_of_at h rfl (fun u _ hu => hu.at (by rw [hpc]; exact fun _ => False.elim))
      fun _ => trivial
  | acquire hpc _ =>
    refine watched_of_at h rfl (fun u _ hu => ?_) fun _ => trivial
    exact hu.at (p := .locked _) (by rw [hpc]; exact fun _ => False.elim)
  | spin => exact h
  | look hpc =>
    exact watched_of_at h rfl (fun u _ hu => hu.at (by rw [hpc]; exact fun _ => False.elim))
      fun _ => trivial
  | wait hpc hbody =>
    rw [hseen _ _ _ hpc] at hbody
    refine watched_of_at h rfl
      (fun u _ hu => hu.at (by rw [hpc]; exact fun _ => False.elim)) fun _ => ?_
    refine ⟨le_rfl, ?_, fun _ => hbody⟩
    simp [State.at, hseen _ _ _ hpc]
  | done hpc hbody =>
    rw [hseen _ _ _ hpc] at hbody
    exact watched_of_at h rfl (fun u _ hu => hu.done hM hP hpc hbody) fun _ => trivial
  | give hpc =>
    refine watched_of_at h rfl (fun u _ hu => ?_) fun hgiving => ?_
    · exact hu.at (p := .checking _ _ _ _) (by rw [hpc]; exact fun _ => False.elim)
    · rw [hpc] at hgiving
      exact hgiving
  | leave hpc =>
    refine watched_of_at h rfl (fun u _ hu => ?_) fun _ => trivial
    refine hu.at (p := .idle) ?_
    rw [hpc]
    intro w hw
    cases hw
  | signal hpc =>
    refine watched_of_at h rfl (fun u _ hu => ?_) fun _ => trivial
    refine hu.at (p := .signalling _) ?_
    rw [hpc]
    intro w hw
    exact Option.some.inj hw
  | sleep hpc hsame hprompt =>
    refine watched_of_at h rfl
      (fun u _ hu => hu.at (by rw [hpc]; exact fun _ => False.elim)) fun hknown => ?_
    rw [hpc] at hknown
    obtain ⟨hmark, hword, hwait⟩ := hknown
    simp only [Prompt, hpc, Pc.Prompt] at hprompt
    rw [hsame] at hword
    -- the word went once round at most, so that it did not move at all
    have hzero := UInt32.add_eq_left.mp hword.symm
    have hstill := congrArg UInt32.toNat hzero
    simp only [UInt32.toNat_ofNat', UInt32.toNat_zero] at hstill
    rw [Nat.mod_eq_of_lt (by omega)] at hstill
    exact .inl (hwait (by omega))
  | retry hpc =>
    refine watched_of_at h rfl (fun u _ hu => hu.at ?_) fun _ => trivial
    obtain ⟨w, e, mark, hpc⟩ | ⟨w, hpc⟩ := hpc <;> rw [hpc] <;> exact fun _ => False.elim
  | send hpc =>
    refine watched_of_at h rfl (fun u _ hu => ?_) fun _ => trivial
    generalize s.pcs u = pc at hu
    cases pc with
    | asleep c v =>
      obtain hwait | hway := hu
      · exact .inl hwait
      · exact .inr (hway.send hroute hpc)
    | _ => exact hu
  | deliver _ => exact fun u => (h u).deliver

theorem Sound.moves {P : List (θ × κ × ρ) → δ → Prop} (hM : Lawful M P)
    (hroute : ∀ x y, x ∈ G.route y) {tr : List (θ × κ × ρ)} (h : Sound M G P tr s)
    (hm : Moves M G s s' es) : Sound M G P (tr ++ es) s' := by
  obtain ⟨hP, howned, hwatched⟩ := h
  obtain ⟨owner, -, -, hseen⟩ := id howned
  refine ⟨?_, Owned.moves howned hm, Watched.moves hM hroute hP hseen hwatched hm⟩
  cases hm with
  | done hpc hbody =>
    rw [hseen _ _ _ hpc] at hbody
    exact hM.keep hP hbody
  | _ => simpa [State.at] using hP

theorem sound_of_run {P : List (θ × κ × ρ) → δ → Prop} (hM : Lawful M P)
    (hroute : ∀ x y, x ∈ G.route y) {d : δ} (hd : P [] d) {tr : List (θ × κ × ρ)}
    (run : (M.machine G).Run Prompt { data := d } tr s) : Sound M G P tr s := by
  refine run.invariant ?_ ?_
  · exact ⟨hd, ⟨none, rfl, by simp [Pc.holds], by simp⟩, fun _ => trivial⟩
  · intro tr es s s' i h hok hstep
    exact h.moves hM hroute (moves_of_step hok hstep)

end Waiting

end Rpi3Device.FutexMonitor
