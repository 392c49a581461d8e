import Rpi3Device.Vsoc.SocketForward

/-!
# Who has which pair of queues

Each queue of a pair has a state word that both sides write. A word says of each side whether
it has closed its end, and that is so: no step of one side makes a word say anything else of
the other side, as long as the host takes no pair that the guest is about to reset. Every
update of the state keeps this.
-/

namespace Rpi3Device.Vsoc.SocketForward
open TransitionSystem

/-- What holds of the state words and the clean-ups, whatever the threads are. -/
structure Words {θ : Type*} (s : State θ) : Prop where
  alive : ∀ x, s.process x ≠ .aborted
  paired : ∀ i, s.queueState i .host = .hostConnected ↔ s.queueState i .guest = .hostConnected
  distinct : ∀ i j, s.owner i = s.owner j → s.owner i ≠ 0 → i = j
  bound : ∀ i, s.owner i ≤ s.serial
  taken : ∀ i d, s.queueState i d ≠ .inactive → s.owner i ≠ 0
  outside : ∀ i d, kNumQueues ≤ i → s.queueState i d = .inactive
  cleaned : ∀ x g pc, s.process x = .cleaning g pc → ∀ i < pc.index, ∀ d,
    ¬ (s.queueState i d).saysOpen x
  met : ∀ g pc i, s.process .guest = .cleaning g pc → pc.attended = some i →
    ∀ d, s.queueState i d ≠ .hostConnected
  sending : ∀ x g pc, s.process x = .cleaning g pc → pc.sends →
    (s.queueState pc.index x).saysOpen x

/-- An end is open when a thread has it, and the pair then belongs to the connection of that
thread. -/
structure Threads {θ : Type*} (s : State θ) : Prop where
  ends : ∀ x, s.process x = .running → ∀ i d, (s.queueState i d).saysOpen x ↔
    ∃ k, s.connections x (s.owner i) = some k ∧ k.id = i ∧ k.Holds x d
  owned : ∀ x c k d, s.connections x c = some k → k.Holds x d → s.owner k.id = c
  absent : ∀ x c, s.process x ≠ .running → s.connections x c = none
  marking : ∀ c k d, s.connections .host c = some k → k.Marks .host d →
    s.queueState k.id d ≠ .hostConnected

structure Kept {θ : Type*} (s : State θ) : Prop where
  words : Words s
  threads : Threads s

section Keeping
variable {θ : Type*} {s s' : State θ}

theorem Words.of_view (h : Words s) (hstate : ∀ i d, s'.queueState i d = s.queueState i d)
    (howner : ∀ i, s'.owner i = s.owner i) (hserial : s'.serial = s.serial)
    (hprocess : s'.process = s.process) : Words s' := by
  obtain ⟨h1, h2, h3, h4, h5, h6, h7, h8, h9⟩ := h
  constructor <;> simp only [hstate, howner, hserial, hprocess] <;> assumption

theorem Threads.of_view (h : Threads s) (hstate : ∀ i d, s'.queueState i d = s.queueState i d)
    (howner : ∀ i, s'.owner i = s.owner i) (hprocess : s'.process = s.process)
    (hconn : s'.connections = s.connections) : Threads s' := by
  obtain ⟨h1, h2, h3, h4⟩ := h
  constructor <;> simp only [hstate, howner, hprocess, hconn] <;> assumption

theorem Kept.of_view (h : Kept s) (hstate : ∀ i d, s'.queueState i d = s.queueState i d)
    (howner : ∀ i, s'.owner i = s.owner i) (hserial : s'.serial = s.serial)
    (hprocess : s'.process = s.process) (hconn : s'.connections = s.connections) : Kept s' :=
  ⟨h.words.of_view hstate howner hserial hprocess, h.threads.of_view hstate howner hprocess hconn⟩

theorem Kept.start : Kept ({} : State θ) := by
  have hs : ∀ i d, ({} : State θ).queueState i d = .inactive := fun _ _ => rfl
  constructor
  · constructor <;> simp [hs, State.owner]
  · constructor <;> simp [hs]

theorem Threads.isOpen (h : Threads s) {x : Side} {c : ℕ} {k : Connection} {d : Side}
    (hrun : s.process x = .running) (hk : s.connections x c = some k) (hd : k.Holds x d) :
    (s.queueState k.id d).saysOpen x :=
  (h.ends x hrun k.id d).mpr ⟨k, by rw [h.owned x c k d hk hd, hk], rfl, hd⟩

theorem Threads.running (h : Threads s) {x : Side} {c : ℕ} {k : Connection}
    (hk : s.connections x c = some k) : s.process x = .running := by
  by_contra hx
  simp [h.absent x c hx] at hk

theorem Words.mapState (h : Words s) {i : ℕ} {f : Side → QueueState → QueueState}
    (hne : ∀ d, f d (s.queueState i d) ≠ .hostConnected)
    (hactive : ∀ d, f d (s.queueState i d) ≠ .inactive → s.queueState i d ≠ .inactive)
    (hcleaned : ∀ y g pc, s.process y = .cleaning g pc → i < pc.index → ∀ d,
      ¬ (f d (s.queueState i d)).saysOpen y)
    (hkeep : ∀ y g pc, s.process y = .cleaning g pc → pc.sends → pc.index = i →
      (f y (s.queueState i y)).saysOpen y) : Words (s.mapState i f) where
  alive := h.alive
  paired j := by
    simp only [queueState_mapState]
    split
    · simp [hne]
    · exact h.paired j
  distinct j j' := by simpa using h.distinct j j'
  bound j := by simpa using h.bound j
  taken j d := by
    rw [queueState_mapState, owner_mapState]
    split
    · rename_i hj
      intro hq
      rw [hj]
      exact h.taken i d (hactive d hq)
    · exact h.taken j d
  outside j d hj := by
    rw [queueState_mapState]
    split
    · rename_i hji
      by_contra hq
      exact hactive d hq (h.outside i d (hji ▸ hj))
    · exact h.outside j d hj
  cleaned x g pc hpc j hj d := by
    rw [queueState_mapState]
    split
    · rename_i hji
      exact hcleaned x g pc hpc (hji ▸ hj) d
    · exact h.cleaned x g pc hpc j hj d
  met g pc j hpc hj d := by
    rw [queueState_mapState]
    split
    · exact hne d
    · exact h.met g pc j hpc hj d
  sending x g pc hpc hsends := by
    rw [queueState_mapState]
    split
    · rename_i hji
      exact hkeep x g pc hpc hsends hji
    · exact h.sending x g pc hpc hsends

theorem Words.setProcess (h : Words s) {x : Side} {p : Process} (halive : p ≠ .aborted)
    (hcleaned : ∀ g pc, p = .cleaning g pc → ∀ i < pc.index, ∀ d,
      ¬ (s.queueState i d).saysOpen x)
    (hmet : x = .guest → ∀ g pc i, p = .cleaning g pc → pc.attended = some i →
      ∀ d, s.queueState i d ≠ .hostConnected)
    (hsending : ∀ g pc, p = .cleaning g pc → pc.sends → (s.queueState pc.index x).saysOpen x) :
    Words (s.setProcess x p) where
  alive y := by
    rw [process_setProcess]
    split
    · exact halive
    · exact h.alive y
  paired := h.paired
  distinct := h.distinct
  bound := h.bound
  taken := h.taken
  outside := h.outside
  cleaned y g pc hpc := by
    rw [process_setProcess] at hpc
    split at hpc
    · rename_i hy
      subst hy
      exact hcleaned g pc hpc
    · exact h.cleaned y g pc hpc
  met g pc i hpc hi := by
    rw [process_setProcess] at hpc
    split at hpc
    · rename_i hy
      exact hmet hy.symm g pc i hpc hi
    · exact h.met g pc i hpc hi
  sending y g pc hpc := by
    rw [process_setProcess] at hpc
    split at hpc
    · rename_i hy
      subst hy
      exact hsending g pc hpc
    · exact h.sending y g pc hpc

theorem Threads.setProcess (h : Threads s) {x : Side} {p : Process}
    (hnone : ∀ c, s.connections x c = none)
    (hclosed : p = .running → ∀ i d, ¬ (s.queueState i d).saysOpen x) :
    Threads (s.setProcess x p) where
  ends y hy i d := by
    rw [process_setProcess] at hy
    split at hy
    · rename_i hyx
      subst hyx
      have := hclosed hy i d
      simp [this, hnone]
    · exact h.ends y hy i d
  owned := h.owned
  absent y c hy := by
    rw [process_setProcess] at hy
    split at hy
    · rename_i hyx
      exact hyx ▸ hnone c
    · exact h.absent y c hy
  marking := h.marking

theorem Threads.mapState (h : Threads s) {i : ℕ} {f : Side → QueueState → QueueState}
    (hne : ∀ d, f d (s.queueState i d) ≠ .hostConnected)
    (hkeep : ∀ y, s.process y = .running → ∀ d,
      ((f d (s.queueState i d)).saysOpen y ↔ (s.queueState i d).saysOpen y)) :
    Threads (s.mapState i f) where
  ends y hy j d := by
    rw [queueState_mapState, owner_mapState, connections_mapState]
    split
    · rename_i hj
      rw [hkeep y hy d, hj]
      exact h.ends y hy i d
    · exact h.ends y hy j d
  owned y c k d hk hd := by
    rw [owner_mapState]
    exact h.owned y c k d hk hd
  absent := h.absent
  marking c k d hk hd := by
    rw [queueState_mapState]
    split
    · exact hne d
    · exact h.marking c k d hk hd

theorem Kept.setConnection (h : Kept s) {x : Side} {c : ℕ} {k k' : Connection}
    (hk : s.connections x c = some k) (hid : k'.id = k.id)
    (hholds : ∀ d, k'.Holds x d ↔ k.Holds x d)
    (hmarks : x = .host → ∀ d, k'.Marks .host d → s.queueState k.id d ≠ .hostConnected) :
    Kept (s.setConnection x c k') where
  words := h.words.of_view (fun _ _ => rfl) (fun _ => rfl) rfl rfl
  threads :=
    { ends y hy i d := by
        rw [queueState_setConnection, h.threads.ends y hy i d]
        simp only [connections_setConnection, owner_setConnection]
        by_cases heq : y = x ∧ s.owner i = c
        · obtain ⟨rfl, rfl⟩ := heq
          simp [hk, hid, hholds]
        · simp [heq]
      owned y c' k₁ d hk₁ hd := by
        rw [connections_setConnection] at hk₁
        by_cases heq : y = x ∧ c' = c
        · obtain ⟨rfl, rfl⟩ := heq
          simp only [and_self, if_true, Option.some.injEq] at hk₁
          subst hk₁
          rw [owner_setConnection, hid]
          exact h.threads.owned y c' k d hk ((hholds d).mp hd)
        · rw [if_neg heq] at hk₁
          exact h.threads.owned y c' k₁ d hk₁ hd
      absent y c' hy := by
        have habsent := h.threads.absent y c' hy
        rw [connections_setConnection, if_neg]
        · exact habsent
        · intro heq
          obtain ⟨rfl, rfl⟩ := heq
          simp [hk] at habsent
      marking c' k₁ d hk₁ hd := by
        rw [connections_setConnection] at hk₁
        by_cases heq : Side.host = x ∧ c' = c
        · obtain ⟨rfl, rfl⟩ := heq
          simp only [and_self, if_true, Option.some.injEq] at hk₁
          subst hk₁
          rw [queueState_setConnection, hid]
          exact hmarks rfl d hd
        · rw [if_neg heq] at hk₁
          exact h.threads.marking c' k₁ d hk₁ hd }

theorem Kept.marked (h : Kept s) {x : Side} {c : ℕ} {k : Connection} {d : Side}
    (hk : s.connections x c = some k) (hd : k.Marks x d) :
    s.queueState k.id d ≠ .hostConnected := by
  cases x with
  | host => exact h.threads.marking c k d hk hd
  | guest =>
    exact QueueState.ne_hostConnected (h.threads.isOpen (h.threads.running hk) hk hd.holds)

theorem saysOpen_mark {i : ℕ} {d x : Side} (hopen : (s.queueState i d).saysOpen x)
    (hne : s.queueState i d ≠ .hostConnected) (j : ℕ) (d' y : Side) :
    ((s.mark i d x).queueState j d').saysOpen y ↔
      ¬ (y = x ∧ j = i ∧ d' = d) ∧ (s.queueState j d').saysOpen y := by
  rw [State.mark, queueState_mapState]
  split
  · rename_i hj
    subst hj
    split
    · rename_i hd
      subst hd
      rw [QueueState.saysOpen_markDisconnected hopen hne]
      simp
    · rename_i hd
      simp [hd]
  · rename_i hj
    simp [hj]

theorem Words.mark (h : Words s) {i : ℕ} {d x : Side} (hrun : s.process x = .running)
    (hopen : (s.queueState i d).saysOpen x) (hne : ∀ d, s.queueState i d ≠ .hostConnected) :
    Words (s.mark i d x) := by
  have hopens := fun y => @QueueState.saysOpen_markDisconnected _ _ y hopen (hne d)
  refine h.mapState ?_ ?_ ?_ ?_
  · intro d'
    split
    · exact QueueState.markDisconnected_ne
    · exact hne d'
  · intro d'
    split
    · rename_i heq
      subst heq
      exact fun _ => QueueState.ne_inactive hopen
    · exact id
  · intro y g pc hpc hi d'
    have hcleaned := h.cleaned y g pc hpc i hi d'
    split
    · rename_i heq
      subst heq
      exact fun hy => hcleaned ((hopens y).mp hy).2
    · exact hcleaned
  · intro y g pc hpc hsends hi
    have hs := h.sending y g pc hpc hsends
    rw [hi] at hs
    split
    · rename_i heq
      subst heq
      refine (hopens y).mpr ⟨?_, hs⟩
      intro hyx
      simp [hyx, hrun] at hpc
    · exact hs

theorem Kept.mark (h : Kept s) {x : Side} {c : ℕ} {k k' : Connection} {d : Side}
    (hk : s.connections x c = some k) (hd : k.Marks x d) (hid : k'.id = k.id)
    (hgone : ¬ k'.Holds x d) (hholds : ∀ d' ≠ d, (k'.Holds x d' ↔ k.Holds x d'))
    (hmarks : ∀ d' ≠ d, k'.Marks x d' → k.Marks x d') :
    Kept ((s.setConnection x c k').mark k.id d x) := by
  have hrun := h.threads.running hk
  have hopen := h.threads.isOpen hrun hk hd.holds
  have howner := h.threads.owned x c k d hk hd.holds
  have hboth : ∀ d, s.queueState k.id d ≠ .hostConnected := by
    intro d'
    have hne := h.marked hk hd
    have hpaired := h.words.paired k.id
    cases d <;> cases d' <;> simp_all
  have hsaid := @saysOpen_mark _ (s.setConnection x c k') _ _ _ hopen (hboth d)
  refine ⟨(h.words.mark hrun hopen hboth).of_view (fun _ _ => rfl) (fun _ => rfl) rfl rfl,
    ?_, ?_, ?_, ?_⟩
  · intro y hy i d'
    rw [hsaid, State.mark, owner_mapState, connections_mapState]
    have hends := h.threads.ends y hy i d'
    by_cases hyx : y = x
    · subst hyx
      by_cases hi : i = k.id
      · subst hi
        by_cases hdd : d' = d
        · subst hdd
          simp [howner, hgone]
        · simpa [hdd, howner, hk, hid, hholds d' hdd] using hends
      · by_cases hc : s.owner i = c
        · simp only [hc, hk, Option.some.injEq, exists_eq_left'] at hends
          simp [hc, hid, hends, hi, Ne.symm hi]
        · simpa [hc, hi] using hends
    · simpa [hyx] using hends
  · intro y c' k₁ d' hk₁ hd'
    rw [State.mark, connections_mapState, connections_setConnection] at hk₁
    rw [State.mark, owner_mapState, owner_setConnection]
    by_cases heq : y = x ∧ c' = c
    · obtain ⟨rfl, rfl⟩ := heq
      simp only [and_self, if_true, Option.some.injEq] at hk₁
      subst hk₁
      rw [hid]
      exact howner
    · rw [if_neg heq] at hk₁
      exact h.threads.owned y c' k₁ d' hk₁ hd'
  · intro y c' hy
    have habsent := h.threads.absent y c' hy
    rw [State.mark, connections_mapState, connections_setConnection, if_neg]
    · exact habsent
    · intro heq
      obtain ⟨rfl, rfl⟩ := heq
      simp [hk] at habsent
  · intro c' k₁ d' hk₁ hd'
    rw [State.mark, connections_mapState, connections_setConnection] at hk₁
    rw [State.mark, queueState_mapState]
    split
    · split
      · exact QueueState.markDisconnected_ne
      · exact hboth d'
    · rename_i hi
      by_cases heq : Side.host = x ∧ c' = c
      · obtain ⟨rfl, rfl⟩ := heq
        simp only [and_self, if_true, Option.some.injEq] at hk₁
        subst hk₁
        exact absurd hid hi
      · rw [if_neg heq] at hk₁
        exact h.threads.marking c' k₁ d' hk₁ hd'

theorem Kept.restart [DecidableEq θ] (h : Kept s) (x : Side) : Kept (s.restart x) := by
  have hwords : Words (s.setProcess x .starting) := by
    apply h.words.setProcess <;> simp
  refine ⟨hwords.of_view (fun _ _ => rfl) (fun _ => rfl) rfl rfl, ?_, ?_, ?_, ?_⟩
  · intro y hy i d
    have hy' : y ≠ x ∧ s.process y = .running := by
      by_cases hyx : y = x <;> simp_all [State.restart, State.setProcess]
    refine (h.threads.ends y hy'.2 i d).trans ?_
    simp [State.restart, hy'.1, State.owner, State.setProcess]
  · intro y c k d hk hd
    have hy : y ≠ x := by
      rintro rfl
      simp [State.restart] at hk
    refine h.threads.owned y c k d ?_ hd
    simpa [State.restart, hy] using hk
  · intro y c hy
    by_cases hyx : y = x
    · simp [State.restart, hyx]
    · have hrun : s.process y ≠ .running := by simpa [State.restart, State.setProcess, hyx] using hy
      simpa [State.restart, hyx] using h.threads.absent y c hrun
  · intro c k d hk hd
    have hy : Side.host ≠ x := by
      rintro rfl
      simp [State.restart] at hk
    refine h.threads.marking c k d ?_ hd
    simpa [State.restart, hy] using hk

section Acquire
variable (s : State θ) (i j : ℕ) (d x : Side) (c : ℕ) (port : UInt32)

@[simp] theorem queueState_acquire : (s.acquire i port).queueState j d =
    if j = i then .hostConnected else s.queueState j d := by
  simp only [State.queueState, State.acquire, State.setPair, QueuePair.mapState]
  by_cases hj : j = i <;> simp [hj, State.setConnection]

@[simp] theorem owner_acquire :
    (s.acquire i port).owner j = if j = i then s.serial + 1 else s.owner j := by
  simp only [State.owner, State.acquire, State.setPair]
  by_cases hj : j = i <;> simp [hj, State.setConnection]

@[simp] theorem port_acquire : (s.acquire i port).port j = if j = i then port else s.port j := by
  simp only [State.port, State.acquire, State.setPair]
  by_cases hj : j = i <;> simp [hj, State.setConnection]

@[simp] theorem packets_acquire : (s.acquire i port).packets j d = s.packets j d := by
  simp only [State.packets, State.acquire, State.setPair, QueuePair.mapState]
  by_cases hj : j = i <;> simp [hj, State.setConnection]

@[simp] theorem process_acquire : (s.acquire i port).process = s.process := rfl

@[simp] theorem serial_acquire : (s.acquire i port).serial = s.serial + 1 := rfl

@[simp] theorem connections_acquire : (s.acquire i port).connections x c =
    if x = .host ∧ c = s.serial + 1 then some { id := i } else s.connections x c :=
  connections_setConnection s (s.serial + 1) c .host x { id := i }

end Acquire

theorem Kept.free (h : Kept s) {i : ℕ} (hq : ∀ d, s.queueState i d = .inactive) {x d : Side}
    {c : ℕ} {k : Connection} (hk : s.connections x c = some k) (hd : k.Holds x d) : k.id ≠ i := by
  rintro rfl
  exact QueueState.ne_inactive (h.threads.isOpen (h.threads.running hk) hk hd) (hq d)

theorem Words.acquire (h : Words s) {i : ℕ} {port : UInt32} (hrun : s.process .host = .running)
    (hi : i < kNumQueues) (hq : ∀ d, s.queueState i d = .inactive)
    (hreset : ∀ g, s.process .guest ≠ .cleaning g (.resetting i)) : Words (s.acquire i port) := by
  have hbound := h.bound
  have hsilent : ∀ d x, ¬ (s.queueState i d).saysOpen x := by
    intro d x
    simp [hq, QueueState.saysOpen]
  refine ⟨h.alive, ?_, ?_, ?_, ?_, ?_, ?_, ?_, ?_⟩
  · intro j
    have := h.paired j
    simp only [queueState_acquire]
    split <;> simp_all
  · intro j j'
    have hj := hbound j
    have hj' := hbound j'
    have hdistinct := h.distinct j j'
    simp only [owner_acquire]
    split <;> split <;> grind
  · intro j
    have hj := hbound j
    simp only [owner_acquire, serial_acquire]
    split <;> omega
  · intro j d
    rw [queueState_acquire, owner_acquire]
    split
    · simp
    · exact h.taken j d
  · intro j d hj
    rw [queueState_acquire, if_neg (by omega)]
    exact h.outside j d hj
  · intro x g pc hpc j hj d
    have hx : x = .guest := by
      cases x <;> simp_all
    rw [queueState_acquire]
    split
    · simp [hx, QueueState.saysOpen]
    · exact h.cleaned x g pc hpc j hj d
  · intro g pc j hpc hj d
    have hji : j ≠ i := by
      rintro rfl
      cases pc with
      | looking j' => simp [CleanUp.attended] at hj
      | resetting j' =>
        obtain rfl := Option.some.inj hj
        exact hreset g hpc
      | checking j' last =>
        obtain rfl := Option.some.inj hj
        exact hsilent _ _ (h.sending .guest g _ hpc rfl)
      | writing j' last =>
        obtain rfl := Option.some.inj hj
        exact hsilent _ _ (h.sending .guest g _ hpc rfl)
    rw [queueState_acquire, if_neg hji]
    exact h.met g pc j hpc hj d
  · intro x g pc hpc hsends
    have hs := h.sending x g pc hpc hsends
    have hji : pc.index ≠ i := by
      intro heq
      exact hsilent _ _ (heq ▸ hs)
    rw [queueState_acquire, if_neg hji]
    exact hs

theorem Kept.acquire (h : Kept s) {i : ℕ} {port : UInt32} (hrun : s.process .host = .running)
    (hi : i < kNumQueues) (hq : ∀ d, s.queueState i d = .inactive)
    (hreset : ∀ g, s.process .guest ≠ .cleaning g (.resetting i)) : Kept (s.acquire i port) := by
  have hbound := h.words.bound
  refine ⟨h.words.acquire hrun hi hq hreset, ?_, ?_, ?_, ?_⟩
  · intro y hy j d
    have hends := h.threads.ends y hy j d
    rw [queueState_acquire, owner_acquire]
    split
    · rename_i hj
      cases y with
      | host => simp [hj, QueueState.saysOpen, Connection.Holds]
      | guest =>
        have hnone : ∀ k, s.connections .guest (s.serial + 1) = some k → ¬ k.Holds .guest d := by
          intro k hk hd
          have howner := h.threads.owned .guest _ k d hk hd
          have := hbound k.id
          omega
        simp only [QueueState.saysOpen, connections_acquire]
        simpa using fun k hk _ => hnone k hk
    · have hj := hbound j
      have hne : ¬ (y = .host ∧ s.owner j = s.serial + 1) := by omega
      simpa only [connections_acquire, if_neg hne] using hends
  · intro y c k d hk hd
    rw [connections_acquire] at hk
    rw [owner_acquire]
    split at hk
    · rename_i heq
      obtain rfl := Option.some.inj hk
      simp [heq.2]
    · rw [if_neg (h.free hq hk hd)]
      exact h.threads.owned y c k d hk hd
  · intro y c hy
    have hyh : y ≠ .host := by
      rintro rfl
      exact hy hrun
    rw [connections_acquire, if_neg (by simp [hyh])]
    exact h.threads.absent y c hy
  · intro c k d hk hd
    rw [connections_acquire] at hk
    rw [queueState_acquire]
    split at hk
    · obtain rfl := Option.some.inj hk
      simp [Connection.Marks] at hd
    · rw [if_neg (h.free hq hk hd.holds)]
      exact h.threads.marking c k d hk hd

theorem Kept.join (h : Kept s) {i : ℕ} (hrun : s.process .guest = .running)
    (hq : ∀ d, s.queueState i d = .hostConnected) : Kept (s.join i) := by
  have howner : s.owner i ≠ 0 := h.words.taken i .host (by simp [hq])
  have hwords : Words (s.mapState i fun _ _ => .bothConnected) := by
    refine h.words.mapState (by simp) ?_ ?_ (by simp [QueueState.saysOpen])
    · intro d _
      simp [hq]
    · intro y g pc hpc hi d
      have hy : y = .host := by
        cases y <;> simp_all
      have hcleaned := h.words.cleaned y g pc hpc i hi d
      rw [hq, hy] at hcleaned
      simp [QueueState.saysOpen] at hcleaned
  have hnone : ∀ c k d, s.connections .guest c = some k → k.Holds .guest d → k.id ≠ i := by
    rintro c k d hk hd rfl
    have hopen := h.threads.isOpen hrun hk hd
    simp [hq, QueueState.saysOpen] at hopen
  refine ⟨hwords.of_view (fun _ _ => rfl) (fun _ => rfl) rfl rfl, ?_, ?_, ?_, ?_⟩
  · intro y hy j d
    have hends := h.threads.ends y hy j d
    rw [State.join, queueState_mapState, owner_mapState, connections_mapState, owner_setConnection]
    by_cases hj : j = i
    · subst hj
      cases y with
      | host => simpa [hq, QueueState.saysOpen] using hends
      | guest => simp [QueueState.saysOpen, Connection.Holds]
    · have hne : s.owner j ≠ s.owner i := by
        intro heq
        exact hj (h.words.distinct j i heq (heq ▸ howner))
      rw [if_neg hj]
      simpa [hne] using hends
  · intro y c k d hk hd
    rw [State.join, connections_mapState, connections_setConnection] at hk
    rw [State.join, owner_mapState, owner_setConnection]
    split at hk
    · rename_i heq
      obtain rfl := Option.some.inj hk
      exact heq.2.symm
    · exact h.threads.owned y c k d hk hd
  · intro y c hy
    have hyg : y ≠ .guest := by
      rintro rfl
      exact hy hrun
    rw [State.join, connections_mapState, connections_setConnection, if_neg (by simp [hyg])]
    exact h.threads.absent y c hy
  · intro c k d hk hd
    rw [State.join, connections_mapState, connections_setConnection, if_neg (by simp)] at hk
    rw [State.join, queueState_mapState]
    split
    · simp
    · exact h.threads.marking c k d hk hd

end Keeping
end Rpi3Device.Vsoc.SocketForward
