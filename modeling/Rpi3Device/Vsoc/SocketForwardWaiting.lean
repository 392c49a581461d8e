import Rpi3Device.Vsoc.SocketForwardPairs

/-!
# No connection waits unseen

The guest counts in `last_seq_number_` how often it has looked for a waiting connection, and
sleeps when that is the number of connections the host has opened. While it is not looking, at
least as many looks are left as connections wait: a connection that comes up behind a look has
been counted after it began.
-/

namespace Rpi3Device.Vsoc.SocketForward
open TransitionSystem

/-- The connections opened since the shared memory was made can be counted in `seq_num`. -/
def Countable {θ : Type*} (s : State θ) : Input θ → Prop
  | .opener _ => s.serial + 1 < 2 ^ 32
  | _ => True

instance {θ : Type*} (s : State θ) (i : Input θ) : Decidable (Countable s i) :=
  match i with
  | .opener _ => inferInstanceAs (Decidable (s.serial + 1 < 2 ^ 32))
  | .restart _ | .cleanUp _ | .openConnection _ _ | .acceptor | .sender _ _ _ | .receiver _ _ _ =>
    inferInstanceAs (Decidable True)

section Waiting
variable {θ : Type*} {s s' : State θ}

def State.waiting (s : State θ) (i : ℕ) : Finset ℕ :=
  (Finset.range kNumQueues).filter fun j => i ≤ j ∧ s.queueState j .host = .hostConnected

theorem mem_waiting {i j : ℕ} : j ∈ s.waiting i ↔
    j < kNumQueues ∧ i ≤ j ∧ s.queueState j .host = .hostConnected := by
  simp [State.waiting]

theorem waiting_subset (h : ∀ j, s'.queueState j .host = .hostConnected →
    s.queueState j .host = .hostConnected) (i : ℕ) : s'.waiting i ⊆ s.waiting i := by
  intro j hj
  rw [mem_waiting] at hj ⊢
  exact ⟨hj.1, hj.2.1, h j hj.2.2⟩

def State.looks (s : State θ) : ℕ := s.serial - s.lastSeqNumber.toNat

/-- While the guest is not looking, a look is left for each connection that waits. What waits
while it is looking is still ahead of the look, but for one look for each of the others. -/
structure Heard (s : State θ) : Prop where
  counted : s.seqNum.toNat = s.serial
  behind : s.lastSeqNumber.toNat ≤ s.serial
  resting : (∀ i, s.acceptor ≠ .scanning i) → (s.waiting 0).card ≤ s.looks
  looking : ∀ i, s.acceptor = .scanning i → 0 < s.lastSeqNumber.toNat ∧
    (s.waiting 0).card ≤ s.looks + 1 ∧ (s.waiting i = ∅ → (s.waiting 0).card ≤ s.looks)

theorem Heard.start : Heard ({} : State θ) := by
  have hnone : ({} : State θ).waiting 0 = ∅ := by
    ext j
    simp [mem_waiting, State.queueState]
  constructor <;> simp [hnone]

theorem Heard.fewer (h : Heard s) (hq : ∀ j, s'.queueState j .host = .hostConnected →
      s.queueState j .host = .hostConnected)
    (hserial : s'.serial = s.serial) (hseq : s'.seqNum = s.seqNum)
    (hacceptor : s'.acceptor = s.acceptor) (hlast : s'.lastSeqNumber = s.lastSeqNumber) :
    Heard s' := by
  have hsub := waiting_subset hq 0
  have hcard := Finset.card_le_card hsub
  have hlooks : s'.looks = s.looks := by
    rw [State.looks, State.looks, hserial, hlast]
  constructor
  · rw [hseq, hserial, h.counted]
  · rw [hlast, hserial]
    exact h.behind
  · intro hrest
    rw [hacceptor] at hrest
    rw [hlooks]
    exact hcard.trans (h.resting hrest)
  · intro i hi
    rw [hacceptor] at hi
    obtain ⟨hpos, hbound, hempty⟩ := h.looking i hi
    rw [hlast, hlooks]
    refine ⟨hpos, hcard.trans hbound, ?_⟩
    intro hnone
    by_cases heq : s'.waiting 0 = s.waiting 0
    · rw [heq]
      apply hempty
      ext j
      have hmem := Finset.ext_iff.mp heq j
      have hout := Finset.ext_iff.mp hnone j
      simp only [mem_waiting, Nat.zero_le, true_and, Finset.notMem_empty, iff_false] at *
      tauto
    · have hlt := Finset.card_lt_card (hsub.ssubset_of_ne heq)
      omega

theorem Heard.frame (h : Heard s) {es : List Event} (hs : Frame s s' es) : Heard s' :=
  h.fewer (fun j => hs.waits j .host) hs.serial hs.seqNum hs.acceptor hs.lastSeqNumber

theorem Heard.acquire (h : Heard s) {i : ℕ} {port : UInt32} (hbound : s.serial + 1 < 2 ^ 32) :
    Heard (s.acquire i port) := by
  have hseq : (s.acquire i port).seqNum.toNat = s.seqNum.toNat + 1 := by
    change (s.seqNum + 1).toNat = _
    rw [UInt32.toNat_add, UInt32.toNat_one, h.counted, Nat.mod_eq_of_lt hbound]
  have hlooks : (s.acquire i port).looks = s.looks + 1 := by
    have hbehind := h.behind
    change s.serial + 1 - s.lastSeqNumber.toNat = s.serial - s.lastSeqNumber.toNat + 1
    omega
  have hmore : ∀ n, s.waiting n ⊆ (s.acquire i port).waiting n := by
    intro n j hj
    rw [mem_waiting] at hj ⊢
    refine ⟨hj.1, hj.2.1, ?_⟩
    rw [queueState_acquire]
    split
    · rfl
    · exact hj.2.2
  have hcard : ((s.acquire i port).waiting 0).card ≤ (s.waiting 0).card + 1 := by
    refine (Finset.card_le_card ?_).trans (Finset.card_insert_le i _)
    intro j hj
    rw [mem_waiting, queueState_acquire] at hj
    rw [Finset.mem_insert, mem_waiting]
    by_cases hji : j = i
    · exact .inl hji
    · rw [if_neg hji] at hj
      exact .inr hj
  constructor
  · rw [hseq, h.counted]
    rfl
  · exact h.behind.trans (Nat.le_succ _)
  · intro hrest
    have := h.resting hrest
    omega
  · intro n hn
    obtain ⟨hpos, hle, hempty⟩ := h.looking n hn
    refine ⟨hpos, by omega, ?_⟩
    intro hnone
    have := hempty (Finset.subset_empty.mp (hnone ▸ hmore n))
    omega

theorem Heard.restart [DecidableEq θ] (h : Heard s) (x : Side) : Heard (s.restart x) := by
  cases x with
  | host => exact h.fewer (fun _ => id) rfl rfl rfl rfl
  | guest =>
    refine ⟨h.counted, Nat.zero_le _, ?_, ?_⟩
    · intro _
      have hle : (s.waiting 0).card ≤ s.serial := by
        by_cases hrest : ∀ i, s.acceptor ≠ .scanning i
        · exact (h.resting hrest).trans (Nat.sub_le _ _)
        · push Not at hrest
          obtain ⟨i, hi⟩ := hrest
          obtain ⟨hpos, hle, -⟩ := h.looking i hi
          have hbehind := h.behind
          simp only [State.looks] at hle
          omega
      exact hle
    · intro i hi
      simp [State.restart] at hi

theorem Heard.look (h : Heard s) (hrest : s.acceptor = .awaiting)
    (hseq : s.seqNum ≠ s.lastSeqNumber) :
    Heard { s with lastSeqNumber := s.lastSeqNumber + 1, acceptor := .scanning 0 } := by
  have hne : s.lastSeqNumber.toNat ≠ s.serial := by
    rw [← h.counted]
    exact fun heq => hseq (UInt32.toNat_inj.mp heq.symm)
  have hbehind := h.behind
  have hmax := s.seqNum.toNat_lt
  have hcounted := h.counted
  have hnext : (s.lastSeqNumber + 1).toNat = s.lastSeqNumber.toNat + 1 := by
    rw [UInt32.toNat_add, UInt32.toNat_one, Nat.mod_eq_of_lt (by omega)]
  have hwaits := h.resting (by simp [hrest])
  refine ⟨h.counted, ?_, by simp, ?_⟩
  · change (s.lastSeqNumber + 1).toNat ≤ s.serial
    omega
  · intro i hi
    obtain rfl := Acceptor.scanning.inj hi
    refine ⟨?_, ?_, ?_⟩
    · change 0 < (s.lastSeqNumber + 1).toNat
      omega
    · change (s.waiting 0).card ≤ s.serial - (s.lastSeqNumber + 1).toNat + 1
      simp only [State.looks] at hwaits
      omega
    · intro hnone
      change s.waiting 0 = ∅ at hnone
      change (s.waiting 0).card ≤ _
      simp [hnone]

theorem Heard.pass (h : Heard s) {i : ℕ} (hi : s.acceptor = .scanning i)
    (hq : s.queueState i .host ≠ .hostConnected) :
    Heard { s with acceptor := .scanning (i + 1) } := by
  obtain ⟨hpos, hle, hempty⟩ := h.looking i hi
  refine ⟨h.counted, h.behind, by simp, ?_⟩
  intro j hj
  obtain rfl := Acceptor.scanning.inj hj
  refine ⟨hpos, hle, ?_⟩
  intro hnone
  apply hempty
  ext j
  have hout := Finset.ext_iff.mp hnone j
  change j ∈ s.waiting (i + 1) ↔ _ at hout
  simp only [mem_waiting, Finset.notMem_empty, iff_false] at hout ⊢
  rintro ⟨hj, hij, hstate⟩
  have hne : j ≠ i := by
    rintro rfl
    exact hq hstate
  exact hout ⟨hj, by omega, hstate⟩

theorem Heard.giveUp (h : Heard s) {i : ℕ} (hi : s.acceptor = .scanning i)
    (hend : ¬ i < kNumQueues) : Heard { s with acceptor := .awaiting } := by
  obtain ⟨-, -, hempty⟩ := h.looking i hi
  refine ⟨h.counted, h.behind, ?_, by simp⟩
  intro _
  apply hempty
  ext j
  simp only [mem_waiting, Finset.notMem_empty, iff_false]
  rintro ⟨hj, hij, -⟩
  omega

theorem Heard.join (h : Heard s) {i : ℕ} (hi : s.acceptor = .scanning i) (hin : i < kNumQueues)
    (hq : s.queueState i .host = .hostConnected) {a : Acceptor} (ha : ∀ j, a ≠ .scanning j) :
    Heard { s.join i with acceptor := a } := by
  obtain ⟨-, hle, -⟩ := h.looking i hi
  have hsub : (s.join i).waiting 0 ⊂ s.waiting 0 := by
    refine (Finset.ssubset_iff_of_subset ?_).mpr ⟨i, ?_, ?_⟩
    · apply waiting_subset
      intro j hj
      rw [State.join, queueState_mapState] at hj
      split at hj
      · simp at hj
      · exact hj
    · exact mem_waiting.mpr ⟨hin, Nat.zero_le _, hq⟩
    · simp [mem_waiting, State.join]
  have hlt := Finset.card_lt_card hsub
  refine ⟨h.counted, h.behind, ?_, ?_⟩
  · intro _
    change ((s.join i).waiting 0).card ≤ s.looks
    omega
  · intro j hj
    exact absurd hj (ha j)

theorem Heard.rest (h : Heard s) {c : ℕ} (hi : s.acceptor = .building c) :
    Heard { s with acceptor := .awaiting } :=
  ⟨h.counted, h.behind, fun _ => h.resting (by simp [hi]), by simp⟩

theorem Heard.stepAcceptor (h : Heard s) {es : List Event}
    (hs : s.stepAcceptor = some (s', es)) : Heard s' := by
  unfold State.stepAcceptor at hs
  split at hs
  case h_1 hi =>
    split at hs
    · obtain ⟨rfl, rfl⟩ := Prod.mk.inj (Option.some.inj hs)
      exact h
    · rename_i hseq
      obtain ⟨rfl, rfl⟩ := Prod.mk.inj (Option.some.inj hs)
      exact h.look hi hseq
  case h_2 i hi =>
    split at hs
    · rename_i hin
      split at hs
      · rename_i hq
        split at hs
        · obtain ⟨rfl, rfl⟩ := Prod.mk.inj (Option.some.inj hs)
          exact h.join hi hin hq (by simp)
        · obtain ⟨rfl, rfl⟩ := Prod.mk.inj (Option.some.inj hs)
          have hfailed : Frame s (s.setProcess .guest .aborted) [] := frame_setProcess _ (by simp)
          exact h.frame hfailed
      · rename_i hq
        obtain ⟨rfl, rfl⟩ := Prod.mk.inj (Option.some.inj hs)
        exact h.pass hi hq
    · rename_i hend
      obtain ⟨rfl, rfl⟩ := Prod.mk.inj (Option.some.inj hs)
      exact h.giveUp hi hend
  case h_3 c hi =>
    split at hs
    · obtain ⟨s₁, hlaunch, heq⟩ := Option.map_eq_some_iff.mp hs
      obtain ⟨rfl, rfl⟩ := Prod.mk.inj heq
      have hframe := launch_frame hlaunch
      exact (h.frame hframe).rest (hframe.acceptor.trans hi)
    · simp at hs

theorem Heard.step [DecidableEq θ] (h : Heard s) {i : Input θ} {es : List Event}
    (hok : Countable s i) (hs : step s i = some (s', es)) : Heard s' := by
  unfold SocketForward.step at hs
  cases i with
  | restart x =>
    obtain ⟨rfl, rfl⟩ := Prod.mk.inj (Option.some.inj hs)
    exact h.restart x
  | cleanUp x => exact h.frame (stepCleanUp_frame hs)
  | openConnection t port =>
    dsimp only at hs
    split at hs
    · obtain ⟨rfl, rfl⟩ := Prod.mk.inj (Option.some.inj hs)
      exact h.fewer (fun _ => id) rfl rfl rfl rfl
    · simp at hs
  | opener t =>
    obtain ⟨-, hs⟩ := Option.ite_none_right_eq_some.mp hs
    unfold State.stepOpener at hs
    split at hs
    case h_1 => simp at hs
    case h_2 i port hpc =>
      split at hs
      · split at hs
        · obtain ⟨rfl, rfl⟩ := Prod.mk.inj (Option.some.inj hs)
          exact (h.acquire hok).fewer (fun _ => id) rfl rfl rfl rfl
        · obtain ⟨rfl, rfl⟩ := Prod.mk.inj (Option.some.inj hs)
          exact h.fewer (fun _ => id) rfl rfl rfl rfl
      · obtain ⟨rfl, rfl⟩ := Prod.mk.inj (Option.some.inj hs)
        exact h.fewer (fun _ => id) rfl rfl rfl rfl
    case h_3 c hpc =>
      obtain ⟨s₁, hlaunch, heq⟩ := Option.map_eq_some_iff.mp hs
      obtain ⟨rfl, rfl⟩ := Prod.mk.inj heq
      exact (h.frame (launch_frame hlaunch)).fewer (fun _ => id) rfl rfl rfl rfl
  | acceptor =>
    obtain ⟨-, hs⟩ := Option.ite_none_right_eq_some.mp hs
    exact h.stepAcceptor hs
  | sender x c data =>
    dsimp only at hs
    split at hs
    · exact h.frame (send_frame hs)
    · simp at hs
  | receiver x c socketOk =>
    dsimp only at hs
    split at hs
    · exact h.frame (receive_frame hs)
    · simp at hs

theorem window_unseen [DecidableEq θ] {tr : List Event}
    (run : (machine θ).Run Countable {} tr s) (hrest : s.acceptor = .awaiting) :
    (s.waiting 0).card ≤ (s.seqNum - s.lastSeqNumber).toNat ∧
    (s.seqNum = s.lastSeqNumber →
      ∀ i < kNumQueues, s.queueState i .host ≠ .hostConnected) := by
  have h : Heard s := run.invariant (P := fun _ s => Heard s) Heard.start
    fun h hok hs => h.step hok hs
  have hwaits := h.resting (by simp [hrest])
  have hle : s.lastSeqNumber ≤ s.seqNum := by
    rw [UInt32.le_iff_toNat_le, h.counted]
    exact h.behind
  have hlooks : (s.seqNum - s.lastSeqNumber).toNat = s.looks := by
    rw [UInt32.toNat_sub_of_le _ _ hle, h.counted, State.looks]
  refine ⟨hlooks ▸ hwaits, ?_⟩
  intro hseq i hi hq
  have hmem : i ∈ s.waiting 0 := mem_waiting.mpr ⟨hi, Nat.zero_le _, hq⟩
  have hpos := Finset.card_pos.mpr ⟨i, hmem⟩
  have hnone : s.looks = 0 := by
    rw [State.looks, ← h.counted, hseq, Nat.sub_self]
  omega

end Waiting

section Taking
variable {θ : Type*} [DecidableEq θ] {s : State θ}

theorem acceptor_step (s' : State θ) (hguest : s.process .guest = .running)
    (hs : s.stepAcceptor = some (s', [])) :
    (machine θ).Run (fun _ i => i = .acceptor) s [] s' := by
  have hstep : (machine θ).step s .acceptor = some (s', []) := by
    simp only [machine, step, hguest, if_true, hs]
  have hrun : (machine θ).Run (fun _ i => i = .acceptor) s ([] ++ []) s' := .snoc .nil rfl hstep
  exact hrun

theorem look_takes {j : ℕ} (hguest : s.process .guest = .running)
    (hscan : s.acceptor = .scanning j) (hin : j < kNumQueues)
    (hhost : s.queueState j .host = .hostConnected)
    (hpaired : s.queueState j .guest = .hostConnected) :
    ∃ s', (machine θ).Run (fun _ i => i = .acceptor) s [] s' ∧
      ∃ i ∈ s.waiting 0, s'.acceptor = .building (s.owner i) := by
  refine ⟨_, acceptor_step { s.join j with acceptor := .building (s.owner j) } hguest ?_,
    j, mem_waiting.mpr ⟨hin, Nat.zero_le _, hhost⟩, rfl⟩
  simp only [State.stepAcceptor, hscan, if_pos hin, if_pos hhost, if_pos hpaired]

theorem look_finds (n : ℕ) {j : ℕ} (hguest : s.process .guest = .running)
    (hscan : s.acceptor = .scanning j)
    (hpaired : ∀ i, s.queueState i .host = .hostConnected → s.queueState i .guest = .hostConnected)
    (hin : j + n < kNumQueues) (hwaits : s.queueState (j + n) .host = .hostConnected) :
    ∃ s', (machine θ).Run (fun _ i => i = .acceptor) s [] s' ∧
      ∃ i ∈ s.waiting 0, s'.acceptor = .building (s.owner i) := by
  induction n generalizing s j with
  | zero => exact look_takes hguest hscan hin hwaits (hpaired _ hwaits)
  | succ n ih =>
    have hj : j < kNumQueues := by omega
    by_cases hq : s.queueState j .host = .hostConnected
    · exact look_takes hguest hscan hj hq (hpaired _ hq)
    · have hpass := acceptor_step { s with acceptor := .scanning (j + 1) } hguest (by
        simp only [State.stepAcceptor, hscan, if_pos hj, if_neg hq])
      have hnext : j + 1 + n = j + (n + 1) := by omega
      obtain ⟨s', run, hfound⟩ := ih (s := { s with acceptor := .scanning (j + 1) }) (j := j + 1)
        hguest rfl hpaired (hnext ▸ hin) (hnext ▸ hwaits)
      exact ⟨s', hpass.trans run, hfound⟩

theorem window_taken {tr : List Event}
    (run : (machine θ).Run (fun s i => Undisturbed s i ∧ Countable s i) {} tr s)
    (hguest : s.process .guest = .running) (hrest : s.acceptor = .awaiting)
    (hwaits : (s.waiting 0).Nonempty) :
    ∃ s', (machine θ).Run (fun _ i => i = .acceptor) s [] s' ∧
      ∃ i ∈ s.waiting 0, s'.acceptor = .building (s.owner i) := by
  obtain ⟨hkept, -, hheard⟩ : Kept s ∧ Carried s ∧ Heard s := by
    refine run.invariant (P := fun _ s => Kept s ∧ Carried s ∧ Heard s)
      ⟨Kept.start, Carried.start, Heard.start⟩ ?_
    intro tr es s s' i hparts hok hs
    obtain ⟨hkept, hcarried, hheard⟩ := hparts
    obtain ⟨hkept', hcarried', -⟩ := hkept.step hcarried hok.1 hs
    exact ⟨hkept', hcarried', hheard.step hok.2 hs⟩
  have hseq : s.seqNum ≠ s.lastSeqNumber := by
    intro heq
    have hle := hheard.resting (by simp [hrest])
    have hpos := Finset.card_pos.mpr hwaits
    rw [State.looks, ← hheard.counted, heq, Nat.sub_self] at hle
    omega
  obtain ⟨i, hi⟩ := hwaits
  obtain ⟨hin, -, hq⟩ := mem_waiting.mp hi
  have hlook := acceptor_step
    { s with lastSeqNumber := s.lastSeqNumber + 1, acceptor := .scanning 0 } hguest (by
      simp only [State.stepAcceptor, hrest, if_neg hseq])
  have hpaired := fun i => (hkept.words.paired i).mp
  rw [← Nat.zero_add i] at hin hq
  obtain ⟨s', hrun, hfound⟩ := look_finds i
    (s := { s with lastSeqNumber := s.lastSeqNumber + 1, acceptor := .scanning 0 }) (j := 0)
    hguest rfl hpaired hin hq
  exact ⟨s', hlook.trans hrun, hfound⟩

end Taking

end Rpi3Device.Vsoc.SocketForward
