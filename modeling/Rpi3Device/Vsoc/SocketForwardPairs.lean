import Rpi3Device.Vsoc.SocketForwardEnds

/-!
# No two connections share a pair of queues

Every step of either process keeps what the state words say of the threads, so the checks of
the code never fail, a pair is for one connection at a time, and it keeps the port for which
the host took it.
-/

namespace Rpi3Device.Vsoc.SocketForward
open TransitionSystem

theorem QueueState.eq_inactive {q : QueueState} (h : ∀ x, ¬ q.saysOpen x) : q = .inactive := by
  have hhost := h .host
  have hguest := h .guest
  cases q <;> simp_all [saysOpen]

section Keeping
variable {θ : Type*} {s s' : State θ}

structure Carried (s : State θ) : Prop where
  queued : ∀ i d, ∀ p ∈ s.packets i d, p.Sendable
  sent : ∀ x c k p, s.connections x c = some k → k.sender = .checking p ∨ k.sender = .writing p →
    p.Sendable

theorem Carried.start : Carried ({} : State θ) := by
  constructor
  · intro i d p hp
    simp [State.packets] at hp
  · intro x c k p hk
    simp at hk

theorem sendable_begin (g : UInt32) : (Packet.makeBegin g).Sendable := by
  simp [Packet.Sendable, Packet.makeBegin]

theorem sendable_end (g : UInt32) : (Packet.makeEnd g).Sendable := by
  simp [Packet.Sendable, Packet.makeEnd]

theorem sendable_data {data : List UInt8} (h : data.length ≤ kMaxPayloadSize) (hne : data ≠ []) :
    (Packet.makeData data).Sendable := by
  simp [Packet.Sendable, Packet.makeData, h, hne]

def NoneFailed (es : List Event) : Prop := ∀ x, Event.failed x ∉ es

theorem noneFailed_nil : NoneFailed [] := by
  simp [NoneFailed]

theorem Carried.setConnection (h : Carried s) {x : Side} {c : ℕ} {k : Connection}
    (hk : ∀ p, k.sender = .checking p ∨ k.sender = .writing p → p.Sendable) :
    Carried (s.setConnection x c k) where
  queued := h.queued
  sent y c' k' p hk' hp := by
    rw [connections_setConnection] at hk'
    split at hk'
    · obtain rfl := Option.some.inj hk'
      exact hk p hp
    · exact h.sent y c' k' p hk' hp

theorem Carried.setPackets (h : Carried s) {i : ℕ} {d : Side} {ps : List Packet}
    (hps : ∀ p ∈ ps, p.Sendable) : Carried (s.setPackets i d ps) where
  queued j d' := by
    rw [packets_setPackets]
    split
    · exact hps
    · exact h.queued j d'
  sent := h.sent

theorem Carried.mapState (h : Carried s) {i : ℕ} {f : Side → QueueState → QueueState} :
    Carried (s.mapState i f) where
  queued j d := by
    rw [packets_mapState]
    exact h.queued j d
  sent := h.sent

theorem Kept.setPackets (h : Kept s) (i : ℕ) (d : Side) (ps : List Packet) :
    Kept (s.setPackets i d ps) := by
  apply h.of_view <;> simp

theorem afterSend_pc {g : UInt32} {p : Packet} {sent : Bool} :
    afterSend g p sent ≠ .gone ∧ afterSend g p sent ≠ .marking ∧
      ∀ p', afterSend g p sent = .checking p' ∨ afterSend g p sent = .writing p' →
        p'.Sendable := by
  unfold afterSend
  cases p.messageType with
  | DATA => cases sent <;> simp [sendable_end]
  | _ => simp

theorem Kept.setSender (h : Kept s) {x : Side} {c : ℕ} {k : Connection}
    (hk : s.connections x c = some k) (hold : k.sender ≠ .gone) {pc : SenderPc} {g : UInt32}
    (hpc : pc ≠ .gone)
    (hmarks : pc = .marking → x = .host → s.queueState k.id x ≠ .hostConnected) :
    Kept (s.setConnection x c { k with generation := g, sender := pc }) := by
  refine h.setConnection hk rfl ?_ ?_
  · intro d
    unfold Connection.Holds
    split <;> simp [hold, hpc]
  · rintro rfl d hd
    unfold Connection.Marks at hd
    split at hd
    · rename_i hdx
      exact hdx ▸ hmarks hd rfl
    · rename_i hdx
      exact h.threads.marking c k d hk (by simpa [Connection.Marks, hdx] using hd)

theorem Kept.setReceiver (h : Kept s) {x : Side} {c : ℕ} {k : Connection}
    (hk : s.connections x c = some k) (hold : k.receiver ≠ .gone) {pc : ReceiverPc}
    (hpc : pc ≠ .gone)
    (hmarks : pc = .marking → x = .host → s.queueState k.id x.peer ≠ .hostConnected) :
    Kept (s.setConnection x c { k with receiver := pc }) := by
  refine h.setConnection hk rfl ?_ ?_
  · intro d
    unfold Connection.Holds
    split <;> simp [hold, hpc]
  · rintro rfl d hd
    unfold Connection.Marks at hd
    split at hd
    · rename_i hdx
      exact h.threads.marking c k d hk (by simpa [Connection.Marks, hdx] using hd)
    · rename_i hdx
      rw [Side.eq_peer hdx]
      exact hmarks hd rfl

theorem Kept.send (h : Kept s) (hc : Carried s) {x : Side} {c : ℕ} {k : Connection}
    {data : List UInt8} {es : List Event} (hk : s.connections x c = some k)
    (hs : s.send x c k data = some (s', es)) : Kept s' ∧ Carried s' ∧ NoneFailed es := by
  have hsent := hc.sent x c k
  unfold State.send at hs
  split at hs
  case h_1 hpc =>
    obtain ⟨rfl, rfl⟩ := Prod.mk.inj (Option.some.inj hs)
    refine ⟨h.setSender hk (by simp [hpc]) (by simp) (by simp), hc.setConnection ?_,
      noneFailed_nil⟩
    simp [sendable_begin]
  case h_2 p hpc =>
    have hp := hsent p hk (.inl hpc)
    have hopen := h.threads.isOpen (h.threads.running hk) hk (d := x)
      (by simp [Connection.Holds, hpc])
    split at hs
    case h_1 hcheck => exact absurd hcheck (sendCheck_ne_none hp hopen)
    case h_2 =>
      obtain ⟨rfl, rfl⟩ := Prod.mk.inj (Option.some.inj hs)
      refine ⟨h.setSender hk (by simp [hpc]) (by simp) (by simp), hc.setConnection ?_,
        noneFailed_nil⟩
      simpa using hp
    case h_3 =>
      obtain ⟨rfl, rfl⟩ := Prod.mk.inj (Option.some.inj hs)
      obtain ⟨hgone, hmarking, hsendable⟩ := @afterSend_pc k.generation p false
      exact ⟨h.setSender hk (by simp [hpc]) hgone (by simp [hmarking]),
        hc.setConnection hsendable, noneFailed_nil⟩
  case h_3 p hpc =>
    obtain ⟨rfl, rfl⟩ := Prod.mk.inj (Option.some.inj hs)
    obtain ⟨hgone, hmarking, hsendable⟩ := @afterSend_pc k.generation p true
    refine ⟨(h.setSender hk (by simp [hpc]) hgone (by simp [hmarking])).setPackets _ _ _,
      (hc.setConnection hsendable).setPackets ?_, by simp [NoneFailed]⟩
    intro p' hp'
    obtain hp' | hp' := List.mem_append.mp hp'
    · exact hc.queued _ _ p' hp'
    · rw [List.mem_singleton.mp hp']
      exact hsent p hk (.inr hpc)
  case h_4 hpc =>
    split at hs
    · rename_i hlen
      obtain ⟨rfl, rfl⟩ := Prod.mk.inj (Option.some.inj hs)
      refine ⟨h.setSender hk (by simp [hpc]) (by simp) (by simp), hc.setConnection ?_,
        noneFailed_nil⟩
      intro p hp
      simp only [SenderPc.checking.injEq, reduceCtorEq, or_false] at hp
      subst hp
      split
      · exact sendable_end _
      · rename_i hne
        exact sendable_data hlen hne
    · simp at hs
  case h_5 hpc =>
    split at hs
    · obtain ⟨rfl, rfl⟩ := Prod.mk.inj (Option.some.inj hs)
      exact ⟨h.setSender hk (by simp [hpc]) (by simp) (by simp), hc.setConnection (by simp),
        noneFailed_nil⟩
    · rename_i hwait
      obtain ⟨rfl, rfl⟩ := Prod.mk.inj (Option.some.inj hs)
      refine ⟨h.setSender hk (by simp [hpc]) (by simp) ?_, hc.setConnection (by simp),
        noneFailed_nil⟩
      intro _ hx hq
      exact hwait ⟨hx, hq⟩
  case h_6 hpc =>
    obtain ⟨rfl, rfl⟩ := Prod.mk.inj (Option.some.inj hs)
    refine ⟨h.mark hk (by simp [Connection.Marks, hpc]) rfl (by simp [Connection.Holds]) ?_ ?_,
      (hc.setConnection (by simp)).mapState, noneFailed_nil⟩
    · intro d hd
      simp [Connection.Holds, hd]
    · intro d hd
      simp [Connection.Marks, hd]
  case h_7 => simp at hs
  case h_8 => simp at hs

theorem Kept.receive (h : Kept s) (hc : Carried s) {x : Side} {c : ℕ} {k : Connection}
    {socketOk : Bool} {es : List Event} (hk : s.connections x c = some k)
    (hs : s.receive x c k socketOk = some (s', es)) : Kept s' ∧ Carried s' ∧ NoneFailed es := by
  have hsent := hc.sent x c k
  have hqueued := hc.queued k.id x.peer
  have hcarried : ∀ pc, Carried (s.setConnection x c { k with receiver := pc }) :=
    fun pc => hc.setConnection fun p hp => hsent p hk hp
  unfold State.receive at hs
  split at hs
  case h_1 hpc =>
    split at hs
    · simp at hs
    · rename_i p rest hps
      obtain ⟨rfl, rfl⟩ := Prod.mk.inj (Option.some.inj hs)
      refine ⟨(h.setReceiver hk (by simp [hpc]) ?_ ?_).setPackets _ _ _,
        (hcarried _).setPackets fun p' hp' => hqueued p' (by simp [hps, hp']), noneFailed_nil⟩
      · split <;> simp
      · split <;> simp
  case h_2 hpc =>
    split at hs
    · simp at hs
    · rename_i p rest hps
      have hrest : ∀ p' ∈ rest, p'.Sendable := fun p' hp' => hqueued p' (by simp [hps, hp'])
      split at hs
      · obtain ⟨rfl, rfl⟩ := Prod.mk.inj (Option.some.inj hs)
        exact ⟨(h.setReceiver hk (by simp [hpc]) (by simp) (by simp)).setPackets _ _ _,
          (hcarried _).setPackets hrest, noneFailed_nil⟩
      · split at hs
        · rename_i hp
          exact absurd (hqueued p (by simp [hps])) hp
        · obtain ⟨rfl, rfl⟩ := Prod.mk.inj (Option.some.inj hs)
          refine ⟨(h.setReceiver hk (by simp [hpc]) ?_ ?_).setPackets _ _ _,
            (hcarried _).setPackets hrest, by simp [NoneFailed]⟩
          · split <;> simp
          · split <;> simp
  case h_3 hpc =>
    split at hs
    · obtain ⟨rfl, rfl⟩ := Prod.mk.inj (Option.some.inj hs)
      exact ⟨h.setReceiver hk (by simp [hpc]) (by simp) (by simp), hcarried _, noneFailed_nil⟩
    · rename_i hwait
      obtain ⟨rfl, rfl⟩ := Prod.mk.inj (Option.some.inj hs)
      refine ⟨h.setReceiver hk (by simp [hpc]) (by simp) ?_, hcarried _, noneFailed_nil⟩
      intro _ hx hq
      exact hwait ⟨hx, hq⟩
  case h_4 hpc =>
    obtain ⟨rfl, rfl⟩ := Prod.mk.inj (Option.some.inj hs)
    have hpeer : x.peer ≠ x := by cases x <;> simp [Side.peer]
    refine ⟨h.mark hk (by simp [Connection.Marks, hpeer, hpc]) rfl
      (by simp [Connection.Holds, hpeer]) ?_ ?_, (hcarried _).mapState, noneFailed_nil⟩
    · intro d hd
      have hdx : d = x := by
        cases d <;> cases x <;> simp_all [Side.peer]
      simp [Connection.Holds, hdx]
    · intro d hd
      have hdx : d = x := by
        cases d <;> cases x <;> simp_all [Side.peer]
      simp [Connection.Marks, hdx]
  case h_5 => simp at hs
  case h_6 => simp at hs

theorem Kept.setProcess (h : Kept s) {x : Side} {p : Process} (hx : s.process x ≠ .running)
    (hwords : Words (s.setProcess x p))
    (hclosed : p = .running → ∀ i d, ¬ (s.queueState i d).saysOpen x) :
    Kept (s.setProcess x p) :=
  ⟨hwords, h.threads.setProcess (fun c => h.threads.absent x c hx) hclosed⟩

theorem Kept.goOn (h : Kept s) {x : Side} {g : UInt32} {pc pc' : CleanUp}
    (hpc : s.process x = .cleaning g pc) (hindex : pc'.index = pc.index)
    (hattended : pc'.attended = pc.attended) (hsends : pc'.sends → pc.sends) :
    Kept (s.setProcess x (.cleaning g pc')) := by
  refine h.setProcess (by simp [hpc]) (h.words.setProcess (by simp) ?_ ?_ ?_) (by simp)
  · intro g' pc₁ heq
    obtain ⟨rfl, rfl⟩ := Process.cleaning.inj heq
    rw [hindex]
    exact h.words.cleaned x g pc hpc
  · rintro rfl g' pc₁ i heq hi
    obtain ⟨rfl, rfl⟩ := Process.cleaning.inj heq
    exact h.words.met g pc i hpc (hattended ▸ hi)
  · intro g' pc₁ heq hs
    obtain ⟨rfl, rfl⟩ := Process.cleaning.inj heq
    rw [hindex]
    exact h.words.sending x g pc hpc (hsends hs)

theorem Kept.attend (h : Kept s) {x : Side} {g : UInt32} {i : ℕ} {pc : CleanUp}
    (hpc : s.process x = .cleaning g (.looking i)) (hindex : pc.index = i)
    (hattended : pc.attended = some i)
    (hmet : x = .guest → s.queueState i .guest ≠ .hostConnected)
    (hsends : pc.sends → (s.queueState i x).saysOpen x) :
    Kept (s.setProcess x (.cleaning g pc)) := by
  refine h.setProcess (by simp [hpc]) (h.words.setProcess (by simp) ?_ ?_ ?_) (by simp)
  · intro g' pc₁ heq
    obtain ⟨rfl, rfl⟩ := Process.cleaning.inj heq
    rw [hindex]
    exact h.words.cleaned x g _ hpc
  · intro hx g' pc₁ j heq hj d
    obtain ⟨rfl, rfl⟩ := Process.cleaning.inj heq
    obtain rfl := Option.some.inj (hattended ▸ hj)
    have hpaired := h.words.paired i
    cases d <;> simp_all
  · intro g' pc₁ heq hs
    obtain ⟨rfl, rfl⟩ := Process.cleaning.inj heq
    rw [hindex]
    exact hsends hs

theorem Kept.meet (h : Kept s) {g : UInt32} {i : ℕ}
    (hpc : s.process .guest = .cleaning g (.looking i))
    (hq : ∀ d, s.queueState i d = .hostConnected) :
    Kept (s.mapState i fun _ _ => .bothConnected) := by
  refine ⟨h.words.mapState (by simp) ?_ ?_ (by simp [QueueState.saysOpen]),
    h.threads.mapState (by simp) ?_⟩
  · intro d _
    simp [hq]
  · intro y g' pc hpc' hi d
    cases y with
    | host =>
      have hcleaned := h.words.cleaned .host g' pc hpc' i hi d
      rw [hq] at hcleaned
      simp [QueueState.saysOpen] at hcleaned
    | guest =>
      obtain ⟨rfl, rfl⟩ := Process.cleaning.inj (hpc.symm.trans hpc')
      simp [CleanUp.index] at hi
  · intro y hy d
    have hyh : y = .host := by
      cases y <;> simp_all
    simp [hyh, hq, QueueState.saysOpen]

theorem Kept.reset (h : Kept s) {x : Side} {g : UInt32} {i : ℕ}
    (hpc : s.process x = .cleaning g (.resetting i)) :
    Kept ((s.mapState i fun _ q => q.reset x).setProcess x (.cleaning g (.looking (i + 1)))) := by
  have hopens : ∀ d y, ((s.queueState i d).reset x).saysOpen y ↔
      y ≠ x ∧ (s.queueState i d).saysOpen y := by
    intro d y
    apply QueueState.saysOpen_reset
    rintro rfl
    exact h.words.met g _ i hpc rfl d
  have hkept : Kept (s.mapState i fun _ q => q.reset x) := by
    refine ⟨h.words.mapState (fun _ => QueueState.reset_ne)
      (fun _ => QueueState.ne_inactive_of_reset) ?_ ?_,
      h.threads.mapState (fun _ => QueueState.reset_ne) ?_⟩
    · intro y g' pc hpc' hi d hy
      exact h.words.cleaned y g' pc hpc' i hi d ((hopens d y).mp hy).2
    · intro y g' pc hpc' hs hi
      refine (hopens y y).mpr ⟨?_, hi ▸ h.words.sending y g' pc hpc' hs⟩
      rintro rfl
      obtain ⟨rfl, rfl⟩ := Process.cleaning.inj (hpc.symm.trans hpc')
      simp [CleanUp.sends] at hs
    · intro y hy d
      rw [hopens d y, and_iff_right]
      rintro rfl
      simp [hpc] at hy
  refine hkept.setProcess (by simp [hpc]) (hkept.words.setProcess (by simp) ?_ ?_ ?_) (by simp)
  · intro g' pc heq j hj d
    obtain ⟨rfl, rfl⟩ := Process.cleaning.inj heq
    rw [queueState_mapState]
    split
    · rw [hopens d x]
      simp
    · rename_i hji
      refine h.words.cleaned x g _ hpc j ?_ d
      simp only [CleanUp.index] at hj ⊢
      omega
  · rintro - g' pc j heq hj
    obtain ⟨rfl, rfl⟩ := Process.cleaning.inj heq
    simp [CleanUp.attended] at hj
  · intro g' pc heq hs
    obtain ⟨rfl, rfl⟩ := Process.cleaning.inj heq
    simp [CleanUp.sends] at hs

theorem sendable_marker (g : UInt32) (last : Bool) :
    (if last then Packet.makeEnd g else Packet.makeBegin g).Sendable := by
  cases last with
  | false => exact sendable_begin g
  | true => exact sendable_end g

theorem Carried.setProcess (h : Carried s) {x : Side} {p : Process} :
    Carried (s.setProcess x p) := ⟨h.queued, h.sent⟩

theorem Kept.stepCleanUp (h : Kept s) (hc : Carried s) {x : Side} {es : List Event}
    (hs : s.stepCleanUp x = some (s', es)) : Kept s' ∧ Carried s' ∧ NoneFailed es := by
  unfold State.stepCleanUp at hs
  split at hs
  case h_1 hpc =>
    obtain ⟨rfl, rfl⟩ := Prod.mk.inj (Option.some.inj hs)
    refine ⟨h.setProcess (by simp [hpc]) (h.words.setProcess (by simp) ?_ ?_ ?_) (by simp),
      hc.setProcess, noneFailed_nil⟩
    · intro g pc heq i hi
      obtain ⟨rfl, rfl⟩ := Process.cleaning.inj heq
      simp [CleanUp.index] at hi
    · rintro - g pc i heq hi
      obtain ⟨rfl, rfl⟩ := Process.cleaning.inj heq
      simp [CleanUp.attended] at hi
    · intro g pc heq hsends
      obtain ⟨rfl, rfl⟩ := Process.cleaning.inj heq
      simp [CleanUp.sends] at hsends
  case h_2 g i hpc =>
    have hpaired := h.words.paired i
    dsimp only at hs
    split at hs
    · split at hs
      · rename_i hwaits
        obtain ⟨rfl, rfl⟩ := Prod.mk.inj (Option.some.inj hs)
        obtain ⟨rfl, hq⟩ := hwaits
        have hmet := h.meet hpc (by
          intro d
          cases d <;> simp [hq, hpaired])
        refine ⟨@Kept.attend _ _ hmet _ _ _ (.checking i false) hpc rfl rfl ?_ ?_,
          hc.setProcess.mapState, noneFailed_nil⟩
        · simp
        · simp [QueueState.saysOpen]
      · rename_i hwaits
        split at hs
        · rename_i hconnected
          obtain ⟨rfl, rfl⟩ := Prod.mk.inj (Option.some.inj hs)
          refine ⟨h.attend hpc rfl rfl ?_ ?_, hc.setProcess, noneFailed_nil⟩
          · rintro rfl
            simpa using hwaits
          · intro _
            obtain hq | hq := hconnected
            · simp [hq, QueueState.saysOpen]
            · cases x <;> simp_all [QueueState.saysOpen]
        · obtain ⟨rfl, rfl⟩ := Prod.mk.inj (Option.some.inj hs)
          refine ⟨h.attend hpc rfl rfl ?_ (by simp [CleanUp.sends]), hc.setProcess,
            noneFailed_nil⟩
          rintro rfl
          simpa using hwaits
    · rename_i hi
      obtain ⟨rfl, rfl⟩ := Prod.mk.inj (Option.some.inj hs)
      have hrun : Kept (s.setProcess x .running) := by
        refine h.setProcess (by simp [hpc])
          (h.words.setProcess (by simp) (by simp) (by simp) (by simp)) ?_
        rintro - j d
        by_cases hj : j < kNumQueues
        · exact h.words.cleaned x g _ hpc j (by simp only [CleanUp.index]; omega) d
        · simp [h.words.outside j d (by omega), QueueState.saysOpen]
      exact ⟨hrun.of_view (fun _ _ => rfl) (fun _ => rfl) rfl rfl rfl, ⟨hc.queued, hc.sent⟩,
        noneFailed_nil⟩
  case h_3 g i last hpc =>
    have hopen := h.words.sending x g _ hpc rfl
    split at hs
    case h_1 hcheck =>
      exact absurd hcheck (sendCheck_ne_none (sendable_marker g last) hopen)
    case h_2 =>
      obtain ⟨rfl, rfl⟩ := Prod.mk.inj (Option.some.inj hs)
      exact ⟨h.goOn hpc rfl rfl (fun _ => rfl), hc.setProcess, noneFailed_nil⟩
    case h_3 =>
      obtain ⟨rfl, rfl⟩ := Prod.mk.inj (Option.some.inj hs)
      refine ⟨h.goOn hpc ?_ ?_ (fun _ => rfl), hc.setProcess, noneFailed_nil⟩ <;>
        cases last <;> rfl
  case h_4 g i last hpc =>
    obtain ⟨rfl, rfl⟩ := Prod.mk.inj (Option.some.inj hs)
    refine ⟨(h.goOn hpc ?_ ?_ (fun _ => rfl)).setPackets _ _ _, hc.setProcess.setPackets ?_,
      noneFailed_nil⟩
    · cases last <;> rfl
    · cases last <;> rfl
    · intro p hp
      obtain hp | hp := List.mem_append.mp hp
      · exact hc.queued i x p hp
      · rw [List.mem_singleton.mp hp]
        exact sendable_marker g last
  case h_5 g i hpc =>
    obtain ⟨rfl, rfl⟩ := Prod.mk.inj (Option.some.inj hs)
    exact ⟨h.reset hpc, hc.setProcess.mapState, noneFailed_nil⟩
  case h_6 => simp at hs
  case h_7 => simp at hs

theorem Kept.launch (h : Kept s) (hc : Carried s) {x : Side} {c : ℕ}
    (hs : s.launch x c = some s') : Kept s' ∧ Carried s' := by
  unfold State.launch at hs
  split at hs
  · rename_i k hk
    split at hs
    · rename_i hpc
      obtain rfl := Option.some.inj hs
      refine ⟨h.setConnection hk rfl ?_ ?_, hc.setConnection (by simp)⟩
      · intro d
        simp [Connection.Holds, hpc]
      · rintro - d hd
        simp [Connection.Marks] at hd
    · simp at hs
  · simp at hs

theorem Kept.stepAcceptor (h : Kept s) (hc : Carried s) {es : List Event}
    (hrun : s.process .guest = .running) (hs : s.stepAcceptor = some (s', es)) :
    Kept s' ∧ Carried s' ∧ NoneFailed es := by
  have hacceptor : ∀ {s₁ : State θ} (a : Acceptor) (l : UInt32), Kept s₁ ∧ Carried s₁ →
      Kept { s₁ with acceptor := a, lastSeqNumber := l } ∧
        Carried { s₁ with acceptor := a, lastSeqNumber := l } := by
    intro s₁ a l hparts
    exact ⟨hparts.1.of_view (fun _ _ => rfl) (fun _ => rfl) rfl rfl rfl,
      ⟨hparts.2.queued, hparts.2.sent⟩⟩
  unfold State.stepAcceptor at hs
  split at hs
  case h_1 hpc =>
    split at hs
    · obtain ⟨rfl, rfl⟩ := Prod.mk.inj (Option.some.inj hs)
      exact ⟨h, hc, noneFailed_nil⟩
    · obtain ⟨rfl, rfl⟩ := Prod.mk.inj (Option.some.inj hs)
      obtain ⟨hk, hc'⟩ := hacceptor _ _ ⟨h, hc⟩
      exact ⟨hk, hc', noneFailed_nil⟩
  case h_2 i hpc =>
    split at hs
    · split at hs
      · rename_i hq
        split at hs
        · rename_i hq'
          obtain ⟨rfl, rfl⟩ := Prod.mk.inj (Option.some.inj hs)
          have hkept := h.join (i := i) hrun (by
            intro d
            cases d with
            | guest => exact hq'
            | host => exact hq)
          have hcarried : Carried (s.join i) := (hc.setConnection (by simp)).mapState
          obtain ⟨hk, hc'⟩ := hacceptor _ _ ⟨hkept, hcarried⟩
          exact ⟨hk, hc', noneFailed_nil⟩
        · rename_i hq'
          exact absurd ((h.words.paired i).mp hq) hq'
      · obtain ⟨rfl, rfl⟩ := Prod.mk.inj (Option.some.inj hs)
        obtain ⟨hk, hc'⟩ := hacceptor _ _ ⟨h, hc⟩
        exact ⟨hk, hc', noneFailed_nil⟩
    · obtain ⟨rfl, rfl⟩ := Prod.mk.inj (Option.some.inj hs)
      obtain ⟨hk, hc'⟩ := hacceptor _ _ ⟨h, hc⟩
      exact ⟨hk, hc', noneFailed_nil⟩
  case h_3 c hpc =>
    split at hs
    · obtain ⟨s₁, hlaunch, heq⟩ := Option.map_eq_some_iff.mp hs
      obtain ⟨rfl, rfl⟩ := Prod.mk.inj heq
      obtain ⟨hk, hc'⟩ := hacceptor _ _ (h.launch hc hlaunch)
      exact ⟨hk, hc', by simp [NoneFailed]⟩
    · simp at hs

structure Frame (s s' : State θ) (es : List Event) : Prop where
  owner : s'.owner = s.owner
  port : s'.port = s.port
  serial : s'.serial = s.serial
  seqNum : s'.seqNum = s.seqNum
  acceptor : s'.acceptor = s.acceptor
  lastSeqNumber : s'.lastSeqNumber = s.lastSeqNumber
  waits : ∀ j d, s'.queueState j d = .hostConnected → s.queueState j d = .hostConnected
  events : ∀ c port, .accepted c port ∉ es

section Frames
variable {es : List Event} {x : Side} {c : ℕ}

theorem frame_setConnection (k : Connection) : Frame s (s.setConnection x c k) [] :=
  ⟨rfl, rfl, rfl, rfl, rfl, rfl, fun _ _ => id, by simp⟩

theorem frame_setProcess (p : Process) (hes : ∀ c port, .accepted c port ∉ es) :
    Frame s (s.setProcess x p) es :=
  ⟨rfl, rfl, rfl, rfl, rfl, rfl, fun _ _ => id, hes⟩

theorem Frame.setPackets (h : Frame s s' []) (i : ℕ) (d : Side) (ps : List Packet)
    (hes : ∀ c port, .accepted c port ∉ es) : Frame s (s'.setPackets i d ps) es := by
  obtain ⟨h1, h2, h3, h4, h5, h6, h7, -⟩ := h
  refine ⟨by simp [h1], by simp [h2], h3, h4, h5, h6, ?_, hes⟩
  simpa using h7

theorem Frame.mapState (h : Frame s s' []) {i : ℕ} {f : Side → QueueState → QueueState}
    (hf : ∀ d q, f d q = .hostConnected → q = .hostConnected) : Frame s (s'.mapState i f) [] := by
  obtain ⟨h1, h2, h3, h4, h5, h6, h7, -⟩ := h
  refine ⟨by simp [h1], by simp [h2], h3, h4, h5, h6, ?_, by simp⟩
  intro j d hj
  rw [queueState_mapState] at hj
  split at hj
  · rename_i heq
    exact h7 j d (heq ▸ hf d _ hj)
  · exact h7 j d hj

theorem Frame.mark (h : Frame s s' []) (i : ℕ) (d x : Side) : Frame s (s'.mark i d x) [] := by
  apply h.mapState
  intro d' q hq
  split at hq
  · exact absurd hq QueueState.markDisconnected_ne
  · exact hq

theorem send_frame {k : Connection} {data : List UInt8} (hs : s.send x c k data = some (s', es)) :
    Frame s s' es := by
  unfold State.send at hs
  split at hs
  case h_2 =>
    split at hs
    case h_1 =>
      obtain ⟨rfl, rfl⟩ := Prod.mk.inj (Option.some.inj hs)
      exact frame_setProcess _ (by simp)
    all_goals
      obtain ⟨rfl, rfl⟩ := Prod.mk.inj (Option.some.inj hs)
      exact frame_setConnection _
  case h_3 =>
    obtain ⟨rfl, rfl⟩ := Prod.mk.inj (Option.some.inj hs)
    exact (frame_setConnection _).setPackets _ _ _ (by simp)
  case h_6 =>
    obtain ⟨rfl, rfl⟩ := Prod.mk.inj (Option.some.inj hs)
    exact (frame_setConnection _).mark _ _ _
  case h_7 => simp at hs
  case h_8 => simp at hs
  case h_1 =>
    obtain ⟨rfl, rfl⟩ := Prod.mk.inj (Option.some.inj hs)
    exact frame_setConnection _
  case h_4 =>
    split at hs
    · obtain ⟨rfl, rfl⟩ := Prod.mk.inj (Option.some.inj hs)
      exact frame_setConnection _
    · simp at hs
  case h_5 =>
    split at hs <;>
    · obtain ⟨rfl, rfl⟩ := Prod.mk.inj (Option.some.inj hs)
      exact frame_setConnection _

theorem receive_frame {k : Connection} {socketOk : Bool}
    (hs : s.receive x c k socketOk = some (s', es)) : Frame s s' es := by
  unfold State.receive at hs
  split at hs
  case h_1 =>
    split at hs
    · simp at hs
    · obtain ⟨rfl, rfl⟩ := Prod.mk.inj (Option.some.inj hs)
      exact (frame_setConnection _).setPackets _ _ _ (by simp)
  case h_2 =>
    split at hs
    · simp at hs
    · split at hs
      · obtain ⟨rfl, rfl⟩ := Prod.mk.inj (Option.some.inj hs)
        exact (frame_setConnection _).setPackets _ _ _ (by simp)
      · split at hs
        · obtain ⟨rfl, rfl⟩ := Prod.mk.inj (Option.some.inj hs)
          have hpopped : Frame s (s.setProcess x .aborted) [] := frame_setProcess _ (by simp)
          exact hpopped.setPackets _ _ _ (by simp)
        · obtain ⟨rfl, rfl⟩ := Prod.mk.inj (Option.some.inj hs)
          exact (frame_setConnection _).setPackets _ _ _ (by simp)
  case h_3 =>
    split at hs <;>
    · obtain ⟨rfl, rfl⟩ := Prod.mk.inj (Option.some.inj hs)
      exact frame_setConnection _
  case h_4 =>
    obtain ⟨rfl, rfl⟩ := Prod.mk.inj (Option.some.inj hs)
    exact (frame_setConnection _).mark _ _ _
  all_goals simp at hs

theorem stepCleanUp_frame (hs : s.stepCleanUp x = some (s', es)) : Frame s s' es := by
  have hprocess : ∀ p, Frame s (s.setProcess x p) [] := fun p => frame_setProcess p (by simp)
  unfold State.stepCleanUp at hs
  split at hs
  case h_1 =>
    obtain ⟨rfl, rfl⟩ := Prod.mk.inj (Option.some.inj hs)
    exact hprocess _
  case h_2 =>
    dsimp only at hs
    split at hs
    · split at hs
      · obtain ⟨rfl, rfl⟩ := Prod.mk.inj (Option.some.inj hs)
        exact (hprocess _).mapState (by simp)
      · split at hs <;>
        · obtain ⟨rfl, rfl⟩ := Prod.mk.inj (Option.some.inj hs)
          exact hprocess _
    · obtain ⟨rfl, rfl⟩ := Prod.mk.inj (Option.some.inj hs)
      obtain ⟨h1, h2, h3, h4, h5, h6, h7, h8⟩ := hprocess .running
      exact ⟨h1, h2, h3, h4, h5, h6, h7, h8⟩
  case h_3 =>
    split at hs <;> obtain ⟨rfl, rfl⟩ := Prod.mk.inj (Option.some.inj hs)
    · exact frame_setProcess _ (by simp)
    · exact hprocess _
    · exact hprocess _
  case h_4 =>
    obtain ⟨rfl, rfl⟩ := Prod.mk.inj (Option.some.inj hs)
    exact (hprocess _).setPackets _ _ _ (by simp)
  case h_5 =>
    obtain ⟨rfl, rfl⟩ := Prod.mk.inj (Option.some.inj hs)
    exact (hprocess _).mapState fun _ _ hq => absurd hq QueueState.reset_ne
  all_goals simp at hs

theorem launch_frame (hs : s.launch x c = some s') : Frame s s' [] := by
  unfold State.launch at hs
  split at hs
  · split at hs
    · obtain rfl := Option.some.inj hs
      exact frame_setConnection _
    · simp at hs
  · simp at hs

end Frames

structure Named (tr : List Event) (s : State θ) : Prop where
  opened : ∀ i, s.owner i ≠ 0 → .opened (s.owner i) (s.port i) ∈ tr
  accepted : ∀ c port, .accepted c port ∈ tr → .opened c port ∈ tr

theorem Named.frame {tr es : List Event} (h : Named tr s) (hs : Frame s s' es) :
    Named (tr ++ es) s' where
  opened i hi := by
    rw [hs.owner] at hi ⊢
    rw [hs.port]
    exact List.mem_append_left _ (h.opened i hi)
  accepted c port hc := by
    obtain hc | hc := List.mem_append.mp hc
    · exact List.mem_append_left _ (h.accepted c port hc)
    · exact absurd hc (hs.events c port)

/-- A thread of the side is at work for the connection. -/
def Connection.Open (k : Connection) : Prop := k.sender ≠ .gone ∨ k.receiver ≠ .gone

theorem Connection.Open.holds {k : Connection} (h : k.Open) (x : Side) : ∃ d, k.Holds x d := by
  obtain h | h := h
  · exact ⟨x, by simp [Holds, h]⟩
  · refine ⟨x.peer, ?_⟩
    cases x <;> simp [Holds, Side.peer, h]

variable [DecidableEq θ]

theorem Kept.stepOpener (h : Kept s) (hc : Carried s) {t : θ} {es : List Event}
    (hrun : s.process .host = .running) (hok : Undisturbed s (.opener t))
    (hs : s.stepOpener t = some (s', es)) : Kept s' ∧ Carried s' ∧ NoneFailed es := by
  have hopeners : ∀ {s₁ : State θ} (o : θ → Opener), Kept s₁ ∧ Carried s₁ →
      Kept { s₁ with openers := o } ∧ Carried { s₁ with openers := o } := by
    intro s₁ o hparts
    exact ⟨hparts.1.of_view (fun _ _ => rfl) (fun _ => rfl) rfl rfl rfl,
      ⟨hparts.2.queued, hparts.2.sent⟩⟩
  unfold State.stepOpener at hs
  split at hs
  case h_1 => simp at hs
  case h_2 i port hpc =>
    split at hs
    · rename_i hi
      split at hs
      · rename_i hq
        obtain ⟨rfl, rfl⟩ := Prod.mk.inj (Option.some.inj hs)
        have hkept : Kept (s.acquire i port) := by
          refine h.acquire hrun hi ?_ ?_
          · intro d
            cases d with
            | guest => exact hq.2
            | host => exact hq.1
          · intro g hg
            simp [Undisturbed, hpc, hg] at hok
        have hcarried : Carried (s.acquire i port) := by
          constructor
          · intro j d
            rw [packets_acquire]
            exact hc.queued j d
          · intro x c k p hk hp
            rw [connections_acquire] at hk
            split at hk
            · obtain rfl := Option.some.inj hk
              simp at hp
            · exact hc.sent x c k p hk hp
        obtain ⟨hk, hc'⟩ := hopeners _ ⟨hkept, hcarried⟩
        exact ⟨hk, hc', by simp [NoneFailed]⟩
      · obtain ⟨rfl, rfl⟩ := Prod.mk.inj (Option.some.inj hs)
        obtain ⟨hk, hc'⟩ := hopeners _ ⟨h, hc⟩
        exact ⟨hk, hc', noneFailed_nil⟩
    · obtain ⟨rfl, rfl⟩ := Prod.mk.inj (Option.some.inj hs)
      obtain ⟨hk, hc'⟩ := hopeners _ ⟨h, hc⟩
      exact ⟨hk, hc', noneFailed_nil⟩
  case h_3 c hpc =>
    obtain ⟨s₁, hlaunch, heq⟩ := Option.map_eq_some_iff.mp hs
    obtain ⟨rfl, rfl⟩ := Prod.mk.inj heq
    obtain ⟨hk, hc'⟩ := hopeners _ (h.launch hc hlaunch)
    exact ⟨hk, hc', noneFailed_nil⟩

theorem Kept.step (h : Kept s) (hc : Carried s) {i : Input θ} {es : List Event}
    (hok : Undisturbed s i) (hs : step s i = some (s', es)) :
    Kept s' ∧ Carried s' ∧ NoneFailed es := by
  unfold SocketForward.step at hs
  cases i with
  | restart x =>
    obtain ⟨rfl, rfl⟩ := Prod.mk.inj (Option.some.inj hs)
    refine ⟨h.restart x, ⟨hc.queued, ?_⟩, noneFailed_nil⟩
    intro y c k p hk hp
    by_cases hy : y = x
    · simp [State.restart, hy] at hk
    · exact hc.sent y c k p (by simpa [State.restart, hy] using hk) hp
  | cleanUp x => exact h.stepCleanUp hc hs
  | openConnection t port =>
    dsimp only at hs
    split at hs
    · obtain ⟨rfl, rfl⟩ := Prod.mk.inj (Option.some.inj hs)
      exact ⟨h.of_view (fun _ _ => rfl) (fun _ => rfl) rfl rfl rfl, ⟨hc.queued, hc.sent⟩,
        noneFailed_nil⟩
    · simp at hs
  | opener t =>
    obtain ⟨hrun, hs⟩ := Option.ite_none_right_eq_some.mp hs
    exact h.stepOpener hc hrun hok hs
  | acceptor =>
    obtain ⟨hrun, hs⟩ := Option.ite_none_right_eq_some.mp hs
    exact h.stepAcceptor hc hrun hs
  | sender x c data =>
    dsimp only at hs
    split at hs
    · rename_i k hrun hk
      exact h.send hc hk hs
    · simp at hs
  | receiver x c socketOk =>
    dsimp only at hs
    split at hs
    · rename_i k hrun hk
      exact h.receive hc hk hs
    · simp at hs

theorem Named.step {tr es : List Event} {i : Input θ} (hkept : Kept s) (h : Named tr s)
    (hs : step s i = some (s', es)) : Named (tr ++ es) s' := by
  have hsame : ∀ {s₁ : State θ}, s₁.owner = s.owner → s₁.port = s.port → Named (tr ++ []) s₁ := by
    intro s₁ howner hport
    constructor
    · simpa [howner, hport] using h.opened
    · simpa using h.accepted
  unfold SocketForward.step at hs
  cases i with
  | restart x =>
    obtain ⟨rfl, rfl⟩ := Prod.mk.inj (Option.some.inj hs)
    exact hsame rfl rfl
  | cleanUp x => exact h.frame (stepCleanUp_frame hs)
  | openConnection t port =>
    dsimp only at hs
    split at hs
    · obtain ⟨rfl, rfl⟩ := Prod.mk.inj (Option.some.inj hs)
      exact hsame rfl rfl
    · simp at hs
  | opener t =>
    obtain ⟨-, hs⟩ := Option.ite_none_right_eq_some.mp hs
    unfold State.stepOpener at hs
    split at hs
    case h_1 => simp at hs
    case h_2 i port hpc =>
      split at hs
      · split at hs
        · obtain ⟨rfl, rfl⟩ := Prod.mk.inj (Option.some.inj hs)
          constructor
          · intro j hj
            change (s.acquire i port).owner j ≠ 0 at hj
            change Event.opened ((s.acquire i port).owner j) ((s.acquire i port).port j) ∈ _
            rw [owner_acquire] at hj ⊢
            rw [port_acquire]
            split
            · simp
            · rename_i hji
              rw [if_neg hji] at hj
              exact List.mem_append_left _ (h.opened j hj)
          · intro c port' hc
            simp only [List.mem_append, List.mem_singleton, reduceCtorEq, or_false] at hc
            exact List.mem_append_left _ (h.accepted c port' hc)
        · obtain ⟨rfl, rfl⟩ := Prod.mk.inj (Option.some.inj hs)
          exact hsame rfl rfl
      · obtain ⟨rfl, rfl⟩ := Prod.mk.inj (Option.some.inj hs)
        exact hsame rfl rfl
    case h_3 c hpc =>
      obtain ⟨s₁, hlaunch, heq⟩ := Option.map_eq_some_iff.mp hs
      obtain ⟨rfl, rfl⟩ := Prod.mk.inj heq
      have hframe := launch_frame hlaunch
      exact hsame hframe.owner hframe.port
  | acceptor =>
    obtain ⟨-, hs⟩ := Option.ite_none_right_eq_some.mp hs
    unfold State.stepAcceptor at hs
    split at hs
    case h_1 =>
      split at hs <;>
      · obtain ⟨rfl, rfl⟩ := Prod.mk.inj (Option.some.inj hs)
        exact hsame rfl rfl
    case h_2 i hpc =>
      split at hs
      · split at hs
        · split at hs
          · obtain ⟨rfl, rfl⟩ := Prod.mk.inj (Option.some.inj hs)
            exact hsame (owner_mapState _ _ _) (port_mapState _ _ _)
          · obtain ⟨rfl, rfl⟩ := Prod.mk.inj (Option.some.inj hs)
            exact h.frame (frame_setProcess _ (by simp))
        · obtain ⟨rfl, rfl⟩ := Prod.mk.inj (Option.some.inj hs)
          exact hsame rfl rfl
      · obtain ⟨rfl, rfl⟩ := Prod.mk.inj (Option.some.inj hs)
        exact hsame rfl rfl
    case h_3 c hpc =>
      split at hs
      · rename_i k hk
        obtain ⟨s₁, hlaunch, heq⟩ := Option.map_eq_some_iff.mp hs
        obtain ⟨rfl, rfl⟩ := Prod.mk.inj heq
        have hframe := launch_frame hlaunch
        have hnamed : Named tr s₁ := by
          have := h.frame hframe
          rwa [List.append_nil] at this
        have hbuilt : k.sender = .built := by
          simp only [State.launch, hk] at hlaunch
          by_contra hne
          simp [hne] at hlaunch
        have howner := hkept.threads.owned .guest c k .guest hk (by
          simp [Connection.Holds, hbuilt])
        have hpos : s.owner k.id ≠ 0 := by
          refine hkept.words.taken k.id .guest (QueueState.ne_inactive (x := .guest) ?_)
          exact hkept.threads.isOpen (hkept.threads.running hk) hk (by
            simp [Connection.Holds, hbuilt])
        constructor
        · intro j hj
          exact List.mem_append_left _ (hnamed.opened j hj)
        · intro c' port hc
          obtain hc | hc := List.mem_append.mp hc
          · exact List.mem_append_left _ (hnamed.accepted c' port hc)
          · obtain ⟨rfl, rfl⟩ := Event.accepted.inj (List.mem_singleton.mp hc)
            exact List.mem_append_left _ (howner ▸ h.opened k.id hpos)
      · simp at hs
  | sender x c data =>
    dsimp only at hs
    split at hs
    · exact h.frame (send_frame hs)
    · simp at hs
  | receiver x c socketOk =>
    dsimp only at hs
    split at hs
    · exact h.frame (receive_frame hs)
    · simp at hs

theorem kept_of_run {tr : List Event} (run : (machine θ).Run Undisturbed {} tr s) :
    Kept s ∧ Carried s ∧ NoneFailed tr ∧ Named tr s := by
  refine run.invariant (P := fun tr s => Kept s ∧ Carried s ∧ NoneFailed tr ∧ Named tr s)
    ⟨Kept.start, Carried.start, noneFailed_nil, ⟨?_, ?_⟩⟩ ?_
  · intro i hi
    simp [State.owner] at hi
  · simp
  · intro tr es s s' i hparts hok hs
    obtain ⟨hkept, hcarried, hfailed, hnamed⟩ := hparts
    obtain ⟨hkept', hcarried', hes⟩ := hkept.step hcarried hok hs
    refine ⟨hkept', hcarried', ?_, hnamed.step hkept hs⟩
    intro x hx
    obtain hx | hx := List.mem_append.mp hx
    · exact hfailed x hx
    · exact hes x hx

/-- Whichever processes are restarted when, no check fails, no two connections have the same
pair of queues at once, and the guest connects to the port that the host asked for. -/
theorem window_exclusive {tr : List Event} (run : (machine θ).Run Undisturbed {} tr s) :
    (∀ x, .failed x ∉ tr) ∧
    (∀ x y c c' k k', s.connections x c = some k → s.connections y c' = some k' →
      k.Open → k'.Open → k.id = k'.id → c = c') ∧
    ∀ c port, .accepted c port ∈ tr → .opened c port ∈ tr := by
  obtain ⟨hkept, -, hfailed, hnamed⟩ := kept_of_run run
  refine ⟨hfailed, ?_, hnamed.accepted⟩
  intro x y c c' k k' hk hk' hopen hopen' hid
  obtain ⟨d, hd⟩ := hopen.holds x
  obtain ⟨d', hd'⟩ := hopen'.holds y
  rw [← hkept.threads.owned x c k d hk hd, hid, hkept.threads.owned y c' k' d' hk' hd']

end Keeping

def openOne : List (Input Unit) :=
  List.replicate 34 (Input.cleanUp .guest) ++ List.replicate 34 (Input.cleanUp .host) ++
    [Input.openConnection () 5555, .opener ()]

def acceptOne : List (Input Unit) :=
  [.sender .host 1 [], .sender .host 1 [], .sender .host 1 [], .opener (), .acceptor, .acceptor,
    .sender .guest 1 [], .sender .guest 1 [], .sender .guest 1 [], .acceptor]

/-- The host takes a pair that the guest is about to reset, and then finds it inactive. -/
example : ∃ tr s, (machine Unit).Run (fun _ _ => True) {} tr s ∧ .failed .host ∈ tr :=
  Machine.run_of_exec (machine Unit) (fun _ _ => True) {}
    ([Input.cleanUp .guest, .cleanUp .guest] ++ List.replicate 34 (Input.cleanUp .host) ++
      [Input.openConnection () 5555, .opener (), .cleanUp .guest, .sender .host 1 [],
        .sender .host 1 []])
    (fun _ tr => .failed .host ∈ tr) (by decide +kernel)

/-- No end is lost when processes are restarted: once both run again, a queue is inactive, and
so may be taken, just when no thread has an end of it. -/
theorem window_inactive_iff {θ : Type*} [DecidableEq θ] {tr : List Event} {s : State θ}
    (run : (machine θ).Run Undisturbed {} tr s) (hrun : ∀ x, s.process x = .running) (i : ℕ)
    (d : Side) : s.queueState i d = .inactive ↔
      ∀ x c k, s.connections x c = some k → k.id = i → ¬ k.Holds x d := by
  obtain ⟨hkept, -⟩ := kept_of_run run
  constructor
  · rintro hq x c k hk rfl hd
    exact QueueState.ne_inactive (hkept.threads.isOpen (hrun x) hk hd) hq
  · intro hnone
    apply QueueState.eq_inactive
    intro x hopen
    obtain ⟨k, hk, hid, hd⟩ := (hkept.threads.ends x (hrun x) i d).mp hopen
    exact hnone x _ k hk hid hd

end Rpi3Device.Vsoc.SocketForward
