import Rpi3Device.Dhcp.ClientBackoff

/-!
# The timers of a lease

`configureDhcp` arms the renewal timer at half of the lease time and the
rebinding timer at seven eighths of it, unless the acknowledgement gives its own
values. The product by seven is formed in 32 bits, so the second timer is right
exactly for lease times below a seventh of `2 ^ 32`.

A client that gets no answers moves from bound to renewing and from there to
rebinding, each at the first evaluation of its state after the timer has
expired. In the bound state it waits for the timer. In the renewing state it
waits out its retransmission timeout, at most 65 seconds, whatever is left of
the timer; rebinding starts in time if the lease still lasts for longer than
that. The bound on what a round of the client takes besides its wait is a
parameter.
-/

namespace Rpi3Device.Dhcp
open TransitionSystem Machine

namespace Timer

theorem toNat_mul_1000 {seconds : UInt64} (h : 1000 * seconds.toNat < 2 ^ 64) :
    (seconds * 1000).toNat = 1000 * seconds.toNat := by
  have h1000 : (1000 : UInt64).toNat = 1000 := rfl
  rw [UInt64.toNat_mul, h1000, Nat.mul_comm, Nat.mod_eq_of_lt h]

theorem expireSeconds_toNat {now seconds : UInt64}
    (h : now.toNat + 1000 * seconds.toNat < 2 ^ 64) :
    (expireSeconds now seconds).mExpires.toNat = now.toNat + 1000 * seconds.toNat := by
  rw [expireSeconds, UInt64.toNat_add, toNat_mul_1000 (by omega), Nat.mod_eq_of_lt h]

theorem expireSeconds_inj {now s s' : UInt64} (hs : s.toNat < 2 ^ 32) (hs' : s'.toNat < 2 ^ 32) :
    expireSeconds now s = expireSeconds now s' ↔ s.toNat = s'.toNat := by
  have hlt : 1000 * s.toNat < 2 ^ 64 := by omega
  have hlt' : 1000 * s'.toNat < 2 ^ 64 := by omega
  constructor
  · intro heq
    have hsum : (now + s * 1000).toNat = (now + s' * 1000).toNat :=
      congrArg (fun t : Timer => t.mExpires.toNat) heq
    rw [UInt64.toNat_add, UInt64.toNat_add, toNat_mul_1000 hlt, toNat_mul_1000 hlt'] at hsum
    have hmod : 1000 * s.toNat ≡ 1000 * s'.toNat [MOD 2 ^ 64] :=
      Nat.ModEq.add_left_cancel' now.toNat hsum
    have hmillis := hmod.eq_of_lt_of_lt hlt hlt'
    exact Nat.eq_of_mul_eq_mul_left (by norm_num) hmillis
  · intro heq
    rw [UInt64.toNat_inj.mp heq]

theorem expired_iff (t : Timer) (now : UInt64) :
    t.expired now = true ↔ t.mExpires.toNat ≤ now.toNat := by
  rw [expired, decide_eq_true_eq, ge_iff_le, UInt64.le_iff_toNat_le]

theorem remainingMillis_le (t : Timer) (current : UInt64) :
    (t.remainingMillis current).toNat ≤ t.mExpires.toNat - current.toNat := by
  unfold remainingMillis
  split_ifs with h
  · simp
  · have hle : current.toNat ≤ t.mExpires.toNat := by
      rw [gt_iff_lt, UInt64.lt_iff_toNat_lt] at h
      omega
    rw [UInt64.toNat_sub_of_le _ _ (UInt64.le_iff_toNat_le.mpr hle)]

end Timer

/-- An acknowledgement with a lease time and neither of the timers. -/
structure GrantsFor (msg : Message) (leaseTime : UInt32) : Prop where
  size : 4 ≤ msg.optionsSize
  complete : msg.readOptions.1 = true
  leaseTime_eq : msg.readOptions.2.leaseTime = leaseTime
  positive : leaseTime ≠ 0
  noT1 : msg.readOptions.2.t1 = 0
  noT2 : msg.readOptions.2.t2 = 0

namespace DhcpClient
variable (c : DhcpClient) {msg : Message} {leaseTime : UInt32} (io : IoOutcome)
  (t1Now t2Now : UInt64)

theorem applyDhcpInfo_timers : (c.applyDhcpInfo io t1Now t2Now).2.mT1 = .expireSeconds t1Now
      (if c.mDhcpInfo.t1 > 0 then c.mDhcpInfo.t1 else c.mDhcpInfo.leaseTime / 2).toUInt64 ∧
    (c.applyDhcpInfo io t1Now t2Now).2.mT2 = .expireSeconds t2Now
      (if c.mDhcpInfo.t2 > 0 then c.mDhcpInfo.t2 else c.mDhcpInfo.leaseTime * 7 / 8).toUInt64 := by
  simp only [applyDhcpInfo]
  by_cases hres : (configureInterface c.mInterface c.mDhcpInfo io).1 = true
  · cases hgw : io.setDefaultGateway with
    | true => simp [hres, hgw, Router.setDefaultGateway, setProperties]
    | false => simp [hres, hgw, Router.setDefaultGateway]
  · simp [hres]

theorem configureDhcp_timers (h : GrantsFor msg leaseTime) :
    (c.configureDhcp msg io t1Now t2Now).2.mT1 =
      .expireSeconds t1Now (leaseTime / 2).toUInt64 ∧
    (c.configureDhcp msg io t1Now t2Now).2.mT2 =
      .expireSeconds t2Now (leaseTime * 7 / 8).toUInt64 := by
  have hsize : ¬ msg.optionsSize < 4 := by have := h.size; omega
  have hlease : (c.withOptions msg).mDhcpInfo.leaseTime ≠ 0 := h.leaseTime_eq ▸ h.positive
  have heq : c.configureDhcp msg io t1Now t2Now =
      (c.withOptions msg).applyDhcpInfo io t1Now t2Now := by
    simp only [configureDhcp, if_neg hsize, h.complete, Bool.not_true, Bool.false_eq_true,
      if_false]
    exact if_neg hlease
  have hinfo : (c.withOptions msg).mDhcpInfo.t1 = 0 ∧ (c.withOptions msg).mDhcpInfo.t2 = 0 ∧
      (c.withOptions msg).mDhcpInfo.leaseTime = leaseTime := ⟨h.noT1, h.noT2, h.leaseTime_eq⟩
  have htimers := applyDhcpInfo_timers (c.withOptions msg) io t1Now t2Now
  rw [hinfo.1, hinfo.2.1, hinfo.2.2, if_neg (by decide), if_neg (by decide)] at htimers
  rw [heq]
  exact htimers

theorem toNat_sevenEighths (leaseTime : UInt32) :
    (leaseTime * 7 / 8).toUInt64.toNat = 7 * leaseTime.toNat % 2 ^ 32 / 8 := by
  rw [UInt32.toNat_toUInt64, UInt32.toNat_div, UInt32.toNat_mul, Nat.mul_comm]
  rfl

theorem configureDhcp_arms_iff (h : GrantsFor msg leaseTime) :
    (c.configureDhcp msg io t1Now t2Now).2.mT1 =
      .expireSeconds t1Now (UInt64.ofNat (leaseTime.toNat / 2)) ∧
    ((c.configureDhcp msg io t1Now t2Now).2.mT2 =
      .expireSeconds t2Now (UInt64.ofNat (7 * leaseTime.toNat / 8)) ↔
        7 * leaseTime.toNat < 2 ^ 32) := by
  have hlt := leaseTime.toNat_lt
  obtain ⟨ht1, ht2⟩ := c.configureDhcp_timers io t1Now t2Now h
  rw [ht1, ht2]
  constructor
  · congr 1
    apply UInt64.toNat_inj.mp
    rw [UInt32.toNat_toUInt64, UInt32.toNat_div, UInt64.toNat_ofNat_of_lt']
    · rfl
    · simp only [UInt64.size]
      omega
  · have hgoal : (UInt64.ofNat (7 * leaseTime.toNat / 8)).toNat = 7 * leaseTime.toNat / 8 := by
      rw [UInt64.toNat_ofNat_of_lt']
      simp only [UInt64.size]
      omega
    rw [Timer.expireSeconds_inj (by rw [toNat_sevenEighths]; omega) (by rw [hgoal]; omega),
      toNat_sevenEighths, hgoal]
    constructor
    · intro heq
      by_contra hbig
      have hmod : 7 * leaseTime.toNat % 2 ^ 32 + 2 ^ 32 ≤ 7 * leaseTime.toNat := by
        have hdiv := Nat.mod_add_div (7 * leaseTime.toNat) (2 ^ 32)
        have hpos : 1 ≤ 7 * leaseTime.toNat / 2 ^ 32 :=
          (Nat.one_le_div_iff (by norm_num)).mpr (not_lt.mp hbig)
        omega
      omega
    · intro hsmall
      rw [Nat.mod_eq_of_lt hsmall]

end DhcpClient

def RenewsFirst (pre : List Event) (e : Event) : Prop :=
  e = .moved .rebinding → .moved .renewing ∈ pre

structure OrderInv (tr : List Event) (c : DhcpClient) : Prop where
  justified : Justified RenewsFirst tr
  renewing : c.mState = .renewing → .moved .renewing ∈ tr

theorem OrderInv.step {tr es : List Event} {c c' : DhcpClient} {input : ClientInput}
    (h : OrderInv tr c) (ht : c.Transition input c' es) : OrderInv (tr ++ es) c' := by
  have other (hes : .moved .rebinding ∉ es) : Justified RenewsFirst (tr ++ es) :=
    h.justified.append fun e he _ heq => absurd (heq ▸ he) hes
  have kept (hs : c'.mState = c.mState) : c'.mState = .renewing → .moved .renewing ∈ tr ++ es :=
    fun hr => List.mem_append_left es (h.renewing (hs.symm.trans hr))
  cases ht with
  | start hp hs => exact ⟨other (by simp), fun hr => absurd hr (by simp [DhcpClient.enter])⟩
  | discover hp hs hm => exact ⟨other (by simp), kept rfl⟩
  | request hp hs hm => exact ⟨other (by simp), kept rfl⟩
  | giveUp hp hs ht => exact ⟨other (by simp), fun hr => absurd hr (by simp [DhcpClient.enter])⟩
  | renew hp hs ht => exact ⟨other (by simp), fun _ => by simp⟩
  | keepLease hp hs ht timeout polling => exact ⟨other (by simp), kept rfl⟩
  | rebind hp hs ht =>
    refine ⟨justified_snoc.mpr ⟨h.justified, fun _ => h.renewing hs⟩, fun hr => ?_⟩
    exact absurd hr (by simp [DhcpClient.enter])
  | wait hp hn polling => exact ⟨other (by simp), kept rfl⟩
  | offer hp hs hr ht => exact ⟨other (by simp), fun hr => absurd hr (by simp [DhcpClient.enter])⟩
  | ack hp hs hr ht hg => exact ⟨other (by simp), fun hr => absurd hr (by simp [DhcpClient.enter])⟩
  | ackFailed hp hs hr ht hg polling =>
    exact ⟨other (by simp), kept (c.configureDhcp_frame _ _ _ _).state⟩
  | nak hp hs hr ht => exact ⟨other (by simp), fun hr => absurd hr (by simp [DhcpClient.enter])⟩

theorem renews_first {c₀ c : DhcpClient} {tr : List Event} {ok : DhcpClient → ClientInput → Prop}
    (h₀ : c₀.mState ≠ .renewing) (run : clientMachine.Run ok c₀ tr c) :
    Justified RenewsFirst tr := by
  have hinv : OrderInv tr c := by
    refine run.invariant (P := OrderInv) ⟨justified_nil _, fun hr => absurd hr h₀⟩ ?_
    exact fun hinv _ hs => hinv.step (DhcpClient.step_transition hs)
  exact hinv.justified

def DhcpClient.wait (c : DhcpClient) : ℕ := (c.polling.map UInt32.toNat).getD 0

/-- Runs in which every poll times out. The time is that of the next evaluation of
the state; a round takes at most `δ` milliseconds longer than its poll. -/
inductive SilentRun (δ : ℕ) (c₀ : DhcpClient) (t₀ : ℕ) : List Event → DhcpClient → ℕ → Prop where
  | start : SilentRun δ c₀ t₀ [] c₀ t₀
  | round {tr es : List Event} {c c' : DhcpClient} {t t' : ℕ} {n m : UInt64} {a : Adjustment} :
      SilentRun δ c₀ t₀ tr c t → n.toNat = t → t ≤ m.toNat →
      c.step (.evaluate n m a) = some (c', es) → t + c'.wait ≤ t' → t' ≤ t + c'.wait + δ →
      SilentRun δ c₀ t₀ (tr ++ es) { c' with polling := none } t'

def ClientInput.Silent : ClientInput → Prop
  | .evaluate _ _ _ => True
  | .poll _ _ .timeout => True
  | _ => False

theorem SilentRun.run {δ t₀ t : ℕ} {c₀ c : DhcpClient} {tr : List Event}
    (h : SilentRun δ c₀ t₀ tr c t) :
    clientMachine.Run (fun _ input => input.Silent) c₀ tr c := by
  induction h with
  | start => exact .nil
  | @round tr es c c' t t' n m a _ _ _ hstep _ _ ih =>
    have heval := Run.snoc (i := ClientInput.evaluate n m a) ih trivial hstep
    cases hp : c'.polling with
    | none =>
      have hsame : ({ c' with polling := none } : DhcpClient) = c' := by rw [← hp]
      rw [hsame]
      exact heval
    | some timeout =>
      have hpoll : clientMachine.step c' (.poll 0 0 .timeout) =
          some ({ c' with polling := none }, []) := by
        simp [clientMachine, DhcpClient.step, hp, DhcpClient.pollRound, DhcpClient.leaveWait]
      simpa using Run.snoc (i := ClientInput.poll 0 0 .timeout) heval trivial hpoll

section Rounds
variable {c c' : DhcpClient} {n m : UInt64} {a : Adjustment} {es : List Event}

theorem step_evaluate_eq (h : c.step (.evaluate n m a) = some (c', es)) : c.polling = none ∧
    c' = (c.evaluateState n m).1.beginWait a ∧ es = (c.evaluateState n m).2 := by
  cases hp : c.polling with
  | none =>
    simp only [DhcpClient.step, hp, Option.some.injEq, Prod.mk.injEq] at h
    exact ⟨rfl, h.1.symm, h.2.symm⟩
  | some timeout => simp [DhcpClient.step, hp] at h

theorem wait_enter (c : DhcpClient) (state : State) : (c.enter state).wait = 0 := rfl

theorem bound_round (h : c.step (.evaluate n m a) = some (c', es)) (hs : c.mState = .bound)
    (ht : c.mT1.expired n = false) : es = [] ∧ c'.mState = .bound ∧ c'.mT1 = c.mT1 ∧
      c'.mT2 = c.mT2 ∧ c'.wait ≤ c.mT1.mExpires.toNat - m.toNat := by
  obtain ⟨hp, rfl, rfl⟩ := step_evaluate_eq h
  simp only [DhcpClient.evaluateState, hs, ht, Bool.false_eq_true, if_false]
  refine ⟨trivial, rfl, rfl, rfl, ?_⟩
  have hremaining := c.mT1.remainingMillis_le m
  by_cases hzero : (c.mT1.remainingMillis m).toUInt32 = kNoTimeout
  · simp [DhcpClient.wait, DhcpClient.beginWait, hzero, hp]
  · simp only [DhcpClient.wait, DhcpClient.beginWait, hzero, if_false, Option.map_some,
      Option.getD_some, DhcpClient.calculateTimeoutMillis, Bool.not_false, if_true]
    rw [UInt64.toNat_toUInt32]
    exact (Nat.mod_le _ _).trans hremaining

theorem transmit_wait_le (message : Message) (hmem : c.mNextTimeout ∈ backoffTimeouts)
    (hfuzz : c.mFuzzNextTimeout = true) : (c.transmit message a).wait ≤ 65000 := by
  obtain ⟨hmem', hne, -⟩ := increasedTimeout_mem _ hmem
  have hwait : (c.transmit message a).wait =
      ((c.send message).1.increaseTimeout.calculateTimeoutMillis a).toNat := by
    simp only [DhcpClient.wait, DhcpClient.transmit, DhcpClient.beginWait]
    rw [if_neg (show (c.send message).1.increaseTimeout.mNextTimeout ≠ kNoTimeout from hne)]
    rfl
  have hnear := (DhcpClient.calculateTimeoutMillis_near
    (c := (c.send message).1.increaseTimeout) hmem' hne hfuzz a).2
  have hrange : (c.send message).1.increaseTimeout.mNextTimeout.toNat ≤ 64000 :=
    (backoffTimeouts_range _ hmem' hne).2
  rw [abs_le] at hnear
  omega

theorem renewing_round (h : c.step (.evaluate n m a) = some (c', es)) (hs : c.mState = .renewing)
    (ht : c.mT2.expired n = false) :
    es = [.sent .renewing c.mInterface.isUp (c.requestTo c.mServerAddress)] ∧
      c' = c.transmit (c.requestTo c.mServerAddress) a := by
  obtain ⟨-, rfl, rfl⟩ := step_evaluate_eq h
  simp only [DhcpClient.evaluateState, hs, ht, Bool.false_eq_true, if_false]
  refine ⟨?_, rfl⟩
  rw [← hs]
  rfl

theorem move_round (state : State) (h : c.step (.evaluate n m a) = some (c', es))
    (hmove : c.evaluateState n m = c.setNextState state) :
    es = [.moved state] ∧ c' = c.enter state := by
  obtain ⟨hp, rfl, rfl⟩ := step_evaluate_eq h
  rw [hmove, DhcpClient.setNextState_beginWait hp]
  exact ⟨rfl, rfl⟩

end Rounds

inductive SilentPhase (δ : ℕ) (c₀ : DhcpClient) (t₀ T1 T2 : ℕ) (tr : List Event) (c : DhcpClient)
    (t : ℕ) : Prop where
  | bound (hs : c.mState = .bound) (h1 : c.mT1.mExpires.toNat = T1)
      (h2 : c.mT2.mExpires.toNat = T2) (ht : t ≤ T1 + δ)
  | renewing (hs : c.mState = .renewing) (h2 : c.mT2.mExpires.toNat = T2)
      (hmem : c.mNextTimeout ∈ backoffTimeouts) (hfuzz : c.mFuzzNextTimeout = true)
      (ht : t ≤ max (T1 + 2 * δ) (T2 + 65000 + δ))
  | rebound {tr₁ : List Event} {c₁ : DhcpClient} {t₁ : ℕ} (run : SilentRun δ c₀ t₀ tr₁ c₁ t₁)
      (hs : c₁.mState = .renewing) (hlow : T2 ≤ t₁)
      (ht : t₁ ≤ max (T1 + 2 * δ) (T2 + 65000 + δ))
      (htr : tr₁ ++ [.moved .rebinding] <+: tr)

theorem SilentRun.phase {δ t₀ t T1 T2 : ℕ} {c₀ c : DhcpClient} {tr : List Event}
    (h : SilentRun δ c₀ t₀ tr c t) (hs₀ : c₀.mState = .bound)
    (h1 : c₀.mT1.mExpires.toNat = T1) (h2 : c₀.mT2.mExpires.toNat = T2) (ht₀ : t₀ ≤ T1 + δ) :
    SilentPhase δ c₀ t₀ T1 T2 tr c t := by
  induction h with
  | start => exact .bound hs₀ h1 h2 ht₀
  | @round tr es c c' t t' n m a hrun hn hm hstep hlow hhigh ih =>
    cases ih with
    | bound hs h1 h2 ht =>
      cases hexp : c.mT1.expired n with
      | true =>
        obtain ⟨rfl, rfl⟩ := move_round .renewing hstep (by
          simp [DhcpClient.evaluateState, hs, hexp])
        refine .renewing rfl h2 (show kNoTimeout ∈ backoffTimeouts by decide) rfl ?_
        rw [wait_enter] at hhigh
        omega
      | false =>
        obtain ⟨rfl, hs', h1', h2', hwait⟩ := bound_round hstep hs hexp
        refine .bound hs' (h1' ▸ h1) (h2' ▸ h2) ?_
        have hrunning : ¬ c.mT1.mExpires.toNat ≤ n.toNat := by
          rw [← Timer.expired_iff, hexp]
          exact Bool.false_ne_true
        omega
    | renewing hs h2 hmem hfuzz ht =>
      cases hexp : c.mT2.expired n with
      | true =>
        obtain ⟨rfl, rfl⟩ := move_round .rebinding hstep (by
          simp [DhcpClient.evaluateState, hs, hexp])
        refine .rebound hrun hs ?_ ht (List.prefix_refl _)
        have hdone := (Timer.expired_iff _ _).mp hexp
        omega
      | false =>
        obtain ⟨rfl, rfl⟩ := renewing_round hstep hs hexp
        have hwait := transmit_wait_le (a := a) (c.requestTo c.mServerAddress) hmem hfuzz
        refine .renewing hs h2 (increasedTimeout_mem _ hmem).1 hfuzz ?_
        have hrunning : ¬ c.mT2.mExpires.toNat ≤ n.toNat := by
          rw [← Timer.expired_iff, hexp]
          exact Bool.false_ne_true
        omega
    | rebound run hs hlow' ht htr =>
      exact .rebound run hs hlow' ht (htr.trans (List.prefix_append tr es))

theorem SilentRun.rebinds {δ t₀ t finish : ℕ} {c₀ c : DhcpClient} {tr : List Event}
    (h : SilentRun δ c₀ t₀ tr c t) (hs₀ : c₀.mState = .bound)
    (ht₀ : t₀ ≤ c₀.mT1.mExpires.toNat + δ)
    (horder : c₀.mT1.mExpires.toNat ≤ c₀.mT2.mExpires.toNat)
    (hfinish : c₀.mT2.mExpires.toNat + 65000 + 2 * δ < finish) (hlate : finish ≤ t) :
    ∃ tr₁ c₁ t₁, SilentRun δ c₀ t₀ tr₁ c₁ t₁ ∧ c₁.mState = .renewing ∧
      c₀.mT2.mExpires.toNat ≤ t₁ ∧ t₁ < finish ∧ tr₁ ++ [.moved .rebinding] <+: tr := by
  cases h.phase hs₀ rfl rfl ht₀ with
  | bound hs h1 h2 ht => omega
  | renewing hs h2 hmem hfuzz ht => omega
  | rebound run hs hlow ht htr => exact ⟨_, _, _, run, hs, hlow, by omega, htr⟩

def DhcpClient.boundTo (c : DhcpClient) (msg : Message) (io : IoOutcome) (t1Now t2Now : UInt64) :
    DhcpClient :=
  (c.configureDhcp msg io t1Now t2Now).2.enter .bound

section Lease
variable (c : DhcpClient) {msg : Message} {leaseTime : UInt32} (io : IoOutcome)
  {t1Now t2Now : UInt64}

theorem boundTo_expires (h : GrantsFor msg leaseTime) (hsmall : 7 * leaseTime.toNat < 2 ^ 32)
    (hnow : t1Now ≤ t2Now) (hclock : t2Now.toNat + 1000 * leaseTime.toNat < 2 ^ 64) :
    (c.boundTo msg io t1Now t2Now).mT1.mExpires.toNat =
      t1Now.toNat + 1000 * (leaseTime.toNat / 2) ∧
    (c.boundTo msg io t1Now t2Now).mT2.mExpires.toNat =
      t2Now.toNat + 1000 * (7 * leaseTime.toNat / 8) := by
  have hle := UInt64.le_iff_toNat_le.mp hnow
  obtain ⟨ht1, ht2⟩ := c.configureDhcp_timers io t1Now t2Now h
  have hs1 : (leaseTime / 2).toUInt64.toNat = leaseTime.toNat / 2 := by
    rw [UInt32.toNat_toUInt64, UInt32.toNat_div]
    rfl
  have hs2 : (leaseTime * 7 / 8).toUInt64.toNat = 7 * leaseTime.toNat / 8 := by
    rw [DhcpClient.toNat_sevenEighths, Nat.mod_eq_of_lt hsmall]
  constructor
  · change (c.configureDhcp msg io t1Now t2Now).2.mT1.mExpires.toNat = _
    rw [ht1, Timer.expireSeconds_toNat (by rw [hs1]; omega), hs1]
  · change (c.configureDhcp msg io t1Now t2Now).2.mT2.mExpires.toNat = _
    rw [ht2, Timer.expireSeconds_toNat (by rw [hs2]; omega), hs2]

variable (t1Now t2Now)

/-- The timers of a lease that comes without timer values, and what they mean for a
client that is bound to it: when they are armed as they should be, that they
are in order then, that a client renews before it rebinds, and that without
answers it starts to rebind before the lease ends if the last eighth of the
lease is longer than the longest wait. -/
theorem lease_timers (h : GrantsFor msg leaseTime) :
    (c.configureDhcp msg io t1Now t2Now).2.mT1 =
      .expireSeconds t1Now (UInt64.ofNat (leaseTime.toNat / 2)) ∧
    ((c.configureDhcp msg io t1Now t2Now).2.mT2 =
      .expireSeconds t2Now (UInt64.ofNat (7 * leaseTime.toNat / 8)) ↔
        7 * leaseTime.toNat < 2 ^ 32) ∧
    (∀ ok tr d, clientMachine.Run ok (c.boundTo msg io t1Now t2Now) tr d →
      ∀ pre post, tr = pre ++ .moved .rebinding :: post → .moved .renewing ∈ pre) ∧
    (7 * leaseTime.toNat < 2 ^ 32 → t1Now ≤ t2Now →
      t2Now.toNat + 1000 * leaseTime.toNat < 2 ^ 64 →
      (c.boundTo msg io t1Now t2Now).mT1.mExpires ≤ (c.boundTo msg io t1Now t2Now).mT2.mExpires ∧
      (c.boundTo msg io t1Now t2Now).mT2.mExpires.toNat ≤
        t2Now.toNat + 1000 * leaseTime.toNat ∧
      ∀ δ, t2Now.toNat - t1Now.toNat + 65000 + 2 * δ <
          1000 * (leaseTime.toNat - 7 * leaseTime.toNat / 8) →
        ∀ t₀ tr d t, SilentRun δ (c.boundTo msg io t1Now t2Now) t₀ tr d t →
          t₀ ≤ t2Now.toNat + δ → t1Now.toNat + 1000 * leaseTime.toNat ≤ t →
          ∃ tr₁ d₁ t₁, SilentRun δ (c.boundTo msg io t1Now t2Now) t₀ tr₁ d₁ t₁ ∧
            d₁.mState = .renewing ∧ t₁ < t1Now.toNat + 1000 * leaseTime.toNat ∧
            tr₁ ++ [.moved .rebinding] <+: tr) := by
  obtain ⟨hfirst, hsecond⟩ := c.configureDhcp_arms_iff io t1Now t2Now h
  refine ⟨hfirst, hsecond, ?_, ?_⟩
  · intro ok tr d run pre post htr
    have hstate : (c.boundTo msg io t1Now t2Now).mState ≠ .renewing := State.noConfusion
    exact renews_first hstate run pre _ post htr rfl
  · intro hsmall hnow hclock
    have hle := UInt64.le_iff_toNat_le.mp hnow
    obtain ⟨hT1, hT2⟩ := boundTo_expires c io h hsmall hnow hclock
    refine ⟨UInt64.le_iff_toNat_le.mpr (by omega), by omega, ?_⟩
    intro δ hlong t₀ tr d t run ht₀ hlate
    obtain ⟨tr₁, d₁, t₁, run₁, hs₁, -, ht₁, htr₁⟩ :=
      run.rebinds rfl (by omega) (by omega) (by omega) hlate
    exact ⟨tr₁, d₁, t₁, run₁, hs₁, ht₁, htr₁⟩

end Lease

namespace DhcpClient

def leaseAck (leaseTime : UInt32) : Message :=
  ((Message.construct 1 opBootReply (localMac 1) dhcpAck).addOption optLeaseTime
    (ByteMemory.bytes32 (htonl leaseTime))).endOptions

theorem leaseAck_grantsFor : GrantsFor (leaseAck 600) 600 := by
  refine ⟨?_, ?_, ?_, ?_, ?_, ?_⟩ <;> decide +kernel

end DhcpClient

theorem lease_timers_ten_minutes :
    ((DhcpClient.fresh #v[2, 0, 0, 0, 0, 1]).configureDhcp (DhcpClient.leaseAck 600)
      DhcpClient.allSucceed 0 0).2.mT2 = .expireSeconds 0 525 :=
  (lease_timers _ _ 0 0 DhcpClient.leaseAck_grantsFor).2.1.mpr (by decide)

namespace DhcpClient

def serverAck : Message :=
  Message.ack 2 (Message.request 2 (localMac 1) 0x0500000a 0x0100000a) 0x0100000a
    0x0500000a 0x00ffffff 0x0100000a []

theorem serverAck_grantsFor : GrantsFor serverAck 1476526080 := by
  refine ⟨?_, ?_, ?_, ?_, ?_, ?_⟩ <;> decide +kernel

def boundToEight : DhcpClient :=
  (fresh (localMac 1)).boundTo (leaseAck 8) allSucceed 0 0

theorem boundToEight_silent : ∃ tr c, SilentRun 0 boundToEight 0 tr c 8000 ∧
    c.mState = .renewing := by
  refine ⟨_, _, .round (t := 4000) (n := 4000) (m := 4000) (a := ⟨0, by decide⟩)
    (.round (t := 4000) (n := 4000) (m := 4000) (a := ⟨0, by decide⟩)
      (.round (t := 0) (n := 0) (m := 0) (a := ⟨0, by decide⟩) .start (by decide) (by decide)
        rfl ?_ ?_) (by decide) (by decide) rfl ?_ ?_) (by decide) (by decide) rfl ?_ ?_, ?_⟩ <;>
    decide +kernel

end DhcpClient

/-- The second timer of the server's own acknowledgement is armed before the first,
and with a lease of eight seconds a client without answers is still renewing
when the lease ends. -/
theorem lease_timers_wrap :
    GrantsFor DhcpClient.serverAck 1476526080 ∧
    ((DhcpClient.fresh #v[2, 0, 0, 0, 0, 1]).configureDhcp DhcpClient.serverAck
      DhcpClient.allSucceed 0 0).2.mT2 ≠ .expireSeconds 0 (UInt64.ofNat (7 * 1476526080 / 8)) ∧
    ((DhcpClient.fresh #v[2, 0, 0, 0, 0, 1]).configureDhcp DhcpClient.serverAck
      DhcpClient.allSucceed 0 0).2.mT2.mExpires <
        ((DhcpClient.fresh #v[2, 0, 0, 0, 0, 1]).configureDhcp DhcpClient.serverAck
          DhcpClient.allSucceed 0 0).2.mT1.mExpires ∧
    ∃ tr c, SilentRun 0 DhcpClient.boundToEight 0 tr c 8000 ∧ c.mState = .renewing := by
  have hgrant := DhcpClient.serverAck_grantsFor
  obtain ⟨ht1, ht2⟩ := (DhcpClient.fresh #v[2, 0, 0, 0, 0, 1]).configureDhcp_timers
    DhcpClient.allSucceed 0 0 hgrant
  refine ⟨hgrant, ?_, ?_, DhcpClient.boundToEight_silent⟩
  · refine ((DhcpClient.fresh #v[2, 0, 0, 0, 0, 1]).configureDhcp_arms_iff
      DhcpClient.allSucceed 0 0 hgrant).2.not.mpr ?_
    decide
  · rw [ht1, ht2]
    decide

end Rpi3Device.Dhcp
