import Rpi3Device.Dhcp.ClientSteps
import Rpi3Device.Dhcp.MessageFormat

/-!
# Timeouts and retries of the client

In the four states that send messages the next timeout runs through the
doubling sequence, from 0 after each change of state. The bound on the requests
of one stay is read off the sequence: the timeout tells how many were sent.
-/

namespace Rpi3Device.Dhcp
open TransitionSystem Machine

def State.Retrying (s : State) : Prop :=
  s = .selecting ∨ s = .requesting ∨ s = .renewing ∨ s = .rebinding

theorem retrying_of_requesting_or_rebinding {s : State} (h : s = .requesting ∨ s = .rebinding) :
    s.Retrying := by
  rcases h with rfl | rfl
  · exact .inr (.inl rfl)
  · exact .inr (.inr (.inr rfl))

def backoffTimeouts : List UInt32 := [0, 4000, 8000, 16000, 32000, 64000]

def attempts (timeout : UInt32) : ℕ := backoffTimeouts.idxOf timeout

theorem mem_backoffTimeouts {t : UInt32} : t ∈ backoffTimeouts ↔
    t = 0 ∨ t = 4000 ∨ t = 8000 ∨ t = 16000 ∨ t = 32000 ∨ t = 64000 := by
  simp [backoffTimeouts]

theorem increasedTimeout_mem : ∀ t ∈ backoffTimeouts,
    DhcpClient.increasedTimeout t ∈ backoffTimeouts ∧ DhcpClient.increasedTimeout t ≠ 0 ∧
      (t < kMaxTimeout → attempts (DhcpClient.increasedTimeout t) = attempts t + 1) := by
  intro t ht
  rcases mem_backoffTimeouts.mp ht with rfl | rfl | rfl | rfl | rfl | rfl <;> decide

theorem attempts_le {t : UInt32} (h : t ∈ backoffTimeouts) : attempts t ≤ 5 :=
  Nat.le_of_lt_succ (List.idxOf_lt_length_of_mem h)

def requestsInStay (tr : List Event) : ℕ :=
  tr.foldl (fun n e => match e with
    | .moved _ => 0
    | .sent _ _ message => if message.type = dhcpRequest then n + 1 else n
    | _ => n) 0

theorem requestsInStay_moved (tr : List Event) (s : State) :
    requestsInStay (tr ++ [.moved s]) = 0 := by
  simp [requestsInStay]

theorem requestsInStay_sent (tr : List Event) (s : State) (up : Bool) {m : Message}
    (hm : m.type = dhcpRequest) : requestsInStay (tr ++ [.sent s up m]) =
      requestsInStay tr + 1 := by
  simp [requestsInStay, hm]

structure BackoffInv (tr : List Event) (c : DhcpClient) : Prop where
  timeout : c.mState.Retrying → c.mNextTimeout ∈ backoffTimeouts ∧ c.mFuzzNextTimeout = true
  polled : c.mState.Retrying → c.polling ≠ none → c.mNextTimeout ≠ 0
  count : c.mState = .requesting ∨ c.mState = .rebinding →
    requestsInStay tr = attempts c.mNextTimeout

theorem backoffInv_enter (tr : List Event) (c : DhcpClient) (s : State) :
    BackoffInv (tr ++ [.moved s]) (c.enter s) where
  timeout _ := ⟨by simp [DhcpClient.enter, kNoTimeout, backoffTimeouts], rfl⟩
  polled _ h := absurd rfl h
  count _ := requestsInStay_moved tr s

theorem BackoffInv.transmit {tr : List Event} {c : DhcpClient} (h : BackoffInv tr c)
    (hs : c.mState.Retrying) (a : Adjustment) (up : Bool) {m : Message}
    (hcount : c.mState = .requesting ∨ c.mState = .rebinding →
      c.mNextTimeout < kMaxTimeout ∧ m.type = dhcpRequest) :
    BackoffInv (tr ++ [.sent c.mState up m]) (c.transmit m a) := by
  obtain ⟨hmem, hfuzz⟩ := h.timeout hs
  obtain ⟨hmem', hne, hsucc⟩ := increasedTimeout_mem _ hmem
  refine ⟨fun _ => ⟨hmem', hfuzz⟩, fun _ _ => hne, fun hr => ?_⟩
  obtain ⟨hlt, htype⟩ := hcount hr
  rw [requestsInStay_sent tr _ up htype, h.count hr]
  exact (hsucc hlt).symm

theorem BackoffInv.congr {tr : List Event} {c d : DhcpClient} (h : BackoffInv tr c)
    (hp : c.polling ≠ none) (hs : d.mState = c.mState) (ht : d.mNextTimeout = c.mNextTimeout)
    (hf : d.mFuzzNextTimeout = c.mFuzzNextTimeout) : BackoffInv tr d where
  timeout hr := by
    rw [hs] at hr
    rw [ht, hf]
    exact h.timeout hr
  polled hr _ := by
    rw [hs] at hr
    rw [ht]
    exact h.polled hr hp
  count hr := by
    rw [hs] at hr
    rw [ht]
    exact h.count hr

theorem backoffInv_of_not_retrying {c : DhcpClient} (tr : List Event)
    (hs : ¬ c.mState.Retrying) : BackoffInv tr c where
  timeout hr := absurd hr hs
  polled hr := absurd hr hs
  count hr := absurd (retrying_of_requesting_or_rebinding hr) hs

theorem BackoffInv.step {tr es : List Event} {c c' : DhcpClient} {input : ClientInput}
    (h : BackoffInv tr c) (ht : c.Transition input c' es) : BackoffInv (tr ++ es) c' := by
  cases ht with
  | start hp hs => exact backoffInv_enter tr c .selecting
  | discover hp hs hm =>
    exact h.transmit (.inl hs) _ _ fun hr => by simp [hs] at hr
  | request hp hs hm =>
    refine h.transmit ?_ _ _ fun hr => ?_
    · exact .inr hs.awaitsAck
    · refine ⟨?_, hm ▸ request_type _ _ _ _⟩
      cases hs with
      | requesting _ ht => exact ht
      | renewing hq => simp [hq] at hr
      | rebinding _ ht => exact ht
  | giveUp hp hs ht => exact backoffInv_enter tr c .init
  | renew hp hs ht => exact backoffInv_enter tr c .renewing
  | keepLease hp hs ht timeout polling =>
    exact backoffInv_of_not_retrying _ (by simp [State.Retrying, hs])
  | rebind hp hs ht => exact backoffInv_enter tr c .rebinding
  | wait hp hn polling =>
    rw [List.append_nil]
    exact h.congr hp rfl rfl rfl
  | offer hp hs hr ht => exact backoffInv_enter tr _ .requesting
  | ack hp hs hr ht hg =>
    rw [List.append_cons]
    exact backoffInv_enter _ _ .bound
  | @ackFailed _ _ n₁ n₂ _ io msg hp hs hr ht hg polling =>
    have hframe := c.configureDhcp_frame msg io n₁ n₂
    rw [List.append_nil]
    exact h.congr hp hframe.state hframe.nextTimeout hframe.fuzz
  | nak hp hs hr ht =>
    rw [List.append_cons]
    exact backoffInv_enter _ _ .init

theorem backoffInv_run {c₀ c : DhcpClient} (h₀ : c₀.Initialised)
    {ok : DhcpClient → ClientInput → Prop} {tr : List Event}
    (run : clientMachine.Run ok c₀ tr c) : BackoffInv tr c := by
  refine run.invariant ?_ fun hinv _ hs => hinv.step (DhcpClient.step_transition hs)
  exact backoffInv_of_not_retrying [] (by simp [State.Retrying, h₀.started.state])

theorem backoffTimeouts_range :
    ∀ t ∈ backoffTimeouts, t ≠ 0 → 4000 ≤ t.toNat ∧ t.toNat ≤ 64000 := by
  intro t ht
  rcases mem_backoffTimeouts.mp ht with rfl | rfl | rfl | rfl | rfl | rfl <;> decide

theorem toNat_ofInt_of_nonneg {a : ℤ} (h₀ : 0 ≤ a) (h₁ : a ≤ 1000) :
    ((UInt32.ofInt a).toNat : ℤ) = a := by
  simp only [UInt32.ofInt, UInt32.toNat_ofNat']
  omega

theorem toNat_add_ofInt {t : UInt32} (h₀ : 4000 ≤ t.toNat) (h₁ : t.toNat ≤ 64000) {a : ℤ}
    (ha : -1000 ≤ a ∧ a ≤ 1000) : ((t + UInt32.ofInt a).toNat : ℤ) = t.toNat + a := by
  simp only [UInt32.toNat_add, UInt32.ofInt, UInt32.toNat_ofNat']
  omega

/-- The branch against underflow is not taken and the adjustment does not wrap. -/
theorem DhcpClient.calculateTimeoutMillis_near {c : DhcpClient}
    (hmem : c.mNextTimeout ∈ backoffTimeouts) (hne : c.mNextTimeout ≠ 0)
    (hfuzz : c.mFuzzNextTimeout = true) (a : Adjustment) :
    ¬ (a.val < 0 ∧ UInt32.ofInt (-a.val) > c.mNextTimeout) ∧
      |((c.calculateTimeoutMillis a).toNat : ℤ) - c.mNextTimeout.toNat| ≤ 1000 := by
  obtain ⟨hlow, hhigh⟩ := backoffTimeouts_range _ hmem hne
  obtain ⟨a, ha⟩ := a
  simp only [kTimeoutSpan] at ha
  have hsmall : ¬ (a < 0 ∧ UInt32.ofInt (-a) > c.mNextTimeout) := by
    intro h
    obtain ⟨hneg, hgt⟩ := h
    have hval := toNat_ofInt_of_nonneg (a := -a) (by omega) (by omega)
    have hlt := UInt32.lt_iff_toNat_lt.mp hgt
    omega
  refine ⟨hsmall, ?_⟩
  have hval : c.calculateTimeoutMillis ⟨a, ha⟩ = c.mNextTimeout + UInt32.ofInt a := by
    simp only [calculateTimeoutMillis, hfuzz, Bool.not_true, Bool.false_eq_true, if_false]
    exact if_neg hsmall
  rw [hval, toNat_add_ofInt hlow hhigh ha, abs_le]
  omega

theorem backoff_bounds {c₀ c : DhcpClient} (h₀ : c₀.Initialised) {tr : List Event}
    (run : clientMachine.Run (fun _ _ => True) c₀ tr c) :
    (c.mState.Retrying → c.mNextTimeout ∈ backoffTimeouts ∧ c.mFuzzNextTimeout = true ∧
      (c.polling ≠ none → ∀ a : Adjustment,
        ¬ (a.val < 0 ∧ UInt32.ofInt (-a.val) > c.mNextTimeout) ∧
        |((c.calculateTimeoutMillis a).toNat : ℤ) - c.mNextTimeout.toNat| ≤ 1000)) ∧
    (c.mState = .requesting ∨ c.mState = .rebinding → requestsInStay tr ≤ 5) := by
  have hinv := backoffInv_run h₀ run
  constructor
  · intro hs
    obtain ⟨hmem, hfuzz⟩ := hinv.timeout hs
    exact ⟨hmem, hfuzz, fun hp a =>
      DhcpClient.calculateTimeoutMillis_near hmem (hinv.polled hs hp) hfuzz a⟩
  · intro hs
    rw [hinv.count hs]
    exact attempts_le (hinv.timeout (retrying_of_requesting_or_rebinding hs)).1

theorem backoff_bounds_discovery : ∃ c : DhcpClient, c.mState = .selecting ∧
    c.polling = some 4000 ∧ c.mNextTimeout ∈ backoffTimeouts ∧ c.mFuzzNextTimeout = true := by
  obtain ⟨tr, c, run, hs, hp⟩ := run_of_exec clientMachine (fun _ _ => True)
    (DhcpClient.fresh #v[2, 0, 0, 0, 0, 1]) [DhcpClient.evaluateAt 0, DhcpClient.evaluateAt 0]
    (fun c _ => c.mState = .selecting ∧ c.polling = some 4000) (by decide +kernel)
  obtain ⟨hmem, hfuzz, -⟩ := (backoff_bounds (DhcpClient.fresh_initialised _) run).1 (.inl hs)
  exact ⟨c, hs, hp, hmem, hfuzz⟩

end Rpi3Device.Dhcp
