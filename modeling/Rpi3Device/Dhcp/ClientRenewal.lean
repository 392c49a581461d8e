import Rpi3Device.Dhcp.ClientSteps
import Rpi3Device.Dhcp.MessageFormat

/-!
# Requests for a lease that is held

A client that renews or rebinds asks for the address and the server of the offer
it took up, while the lease in force is that of the last acknowledgement. The
two agree as long as every acknowledgement that is configured grants the
requested address in the name of the requested server.
-/

namespace Rpi3Device.Dhcp
open TransitionSystem Machine

def lastGrant (tr : List Event) : Option Message :=
  tr.foldl (fun last e => match e with
    | .configured ack => some ack
    | _ => last) none

theorem lastGrant_snoc (tr : List Event) (e : Event) : lastGrant (tr ++ [e]) =
    match e with
    | .configured ack => some ack
    | _ => lastGrant tr := by
  simp [lastGrant]

/-- A request of a client that renews or rebinds is for the address of the lease,
and when it renews it names the server that granted it. -/
def AsksForLease (pre : List Event) : Event → Prop
  | .sent .renewing _ request => ∃ ack ∈ lastGrant pre,
      request.requestedIp = ack.yiaddr ∧ request.serverId = ack.serverId
  | .sent .rebinding _ request => ∃ ack ∈ lastGrant pre, request.requestedIp = ack.yiaddr
  | _ => True

instance (pre : List Event) : DecidablePred (AsksForLease pre)
  | .sent .renewing _ request => inferInstanceAs (Decidable (∃ ack ∈ lastGrant pre,
      request.requestedIp = ack.yiaddr ∧ request.serverId = ack.serverId))
  | .sent .rebinding _ request => inferInstanceAs (Decidable (∃ ack ∈ lastGrant pre,
      request.requestedIp = ack.yiaddr))
  | .sent .init _ _ => .isTrue trivial
  | .sent .selecting _ _ => .isTrue trivial
  | .sent .requesting _ _ => .isTrue trivial
  | .sent .bound _ _ => .isTrue trivial
  | .moved _ => .isTrue trivial
  | .configured _ => .isTrue trivial
  | .refused _ => .isTrue trivial

namespace DhcpClient

def GrantsRequested (c : DhcpClient) (input : ClientInput) : Prop :=
  ∀ r ∈ c.answer input, r.1.type = dhcpAck → Grants r.1 r.2 c.mInterface →
    r.1.yiaddr = c.mRequestAddress ∧ r.1.serverId = c.mServerAddress

instance (c : DhcpClient) : DecidablePred c.GrantsRequested := fun input =>
  inferInstanceAs (Decidable (∀ r ∈ c.answer input, r.1.type = dhcpAck →
    Grants r.1 r.2 c.mInterface → r.1.yiaddr = c.mRequestAddress ∧ r.1.serverId = c.mServerAddress))

def HoldsLease (c : DhcpClient) : Prop :=
  c.mState = .bound ∨ c.mState = .renewing ∨ c.mState = .rebinding

structure Remembers (c : DhcpClient) (ack : Message) : Prop where
  address : c.mRequestAddress = ack.yiaddr
  server : c.mServerAddress = ack.serverId

def RemembersLast (c : DhcpClient) (tr : List Event) : Prop :=
  ∃ ack, lastGrant tr = some ack ∧ c.Remembers ack

theorem RemembersLast.congr {tr tr' : List Event} {c d : DhcpClient} (h : c.RemembersLast tr)
    (htr : lastGrant tr' = lastGrant tr) (ha : d.mRequestAddress = c.mRequestAddress)
    (hs : d.mServerAddress = c.mServerAddress) : d.RemembersLast tr' := by
  obtain ⟨ack, hlast, hrem⟩ := h
  exact ⟨ack, htr.trans hlast, ha.trans hrem.address, hs.trans hrem.server⟩

structure RenewalInv (tr : List Event) (c : DhcpClient) : Prop where
  justified : Justified AsksForLease tr
  held : c.HoldsLease → c.RemembersLast tr

theorem asksForLease_of_requests {tr : List Event} {c : DhcpClient} (h : RenewalInv tr c)
    {now : UInt64} {destination : UInt32} (hs : Requests c now destination) (up : Bool) :
    AsksForLease tr (.sent c.mState up (c.requestTo destination)) := by
  cases hs with
  | requesting hq =>
    rw [hq]
    trivial
  | renewing hq =>
    obtain ⟨ack, hlast, hrem⟩ := h.held (.inr (.inl hq))
    rw [hq]
    exact ⟨ack, hlast, (request_requestedIp _ _ _ _).trans hrem.address,
      (request_serverId _ _ _ _).trans hrem.server⟩
  | rebinding hq =>
    obtain ⟨ack, hlast, hrem⟩ := h.held (.inr (.inr hq))
    rw [hq]
    exact ⟨ack, hlast, (request_requestedIp _ _ _ _).trans hrem.address⟩

theorem RenewalInv.sent {tr : List Event} {c : DhcpClient} (h : RenewalInv tr c) {up : Bool}
    {m : Message} (hj : AsksForLease tr (.sent c.mState up m)) (a : Adjustment) :
    RenewalInv (tr ++ [.sent c.mState up m]) (c.transmit m a) where
  justified := justified_snoc.mpr ⟨h.justified, hj⟩
  held hl := (h.held hl).congr (lastGrant_snoc _ _) rfl rfl

theorem RenewalInv.moved {tr : List Event} {c : DhcpClient} (h : RenewalInv tr c) {s : State}
    (hl : c.HoldsLease) : RenewalInv (tr ++ [.moved s]) (c.enter s) where
  justified := justified_snoc.mpr ⟨h.justified, trivial⟩
  held _ := (h.held hl).congr (lastGrant_snoc _ _) rfl rfl

theorem renewalInv_of_not_holdsLease {tr es : List Event} {c : DhcpClient}
    (h : Justified AsksForLease (tr ++ es)) (hl : ¬ c.HoldsLease) : RenewalInv (tr ++ es) c :=
  ⟨h, fun hl' => absurd hl' hl⟩

theorem RenewalInv.step {tr es : List Event} {c c' : DhcpClient} {input : ClientInput}
    (h : RenewalInv tr c) (hreq : c.GrantsRequested input) (ht : c.Transition input c' es) :
    RenewalInv (tr ++ es) c' := by
  cases ht with
  | start hp hs =>
    exact renewalInv_of_not_holdsLease (justified_snoc.mpr ⟨h.justified, trivial⟩)
      (by simp [HoldsLease, enter])
  | discover hp hs hm =>
    refine h.sent ?_ _
    rw [hs]
    trivial
  | request hp hs hm => exact hm ▸ h.sent (asksForLease_of_requests h hs _) _
  | giveUp hp hs ht =>
    exact renewalInv_of_not_holdsLease (justified_snoc.mpr ⟨h.justified, trivial⟩)
      (by simp [HoldsLease, enter])
  | renew hp hs ht => exact h.moved (.inl hs)
  | keepLease hp hs ht timeout polling =>
    rw [List.append_nil]
    exact ⟨h.justified, fun hl => (h.held hl).congr rfl rfl rfl⟩
  | rebind hp hs ht => exact h.moved (.inr (.inl hs))
  | wait hp hn polling =>
    rw [List.append_nil]
    exact ⟨h.justified, fun hl => (h.held hl).congr rfl rfl rfl⟩
  | offer hp hs hr ht =>
    exact renewalInv_of_not_holdsLease (justified_snoc.mpr ⟨h.justified, trivial⟩)
      (by simp [HoldsLease, enter])
  | @ack _ _ n₁ n₂ _ io msg hp hs hr ht hg =>
    have hframe := c.configureDhcp_frame msg io n₁ n₂
    obtain ⟨haddr, hserver⟩ := hreq _ (answer_eq hp hs hr _ _ _ _ _) ht hg
    rw [List.append_cons]
    refine ⟨justified_snoc.mpr ⟨justified_snoc.mpr ⟨h.justified, trivial⟩, trivial⟩,
      fun _ => ⟨msg, ?_, ?_, ?_⟩⟩
    · rw [lastGrant_snoc, lastGrant_snoc]
    · exact hframe.requestAddress.trans haddr.symm
    · exact hframe.serverAddress.trans hserver.symm
  | @ackFailed _ _ n₁ n₂ _ io msg hp hs hr ht hg polling =>
    have hframe := c.configureDhcp_frame msg io n₁ n₂
    rw [List.append_nil]
    refine ⟨h.justified, fun hl => ?_⟩
    have hheld := h.held (by simpa only [HoldsLease, hframe.state] using hl)
    exact hheld.congr rfl hframe.requestAddress hframe.serverAddress
  | nak hp hs hr ht =>
    rw [List.append_cons]
    refine renewalInv_of_not_holdsLease ?_ (by simp [HoldsLease, enter])
    exact justified_snoc.mpr ⟨justified_snoc.mpr ⟨h.justified, trivial⟩, trivial⟩

end DhcpClient

theorem renewals_ask_for_lease {c₀ c : DhcpClient} (h₀ : c₀.Initialised) {tr : List Event}
    (run : clientMachine.Run (fun c input => c.GrantsRequested input) c₀ tr c) :
    Justified AsksForLease tr := by
  have hstart : DhcpClient.RenewalInv [] c₀ :=
    ⟨justified_nil _, fun hl => by simp [DhcpClient.HoldsLease, h₀.started.state] at hl⟩
  have hinv : DhcpClient.RenewalInv tr c :=
    run.invariant hstart fun hinv hreq hs => hinv.step hreq (DhcpClient.step_transition hs)
  exact hinv.justified

def Event.isRebinding : Event → Bool
  | .sent .rebinding _ _ => true
  | _ => false

open DhcpClient in
theorem renewals_ask_for_lease_rebinding : ∃ pre e, e.isRebinding = true ∧
    AsksForLease pre e := by
  obtain ⟨tr, c, run, e, he, hreb⟩ := run_of_exec clientMachine
    (fun c input => c.GrantsRequested input) (fresh #v[2, 0, 0, 0, 0, 1])
    (toBound #v[2, 0, 0, 0, 0, 1] ++
      [evaluateAt 1000000000000, evaluateAt 1000000000000, evaluateAt 1000000000000])
    (fun _ tr => ∃ e ∈ tr.getLast?, e.isRebinding = true) (by decide +kernel)
  exact ⟨_, e, hreb, (renewals_ask_for_lease (fresh_initialised _) run).last he⟩

open DhcpClient in
/-- The server acknowledges another address than the one requested. -/
theorem rebinding_asks_for_other_address : ¬ ∀ c₀ tr c, c₀.Initialised →
    clientMachine.Run (fun _ _ => True) c₀ tr c → Justified AsksForLease tr := by
  intro h
  obtain ⟨tr, c, run, e, he, hother⟩ := run_of_exec clientMachine (fun _ _ => True)
    (fresh #v[2, 0, 0, 0, 0, 1])
    (toRequest #v[2, 0, 0, 0, 0, 1] ++
      [arrival (Message.ack 2 (Message.request 2 #v[2, 0, 0, 0, 0, 1] 0x0500000a 0x0100000a)
        0x0100000a 0x0600000a 0x00ffffff 0x0100000a []) allSucceed,
      evaluateAt 1000000000000, evaluateAt 1000000000000, evaluateAt 1000000000000])
    (fun _ tr => ∃ e ∈ tr.getLast?, ¬ AsksForLease tr.dropLast e) (by decide +kernel)
  exact hother ((h _ tr c (fresh_initialised _) run).last he)

end Rpi3Device.Dhcp
