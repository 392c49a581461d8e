import Rpi3Device.Dhcp.ClientSteps
import Rpi3Device.Dhcp.MessageFormat

/-!
# Requests and their answers at the client

A client that polls for an answer to a request has sent that request as the last
thing it did, in the state it is still in. Since a change of state sets no
timeout, no state polls before it has sent its own message. Every answer that
moves the client is therefore an answer to the request of the current stay.
-/

namespace Rpi3Device.Dhcp
open TransitionSystem Machine

structure Replies (request reply : Message) : Prop where
  type : request.type = dhcpRequest
  valid : reply.isValidDhcpMessage opBootReply = true
  xid : reply.xid = request.xid

/-- The last event is a request, sent in a state that awaits its answer, and the
message replies to it. -/
def RepliesToLast (pre : List Event) (reply : Message) : Prop :=
  ∃ older state up request, pre = older ++ [.sent state up request] ∧ state.AwaitsAck ∧
    Replies request reply

/-- What must come before an event: an answer is taken up right after the request
it replies to, and only an acknowledgement leads to `Bound`. -/
def Exchange (pre : List Event) : Event → Prop
  | .configured ack => RepliesToLast pre ack
  | .refused nak => RepliesToLast pre nak
  | .moved .bound => ∃ older ack, pre = older ++ [.configured ack]
  | _ => True

structure AwaitsReply (tr : List Event) (c : DhcpClient) : Prop where
  sent : ∃ older up, tr = older ++ [.sent c.mState up c.mLastMsg]
  type : c.mLastMsg.type = dhcpRequest
  requestedIp : c.mLastMsg.requestedIp = c.mRequestAddress

structure ExchangeInv (tr : List Event) (c : DhcpClient) : Prop where
  justified : Justified Exchange tr
  polled : c.polling ≠ none → c.mState.AwaitsAck → AwaitsReply tr c

theorem Message.isValidDhcpReply_iff (m : Message) (op : UInt8) (xid : UInt32) :
    m.isValidDhcpReply op xid = true ↔ m.isValidDhcpMessage op = true ∧ m.xid = xid := by
  simp only [isValidDhcpReply]
  split_ifs with hvalid hxid
  · simp_all
  · simp [hxid]
  · simp_all

theorem DhcpClient.receiveDhcpMessage_valid {c : DhcpClient} {packet : Option (List UInt8)}
    {msg : Message} (h : c.receiveDhcpMessage packet = some msg) :
    msg.isValidDhcpMessage opBootReply = true ∧ msg.xid = c.mLastMsg.xid := by
  cases packet with
  | none => simp [receiveDhcpMessage] at h
  | some bytes =>
    simp only [receiveDhcpMessage] at h
    split_ifs at h with hvalid
    obtain rfl := Option.some.inj h
    exact (Message.isValidDhcpReply_iff _ _ _).mp (Bool.and_eq_true_iff.mp hvalid).2

theorem AwaitsReply.repliesToLast {tr : List Event} {c : DhcpClient} (h : AwaitsReply tr c)
    (hs : c.mState.AwaitsAck) {packet : Option (List UInt8)} {msg : Message}
    (hr : c.receiveDhcpMessage packet = some msg) : RepliesToLast tr msg := by
  obtain ⟨older, up, htr⟩ := h.sent
  obtain ⟨hvalid, hxid⟩ := c.receiveDhcpMessage_valid hr
  exact ⟨older, c.mState, up, c.mLastMsg, htr, hs, h.type, hvalid, hxid⟩

theorem ExchangeInv.enter {tr : List Event} (h : Justified Exchange tr) (c : DhcpClient)
    {s : State} (hs : Exchange tr (.moved s)) : ExchangeInv (tr ++ [.moved s]) (c.enter s) where
  justified := justified_snoc.mpr ⟨h, hs⟩
  polled hp := absurd rfl hp

theorem ExchangeInv.step {tr es : List Event} {c c' : DhcpClient} {input : ClientInput}
    (h : ExchangeInv tr c) (ht : c.Transition input c' es) : ExchangeInv (tr ++ es) c' := by
  cases ht with
  | start hp hs => exact .enter h.justified c trivial
  | discover hp hs hm =>
    exact ⟨justified_snoc.mpr ⟨h.justified, trivial⟩, fun _ hs' => by
      simp [DhcpClient.transmit, DhcpClient.beginWait, DhcpClient.increaseTimeout,
        DhcpClient.send, State.AwaitsAck, hs] at hs'⟩
  | request hp hs hm =>
    subst hm
    exact ⟨justified_snoc.mpr ⟨h.justified, trivial⟩, fun _ _ =>
      ⟨⟨tr, _, rfl⟩, request_type _ _ _ _, request_requestedIp _ _ _ _⟩⟩
  | giveUp hp hs ht => exact .enter h.justified c trivial
  | renew hp hs ht => exact .enter h.justified c trivial
  | keepLease hp hs ht timeout polling =>
    rw [List.append_nil]
    exact ⟨h.justified, fun _ hs' => by simp [State.AwaitsAck, hs] at hs'⟩
  | rebind hp hs ht => exact .enter h.justified c trivial
  | wait hp hn polling =>
    rw [List.append_nil]
    exact ⟨h.justified, fun _ hs => ⟨(h.polled hp hs).1, (h.polled hp hs).2, (h.polled hp hs).3⟩⟩
  | offer hp hs hr ht => exact .enter h.justified _ trivial
  | ack hp hs hr ht hg =>
    rw [List.append_cons]
    refine .enter (justified_snoc.mpr ⟨h.justified, ?_⟩) _ ⟨tr, _, rfl⟩
    exact (h.polled hp hs).repliesToLast hs hr
  | @ackFailed _ _ n₁ n₂ _ io msg hp hs hr ht hg polling =>
    have hframe := c.configureDhcp_frame msg io n₁ n₂
    have hpolled := h.polled hp hs
    rw [List.append_nil]
    refine ⟨h.justified, fun _ _ => ⟨?_, ?_, ?_⟩⟩
    · simpa only [hframe.state, hframe.lastMsg] using hpolled.sent
    · simpa only [hframe.lastMsg] using hpolled.type
    · simpa only [hframe.lastMsg, hframe.requestAddress] using hpolled.requestedIp
  | nak hp hs hr ht =>
    rw [List.append_cons]
    refine .enter (justified_snoc.mpr ⟨h.justified, ?_⟩) _ trivial
    exact (h.polled hp hs).repliesToLast hs hr

theorem answers_match_requests {c₀ c : DhcpClient} (h₀ : c₀.Initialised) {tr : List Event}
    (run : clientMachine.Run (fun _ _ => True) c₀ tr c) :
    Justified Exchange tr ∧ (c.polling ≠ none → c.mState.AwaitsAck → AwaitsReply tr c) := by
  have hinv : ExchangeInv tr c := by
    refine run.invariant ⟨justified_nil _, fun hp => absurd h₀.started.polling hp⟩ ?_
    exact fun hinv _ hs => hinv.step (DhcpClient.step_transition hs)
  exact ⟨hinv.justified, hinv.polled⟩

theorem answers_match_requests_offer : ∃ (tr : List Event) (c : DhcpClient),
    c.mState = .requesting ∧ c.mRequestAddress = 0x0500000a ∧ AwaitsReply tr c := by
  obtain ⟨tr, c, run, hs, hp, ha⟩ := run_of_exec clientMachine (fun _ _ => True)
    (DhcpClient.fresh #v[2, 0, 0, 0, 0, 1]) (DhcpClient.toRequest #v[2, 0, 0, 0, 0, 1])
    (fun c _ => c.mState = .requesting ∧ c.polling = some 4000 ∧ c.mRequestAddress = 0x0500000a)
    (by decide +kernel)
  refine ⟨tr, c, hs, ha, ?_⟩
  exact (answers_match_requests (DhcpClient.fresh_initialised _) run).2 (by simp [hp]) (.inl hs)

end Rpi3Device.Dhcp
