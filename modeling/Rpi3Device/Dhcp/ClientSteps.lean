import Rpi3Device.Dhcp.Client

/-!
# Everything a step of the client can do

`Transition` lists the steps of the client with their guards, results and
events; `step_transition` shows the list complete. The properties of runs are
derived from it without unfolding the state machine again. What `configureDhcp`
leaves alone and what it does to the interface is stated once, for all its
exits.
-/

namespace Rpi3Device.Dhcp
open TransitionSystem

def Message.dhcpInfo (msg : Message) : DhcpInfo :=
  { msg.readOptions.2 with offeredAddress := msg.yiaddr }

namespace DhcpClient

def requestsSince (c d : DhcpClient) : List (KernelRequest × Bool) :=
  d.mInterface.ioctls.drop c.mInterface.ioctls.length ++
    d.mRouter.netlinkMessages.drop c.mRouter.netlinkMessages.length

structure Reconfigured (c d : DhcpClient) : Prop where
  lastMsg : d.mLastMsg = c.mLastMsg
  state : d.mState = c.mState
  nextTimeout : d.mNextTimeout = c.mNextTimeout
  fuzz : d.mFuzzNextTimeout = c.mFuzzNextTimeout
  requestAddress : d.mRequestAddress = c.mRequestAddress
  serverAddress : d.mServerAddress = c.mServerAddress
  transactionId : d.sNextTransactionId = c.sNextTransactionId
  mac : d.mInterface.mMacAddress = c.mInterface.mMacAddress

theorem setInterfaceUp_frame (f : Interface) (up : Bool) (io : IoOutcome) :
    (f.setInterfaceUp up io).2.mMacAddress = f.mMacAddress ∧
      (f.setInterfaceUp up io).2.address = f.address := by
  unfold Interface.setInterfaceUp
  split_ifs <;> exact ⟨rfl, rfl⟩

theorem setInterfaceUp_of_true {f : Interface} {up : Bool} {io : IoOutcome}
    (h : (f.setInterfaceUp up io).1 = true) : (f.setInterfaceUp up io).2.isUp = up := by
  unfold Interface.setInterfaceUp at h ⊢
  split_ifs at h ⊢ with _ hup
  · exact hup
  · rfl

theorem setInterfaceUp_succeeds (f : Interface) (up : Bool) {io : IoOutcome}
    (hget : io.getFlags = true) (hset : io.setFlags = true) :
    (f.setInterfaceUp up io).1 = true := by
  simp only [Interface.setInterfaceUp, hget, hset]
  split_ifs <;> simp_all

theorem setInterfaceUp_isUp_of_up {f : Interface} (hf : f.isUp = true) (io : IoOutcome) :
    (f.setInterfaceUp true io).2.isUp = true := by
  unfold Interface.setInterfaceUp
  split_ifs <;> simp_all

def raised (f : Interface) (info : DhcpInfo) (io : IoOutcome) : Interface :=
  if info.mtu ≠ 0 then ((f.bringUp io).2.setMtu info.mtu io).2 else (f.bringUp io).2

theorem raised_frame (f : Interface) (info : DhcpInfo) (io : IoOutcome) :
    (raised f info io).mMacAddress = f.mMacAddress ∧ (raised f info io).address = f.address ∧
      (raised f info io).isUp = (f.bringUp io).2.isUp := by
  obtain ⟨hmac, haddr⟩ := setInterfaceUp_frame f true io
  unfold raised
  split_ifs
  · exact ⟨hmac, haddr, rfl⟩
  · exact ⟨hmac, haddr, rfl⟩

theorem configureInterface_eq (f : Interface) (info : DhcpInfo) (io : IoOutcome) :
    configureInterface f info io =
      if (f.bringUp io).1 = false then (false, (f.bringUp io).2)
      else
        let asked := (raised f info io).ioctl (.setAddress info.offeredAddress) io.setAddress
        if io.setAddress = false then (false, asked)
        else (io.setSubnetMask, { asked with address := info.offeredAddress }.ioctl
          (.setSubnetMask info.subnetMask) io.setSubnetMask) := by
  cases hup : (f.bringUp io).1 with
  | false => simp [configureInterface, hup]
  | true =>
    cases ha : io.setAddress with
    | false => simp [configureInterface, hup, raised, Interface.setAddress, ha]
    | true =>
      simp [configureInterface, hup, raised, Interface.setAddress, ha, Interface.setSubnetMask]

theorem configureInterface_cases (f : Interface) (info : DhcpInfo) (io : IoOutcome) :
    ((f.bringUp io).1 = false ∧ configureInterface f info io = (false, (f.bringUp io).2)) ∨
    ∃ g, g.mMacAddress = f.mMacAddress ∧ g.isUp = true ∧ (f.bringUp io).1 = true ∧
      ((io.setAddress = false ∧ g.address = f.address ∧
        configureInterface f info io = (false, g)) ∨
      (io.setAddress = true ∧ io.setSubnetMask = false ∧ g.address = info.offeredAddress ∧
        configureInterface f info io = (false, g)) ∨
      (io.setAddress = true ∧ io.setSubnetMask = true ∧ g.address = info.offeredAddress ∧
        configureInterface f info io = (true, g))) := by
  have heq := configureInterface_eq f info io
  cases hup : (f.bringUp io).1 with
  | false =>
    rw [hup, if_pos rfl] at heq
    exact .inl ⟨rfl, heq⟩
  | true =>
    obtain ⟨hmac, haddr, hisUp⟩ := raised_frame f info io
    replace hisUp := hisUp.trans (setInterfaceUp_of_true hup)
    rw [hup, if_neg (by decide)] at heq
    cases ha : io.setAddress with
    | false =>
      rw [ha] at heq
      let asked := (raised f info io).ioctl (.setAddress info.offeredAddress) false
      exact .inr ⟨asked, hmac, hisUp, rfl, .inl ⟨rfl, haddr, heq⟩⟩
    | true =>
      let asked := (raised f info io).ioctl (.setAddress info.offeredAddress) true
      let masked := { asked with address := info.offeredAddress }.ioctl
        (.setSubnetMask info.subnetMask) io.setSubnetMask
      rw [ha, if_neg (by decide)] at heq
      cases hm : io.setSubnetMask with
      | false => exact .inr ⟨masked, hmac, hisUp, rfl, .inr (.inl ⟨rfl, rfl, rfl, hm ▸ heq⟩)⟩
      | true => exact .inr ⟨masked, hmac, hisUp, rfl, .inr (.inr ⟨rfl, rfl, rfl, hm ▸ heq⟩)⟩

/-- The messages and answers of the kernel on which `configureDhcp` gets as far as
setting the address. -/
structure SetsAddress (msg : Message) (io : IoOutcome) (f : Interface) : Prop where
  size : 4 ≤ msg.optionsSize
  complete : msg.readOptions.1 = true
  leaseTime : msg.readOptions.2.leaseTime ≠ 0
  bringUp : (f.bringUp io).1 = true
  setAddress : io.setAddress = true

structure Grants (msg : Message) (io : IoOutcome) (f : Interface) : Prop
    extends SetsAddress msg io f where
  setSubnetMask : io.setSubnetMask = true
  setDefaultGateway : io.setDefaultGateway = true

instance (msg : Message) (io : IoOutcome) (f : Interface) : Decidable (SetsAddress msg io f) :=
  decidable_of_iff (4 ≤ msg.optionsSize ∧ msg.readOptions.1 = true ∧
      msg.readOptions.2.leaseTime ≠ 0 ∧ (f.bringUp io).1 = true ∧ io.setAddress = true)
    ⟨fun ⟨h₁, h₂, h₃, h₄, h₅⟩ => ⟨h₁, h₂, h₃, h₄, h₅⟩,
      fun ⟨h₁, h₂, h₃, h₄, h₅⟩ => ⟨h₁, h₂, h₃, h₄, h₅⟩⟩

instance (msg : Message) (io : IoOutcome) (f : Interface) : Decidable (Grants msg io f) :=
  decidable_of_iff (SetsAddress msg io f ∧ io.setSubnetMask = true ∧ io.setDefaultGateway = true)
    ⟨fun ⟨h₁, h₂, h₃⟩ => ⟨h₁, h₂, h₃⟩, fun ⟨h₁, h₂, h₃⟩ => ⟨h₁, h₂, h₃⟩⟩

section Configure
variable (c : DhcpClient) (msg : Message) (io : IoOutcome) (t1Now t2Now : UInt64)

theorem applyDhcpInfo_interface : (c.applyDhcpInfo io t1Now t2Now).2.mInterface =
    (configureInterface c.mInterface c.mDhcpInfo io).2 := by
  simp only [applyDhcpInfo]
  split_ifs <;> rfl

theorem applyDhcpInfo_fst : (c.applyDhcpInfo io t1Now t2Now).1 =
    ((configureInterface c.mInterface c.mDhcpInfo io).1 && io.setDefaultGateway) := by
  cases hr : (configureInterface c.mInterface c.mDhcpInfo io).1 <;>
    cases hg : io.setDefaultGateway <;>
    simp [applyDhcpInfo, hr, Router.setDefaultGateway, hg]

theorem applyDhcpInfo_frame : Reconfigured c (c.applyDhcpInfo io t1Now t2Now).2 := by
  have hmac : (c.applyDhcpInfo io t1Now t2Now).2.mInterface.mMacAddress =
      c.mInterface.mMacAddress := by
    rw [applyDhcpInfo_interface]
    rcases configureInterface_cases c.mInterface c.mDhcpInfo io with
        ⟨-, h⟩ | ⟨g, hg, -, -, ⟨-, -, h⟩ | ⟨-, -, -, h⟩ | ⟨-, -, -, h⟩⟩
    · rw [h]
      exact (setInterfaceUp_frame c.mInterface true io).1
    · rw [h, hg]
    · rw [h, hg]
    · rw [h, hg]
  refine ⟨?_, ?_, ?_, ?_, ?_, ?_, ?_, hmac⟩ <;> simp only [applyDhcpInfo] <;> split_ifs <;> rfl

def withOptions : DhcpClient := { c with mDhcpInfo := msg.dhcpInfo }

theorem configureDhcp_frame : Reconfigured c (c.configureDhcp msg io t1Now t2Now).2 := by
  simp only [configureDhcp]
  split_ifs
  · exact ⟨rfl, rfl, rfl, rfl, rfl, rfl, rfl, rfl⟩
  · exact ⟨rfl, rfl, rfl, rfl, rfl, rfl, rfl, rfl⟩
  · exact ⟨rfl, rfl, rfl, rfl, rfl, rfl, rfl, rfl⟩
  · obtain ⟨h₁, h₂, h₃, h₄, h₅, h₆, h₇, h₈⟩ :=
      applyDhcpInfo_frame (c.withOptions msg) io t1Now t2Now
    exact ⟨h₁, h₂, h₃, h₄, h₅, h₆, h₇, h₈⟩

theorem configureDhcp_interface_cases :
    ((c.configureDhcp msg io t1Now t2Now).1 = false ∧
      (c.configureDhcp msg io t1Now t2Now).2.mInterface = c.mInterface ∧
      ¬ SetsAddress msg io c.mInterface) ∨
    (4 ≤ msg.optionsSize ∧ msg.readOptions.1 = true ∧ msg.readOptions.2.leaseTime ≠ 0 ∧
      c.configureDhcp msg io t1Now t2Now = (c.withOptions msg).applyDhcpInfo io t1Now t2Now) := by
  simp only [configureDhcp]
  split_ifs with hsize hopts hlease
  · exact .inl ⟨rfl, rfl, fun h => absurd h.size (by omega)⟩
  · exact .inl ⟨rfl, rfl, fun h => by simp [h.complete] at hopts⟩
  · exact .inl ⟨rfl, rfl, fun h => h.leaseTime hlease⟩
  · exact .inr ⟨by omega, by simpa using hopts, hlease, rfl⟩

theorem configureDhcp_eq_true_iff :
    (c.configureDhcp msg io t1Now t2Now).1 = true ↔ Grants msg io c.mInterface := by
  rcases c.configureDhcp_interface_cases msg io t1Now t2Now with
      ⟨hf, -, hn⟩ | ⟨hsize, hopts, hlease, heq⟩
  · rw [hf]
    exact ⟨fun h => by simp at h, fun h => absurd h.toSetsAddress hn⟩
  · have hi : (c.withOptions msg).mInterface = c.mInterface := rfl
    rw [heq, applyDhcpInfo_fst, hi]
    rcases configureInterface_cases c.mInterface (c.withOptions msg).mDhcpInfo io with
        ⟨hup, h⟩ | ⟨g, -, -, hup, ⟨ha, -, h⟩ | ⟨-, hm, -, h⟩ | ⟨ha, hm, -, h⟩⟩
    · exact ⟨fun hr => by simp [h] at hr, fun hr => by simp [hr.bringUp] at hup⟩
    · exact ⟨fun hr => by simp [h] at hr, fun hr => by simp [hr.setAddress] at ha⟩
    · exact ⟨fun hr => by simp [h] at hr,
        fun hr => by simp [hr.setSubnetMask] at hm⟩
    · exact ⟨fun hr => ⟨⟨hsize, hopts, hlease, hup, ha⟩, hm, by simpa [h] using hr⟩,
        fun hr => by simp [h, hr.setDefaultGateway]⟩

theorem configureDhcp_address_of_sets {msg : Message} {io : IoOutcome}
    (hset : SetsAddress msg io c.mInterface) :
    (c.configureDhcp msg io t1Now t2Now).2.mInterface.address = msg.yiaddr := by
  rcases c.configureDhcp_interface_cases msg io t1Now t2Now with ⟨-, -, hn⟩ | ⟨-, -, -, heq⟩
  · exact absurd hset hn
  · rw [heq, applyDhcpInfo_interface]
    rcases configureInterface_cases c.mInterface (c.withOptions msg).mDhcpInfo io with
        ⟨hup, -⟩ | ⟨g, -, -, -, ⟨ha, -⟩ | ⟨-, -, hg, h⟩ | ⟨-, -, hg, h⟩⟩
    · simp [hset.bringUp] at hup
    · simp [hset.setAddress] at ha
    · exact (congrArg (fun r => r.2.address) h).trans hg
    · exact (congrArg (fun r => r.2.address) h).trans hg

theorem configureDhcp_address_of_not {msg : Message} {io : IoOutcome}
    (hset : ¬ SetsAddress msg io c.mInterface) :
    (c.configureDhcp msg io t1Now t2Now).2.mInterface.address = c.mInterface.address := by
  rcases c.configureDhcp_interface_cases msg io t1Now t2Now with
      ⟨-, hi, -⟩ | ⟨hsize, hopts, hlease, heq⟩
  · rw [hi]
  · rw [heq, applyDhcpInfo_interface]
    rcases configureInterface_cases c.mInterface (c.withOptions msg).mDhcpInfo io with
        ⟨-, h⟩ | ⟨g, -, -, hup, ⟨-, hg, h⟩ | ⟨ha, -⟩ | ⟨ha, -⟩⟩
    · exact (congrArg (fun r => r.2.address) h).trans (setInterfaceUp_frame c.mInterface true io).2
    · exact (congrArg (fun r => r.2.address) h).trans hg
    · exact absurd ⟨hsize, hopts, hlease, hup, ha⟩ hset
    · exact absurd ⟨hsize, hopts, hlease, hup, ha⟩ hset

theorem configureDhcp_isUp (hup : c.mInterface.isUp = true) :
    (c.configureDhcp msg io t1Now t2Now).2.mInterface.isUp = true := by
  rcases c.configureDhcp_interface_cases msg io t1Now t2Now with ⟨-, hi, -⟩ | ⟨-, -, -, heq⟩
  · rw [hi, hup]
  · rw [heq, applyDhcpInfo_interface]
    rcases configureInterface_cases c.mInterface (c.withOptions msg).mDhcpInfo io with
        ⟨-, h⟩ | ⟨g, -, hg, -, ⟨-, -, h⟩ | ⟨-, -, -, h⟩ | ⟨-, -, -, h⟩⟩
    · exact (congrArg (fun r => r.2.isUp) h).trans (setInterfaceUp_isUp_of_up hup io)
    · exact (congrArg (fun r => r.2.isUp) h).trans hg
    · exact (congrArg (fun r => r.2.isUp) h).trans hg
    · exact (congrArg (fun r => r.2.isUp) h).trans hg

end Configure

def enter (c : DhcpClient) (state : State) : DhcpClient :=
  { c with
    mState := state, mNextTimeout := kNoTimeout, mFuzzNextTimeout := true, polling := none }

def transmit (c : DhcpClient) (message : Message) (adjustment : Adjustment) : DhcpClient :=
  (c.send message).1.increaseTimeout.beginWait adjustment

def requestTo (c : DhcpClient) (destination : UInt32) : Message :=
  Message.request c.sNextTransactionId c.mInterface.mMacAddress c.mRequestAddress destination

inductive Requests (c : DhcpClient) (now : UInt64) : UInt32 → Prop where
  | requesting : c.mState = .requesting → c.mNextTimeout < kMaxTimeout →
      Requests c now c.mServerAddress
  | renewing : c.mState = .renewing → c.mT2.expired now = false → Requests c now c.mServerAddress
  | rebinding : c.mState = .rebinding → c.mNextTimeout < kMaxTimeout →
      Requests c now inaddrBroadcast

theorem awaitsAck_ne_bound {s : State} (h : s.AwaitsAck) : s ≠ .bound := by
  rcases h with rfl | rfl | rfl <;> decide

theorem Requests.awaitsAck {c : DhcpClient} {now : UInt64} {d : UInt32} (h : Requests c now d) :
    c.mState.AwaitsAck := by
  cases h with
  | requesting hs => exact .inl hs
  | renewing hs => exact .inr (.inl hs)
  | rebinding hs => exact .inr (.inr hs)

/-- The message that a client in one of the three awaiting states accepts, with
the kernel's answers while it is handled. -/
def answer (c : DhcpClient) : ClientInput → Option (Message × IoOutcome)
  | .poll _ _ (.readable packet io _ _) =>
    if c.polling ≠ none ∧ c.mState.AwaitsAck then
      (c.receiveDhcpMessage packet).map fun msg => (msg, io)
    else none
  | _ => none

theorem answer_eq {c : DhcpClient} (hp : c.polling ≠ none) (hs : c.mState.AwaitsAck)
    {packet : Option (List UInt8)} {msg : Message} (hr : c.receiveDhcpMessage packet = some msg)
    (io : IoOutcome) (t₁ t₂ n₁ n₂ : UInt64) :
    c.answer (.poll t₁ t₂ (.readable packet io n₁ n₂)) = some (msg, io) := by
  simp [answer, hp, hs, hr]

theorem input_of_answer {c : DhcpClient} {input : ClientInput} {r : Message × IoOutcome}
    (h : c.answer input = some r) : ∃ t₁ t₂ packet n₁ n₂,
      input = .poll t₁ t₂ (.readable packet r.2 n₁ n₂) ∧
      c.receiveDhcpMessage packet = some r.1 := by
  cases input with
  | evaluate => simp [answer] at h
  | poll t₁ t₂ result =>
    cases result with
    | timeout => simp [answer] at h
    | failed => simp [answer] at h
    | readable packet io n₁ n₂ =>
      simp only [answer] at h
      split_ifs at h
      obtain ⟨msg, hmsg, rfl⟩ := Option.map_eq_some_iff.mp h
      exact ⟨t₁, t₂, packet, n₁, n₂, rfl, hmsg⟩

inductive Transition (c : DhcpClient) : ClientInput → DhcpClient → List Event → Prop where
  | start {n₁ n₂ : UInt64} {a : Adjustment} (hp : c.polling = none) (hs : c.mState = .init) :
      Transition c (.evaluate n₁ n₂ a) (c.enter .selecting) [.moved .selecting]
  | discover {n₁ n₂ : UInt64} {a : Adjustment} (hp : c.polling = none)
      (hs : c.mState = .selecting) {m : Message}
      (hm : m = Message.discover c.sNextTransactionId c.mInterface.mMacAddress) :
      Transition c (.evaluate n₁ n₂ a) (c.transmit m a) [.sent c.mState c.mInterface.isUp m]
  | request {n₁ n₂ : UInt64} {a : Adjustment} (hp : c.polling = none) {destination : UInt32}
      (hs : Requests c n₁ destination) {m : Message} (hm : m = c.requestTo destination) :
      Transition c (.evaluate n₁ n₂ a) (c.transmit m a) [.sent c.mState c.mInterface.isUp m]
  | giveUp {n₁ n₂ : UInt64} {a : Adjustment} (hp : c.polling = none)
      (hs : c.mState = .requesting ∨ c.mState = .rebinding) (ht : kMaxTimeout ≤ c.mNextTimeout) :
      Transition c (.evaluate n₁ n₂ a) (c.enter .init) [.moved .init]
  | renew {n₁ n₂ : UInt64} {a : Adjustment} (hp : c.polling = none) (hs : c.mState = .bound)
      (ht : c.mT1.expired n₁ = true) :
      Transition c (.evaluate n₁ n₂ a) (c.enter .renewing) [.moved .renewing]
  | keepLease {n₁ n₂ : UInt64} {a : Adjustment} (hp : c.polling = none) (hs : c.mState = .bound)
      (ht : c.mT1.expired n₁ = false) (timeout : UInt32) (polling : Option UInt32) :
      Transition c (.evaluate n₁ n₂ a)
        { c with mNextTimeout := timeout, mFuzzNextTimeout := false, polling := polling } []
  | rebind {n₁ n₂ : UInt64} {a : Adjustment} (hp : c.polling = none) (hs : c.mState = .renewing)
      (ht : c.mT2.expired n₁ = true) :
      Transition c (.evaluate n₁ n₂ a) (c.enter .rebinding) [.moved .rebinding]
  | wait {t₁ t₂ : UInt64} {r : PollResult} (hp : c.polling ≠ none)
      (hn : ∀ a ∈ c.answer (.poll t₁ t₂ r), a.1.type ≠ dhcpAck ∧ a.1.type ≠ dhcpNak)
      (polling : Option UInt32) :
      Transition c (.poll t₁ t₂ r) { c with polling := polling } []
  | offer {t₁ t₂ n₁ n₂ : UInt64} {packet : Option (List UInt8)} {io : IoOutcome} {msg : Message}
      (hp : c.polling ≠ none) (hs : c.mState = .selecting)
      (hr : c.receiveDhcpMessage packet = some msg) (ht : msg.type = dhcpOffer) :
      Transition c (.poll t₁ t₂ (.readable packet io n₁ n₂))
        ({ c with mServerAddress := msg.serverId, mRequestAddress := msg.yiaddr }.enter
          .requesting) [.moved .requesting]
  | ack {t₁ t₂ n₁ n₂ : UInt64} {packet : Option (List UInt8)} {io : IoOutcome} {msg : Message}
      (hp : c.polling ≠ none) (hs : c.mState.AwaitsAck)
      (hr : c.receiveDhcpMessage packet = some msg) (ht : msg.type = dhcpAck)
      (hg : Grants msg io c.mInterface) :
      Transition c (.poll t₁ t₂ (.readable packet io n₁ n₂))
        ((c.configureDhcp msg io n₁ n₂).2.enter .bound) [.configured msg, .moved .bound]
  | ackFailed {t₁ t₂ n₁ n₂ : UInt64} {packet : Option (List UInt8)} {io : IoOutcome}
      {msg : Message} (hp : c.polling ≠ none) (hs : c.mState.AwaitsAck)
      (hr : c.receiveDhcpMessage packet = some msg) (ht : msg.type = dhcpAck)
      (hg : ¬ Grants msg io c.mInterface) (polling : Option UInt32) :
      Transition c (.poll t₁ t₂ (.readable packet io n₁ n₂))
        { (c.configureDhcp msg io n₁ n₂).2 with polling := polling } []
  | nak {t₁ t₂ n₁ n₂ : UInt64} {packet : Option (List UInt8)} {io : IoOutcome} {msg : Message}
      (hp : c.polling ≠ none) (hs : c.mState.AwaitsAck)
      (hr : c.receiveDhcpMessage packet = some msg) (ht : msg.type = dhcpNak) :
      Transition c (.poll t₁ t₂ (.readable packet io n₁ n₂)) ((c.haltNetwork io).enter .init)
        [.refused msg, .moved .init]

theorem setNextState_beginWait {c : DhcpClient} (hp : c.polling = none) (state : State)
    (a : Adjustment) : (c.setNextState state).1.beginWait a = c.enter state := by
  simp [setNextState, beginWait, enter, hp]

theorem evaluate_transition {c : DhcpClient} (hp : c.polling = none) (n₁ n₂ : UInt64)
    (a : Adjustment) : Transition c (.evaluate n₁ n₂ a)
      ((c.evaluateState n₁ n₂).1.beginWait a) (c.evaluateState n₁ n₂).2 := by
  cases hs : c.mState with
  | init =>
    simp only [evaluateState, hs, setNextState_beginWait hp]
    exact .start hp hs
  | selecting =>
    simp only [evaluateState, hs]
    exact .discover hp hs rfl
  | requesting =>
    simp only [evaluateState, hs]
    split_ifs with ht
    · rw [setNextState_beginWait hp]
      exact .giveUp hp (.inl hs) ht
    · exact .request hp (.requesting hs (UInt32.not_le.mp ht)) rfl
  | bound =>
    simp only [evaluateState, hs]
    split_ifs with ht
    · rw [setNextState_beginWait hp]
      exact .renew hp hs ht
    · rw [← hs]
      exact .keepLease hp hs (by simpa using ht) _ _
  | renewing =>
    simp only [evaluateState, hs]
    split_ifs with ht
    · rw [setNextState_beginWait hp]
      exact .rebind hp hs ht
    · exact .request hp (.renewing hs (by simpa using ht)) rfl
  | rebinding =>
    simp only [evaluateState, hs]
    split_ifs with ht
    · rw [setNextState_beginWait hp]
      exact .giveUp hp (.inr hs) ht
    · exact .request hp (.rebinding hs (UInt32.not_le.mp ht)) rfl

theorem handleMessage_transition {c : DhcpClient} (hp : c.polling ≠ none)
    {packet : Option (List UInt8)} {msg : Message} (hr : c.receiveDhcpMessage packet = some msg)
    (io : IoOutcome) (timeout : UInt32) (t₁ t₂ n₁ n₂ : UInt64) :
    Transition c (.poll t₁ t₂ (.readable packet io n₁ n₂))
      (c.handleMessage msg io n₁ n₂ fun c => c.waitAgain timeout t₁ t₂).1
      (c.handleMessage msg io n₁ n₂ fun c => c.waitAgain timeout t₁ t₂).2 := by
  simp only [handleMessage]
  split_ifs with hsel hoff haw hack hok hnak
  · exact .offer hp hsel hr hoff
  · exact .wait hp (by simp [answer, State.AwaitsAck, hsel]) _
  · exact .ack hp haw hr hack ((c.configureDhcp_eq_true_iff msg io n₁ n₂).mp hok)
  · exact .ackFailed hp haw hr hack
      (fun hg => hok ((c.configureDhcp_eq_true_iff msg io n₁ n₂).mpr hg)) _
  · exact .nak hp haw hr hnak
  · exact .wait hp (by simp [answer_eq hp haw hr, hack, hnak]) _
  · exact .wait hp (by simp [answer, haw]) _

theorem step_transition {c c' : DhcpClient} {input : ClientInput} {es : List Event}
    (h : c.step input = some (c', es)) : Transition c input c' es := by
  cases input with
  | evaluate n₁ n₂ a =>
    cases hp : c.polling with
    | none =>
      simp only [step, hp, Option.some.injEq, Prod.mk.injEq] at h
      obtain ⟨rfl, rfl⟩ := h
      exact evaluate_transition hp n₁ n₂ a
    | some t => simp [step, hp] at h
  | poll t₁ t₂ r =>
    cases hp : c.polling with
    | none => simp [step, hp] at h
    | some t =>
      have hne : c.polling ≠ none := by simp [hp]
      simp only [step, hp, Option.some.injEq] at h
      cases r with
      | timeout =>
        simp only [pollRound, leaveWait, Prod.mk.injEq] at h
        obtain ⟨rfl, rfl⟩ := h
        exact .wait hne (by simp [answer]) none
      | failed =>
        simp only [pollRound, Prod.mk.injEq] at h
        obtain ⟨rfl, rfl⟩ := h
        exact .wait hne (by simp [answer]) _
      | readable packet io n₁ n₂ =>
        simp only [pollRound] at h
        cases hr : c.receiveDhcpMessage packet with
        | none =>
          simp only [hr, Prod.mk.injEq] at h
          obtain ⟨rfl, rfl⟩ := h
          exact .wait hne (by simp [answer, hr]) _
        | some msg =>
          simp only [hr] at h
          have ht := handleMessage_transition hne hr io t t₁ t₂ n₁ n₂
          rw [h] at ht
          exact ht

/-- A client object after construction and a successful `init`. -/
def Initialised (c₀ : DhcpClient) : Prop :=
  ∃ m name index mac io, (construct m).init name index mac io true = (true, c₀)

structure Started (c : DhcpClient) : Prop where
  state : c.mState = .init
  polling : c.polling = none
  transactionId : c.sNextTransactionId = 1
  isUp : c.mInterface.isUp = true
  address : c.mInterface.address = 0

theorem interface_init_of_true {f g : Interface} {name : String} {index : Option UInt32}
    {mac : Option MacAddress} {io : IoOutcome} (h : f.init name index mac io = (true, g)) :
    g.isUp = true ∧ g.address = 0 := by
  cases index with
  | none => simp [Interface.init] at h
  | some i =>
    cases mac with
    | none => simp [Interface.init] at h
    | some m =>
      simp only [Interface.init] at h
      split_ifs at h with hup
      · simp at h
      · have hisUp := setInterfaceUp_of_true (by simpa [Interface.bringUp] using hup)
        cases ha : io.setAddress with
        | false => simp [Interface.setAddress, ha] at h
        | true =>
          simp only [Interface.setAddress, ha, if_true, Prod.mk.injEq, true_and] at h
          subst h
          exact ⟨hisUp, rfl⟩

theorem Initialised.started {c₀ : DhcpClient} (h : c₀.Initialised) : c₀.Started := by
  obtain ⟨m, name, index, mac, io, h⟩ := h
  simp only [init] at h
  split_ifs at h with hres
  · simp at h
  · have hinit : (construct m).mInterface.init name index mac io = (true, _) :=
      Prod.ext (by simpa using hres) rfl
    obtain ⟨hup, haddr⟩ := interface_init_of_true hinit
    simp only [Prod.mk.injEq, true_and] at h
    subst h
    exact ⟨rfl, rfl, rfl, hup, haddr⟩

def allSucceed : IoOutcome := ⟨true, true, true, true, true, true⟩

def fresh (mac : MacAddress) : DhcpClient :=
  ((construct ⟨DhcpInfo.zero, ⟨[]⟩, ⟨"", 0, #v[0, 0, 0, 0, 0, 0], false, 0, []⟩,
    Message.empty, ⟨0⟩, ⟨0⟩, .init, 0, false, 0, 0, fun _ => "", 0, none⟩).init "eth0" (some 2)
    (some mac) allSucceed true).2

theorem fresh_initialised (mac : MacAddress) : (fresh mac).Initialised :=
  ⟨_, _, _, _, _, Prod.ext rfl rfl⟩

def evaluateAt (now : UInt64) : ClientInput :=
  .evaluate now now ⟨0, by decide⟩

def arrival (message : Message) (io : IoOutcome) : ClientInput :=
  .poll 0 0 (.readable (some ([0x45, 0, 0, 0, 0, 0, 0, 0, 64, 17, 0, 0, 0, 0, 0, 0, 0, 0, 0, 0,
    0, 67, 0, 68, 0, 0, 0, 0] ++ message.wire)) io 0 0)

def toRequest (mac : MacAddress) : List ClientInput :=
  [evaluateAt 0, evaluateAt 0,
    arrival (Message.offer 1 (Message.discover 1 mac) 0x0100000a 0x0500000a 0x00ffffff 0x0100000a
      []) allSucceed,
    evaluateAt 0]

def toBound (mac : MacAddress) : List ClientInput :=
  toRequest mac ++
    [arrival (Message.ack 2 (Message.request 2 mac 0x0500000a 0x0100000a) 0x0100000a 0x0500000a
      0x00ffffff 0x0100000a []) allSucceed]

end DhcpClient
end Rpi3Device.Dhcp
