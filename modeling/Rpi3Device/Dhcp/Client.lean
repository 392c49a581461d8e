import Rpi3Device.Dhcp.Host
import Rpi3Device.TransitionSystem

/-!
# The DHCP client

`dhcp/client/dhcpclient.cpp`. The endless loop of `run` is cut where it can be
observed: one `evaluate` input is one pass of the `switch` on the state up to
the first poll or to the early return of `waitAndReceive`, and one `poll` input
is one return of `ppoll` inside `waitAndReceive`. `polling` holds the time left
while the client is between two polls. Members that the constructor leaves
uninitialised start with arbitrary values.

Events record what the properties of runs speak about: the messages handed to
`sendMessage` with the state and the interface flag of that moment, the state
changes made by `setNextState`, the acknowledgements for which `configureDhcp`
succeeds and the refusals that halt the network.
-/

namespace Rpi3Device.Dhcp
open ByteMemory BoundedLoop TransitionSystem

def kInitialTimeout : UInt32 := 4000
def kMaxTimeout : UInt32 := 64000
def kNoTimeout : UInt32 := 0
def kTimeoutSpan : ℤ := 1000
def inaddrBroadcast : UInt32 := 0xFFFFFFFF

inductive State where
  | init
  | selecting
  | requesting
  | bound
  | renewing
  | rebinding
deriving DecidableEq

def State.AwaitsAck (s : State) : Prop := s = .requesting ∨ s = .renewing ∨ s = .rebinding

instance : DecidablePred State.AwaitsAck := fun s =>
  inferInstanceAs (Decidable (s = .requesting ∨ s = .renewing ∨ s = .rebinding))

structure DhcpInfo where
  t1 : UInt32
  t2 : UInt32
  leaseTime : UInt32
  mtu : UInt16
  dns : Vector UInt32 4
  gateway : UInt32
  subnetMask : UInt32
  serverId : UInt32
  offeredAddress : UInt32
deriving DecidableEq

inductive Event where
  | sent (state : State) (isUp : Bool) (message : Message)
  | moved (state : State)
  | configured (ack : Message)
  | refused (nak : Message)

structure DhcpClient where
  mDhcpInfo : DhcpInfo
  mRouter : Router
  mInterface : Interface
  mLastMsg : Message
  mT1 : Timer
  mT2 : Timer
  mState : State
  mNextTimeout : UInt32
  mFuzzNextTimeout : Bool
  mRequestAddress : UInt32
  mServerAddress : UInt32
  properties : String → String
  sNextTransactionId : UInt32
  /-- Milliseconds left to poll; `none` outside the loop of `waitAndReceive`. -/
  polling : Option UInt32

def Adjustment := { a : ℤ // -kTimeoutSpan ≤ a ∧ a ≤ kTimeoutSpan }

inductive PollResult where
  | timeout
  /-- Something to read: the packet (`none` if reading it fails), the kernel's
  answers, and the clock when each of the two timers is set. -/
  | readable (packet : Option (List UInt8)) (io : IoOutcome) (t1Now t2Now : UInt64)
  | failed

inductive ClientInput where
  /-- The clock when a timer is tested for expiry and when its remaining time is
  read, and the adjustment of the timeout. -/
  | evaluate (expiredNow remainingNow : UInt64) (adjustment : Adjustment)
  | poll (startedAt currentTime : UInt64) (result : PollResult)

def DhcpInfo.zero : DhcpInfo := ⟨0, 0, 0, 0, #v[0, 0, 0, 0], 0, 0, 0, 0⟩

namespace DhcpInfo

def readServerId (info : DhcpInfo) (data : Memory) (optLength : UInt8) (opt : ℕ) : DhcpInfo :=
  if optLength = 4 then { info with serverId := load32 data opt } else info

def readDnsServer (info : DhcpInfo) (data : Memory) (optLength : UInt8) (opt : ℕ) (i : Fin 4) :
    DhcpInfo :=
  if optLength.toNat ≥ 4 * (i.val + 1) then
    { info with dns := info.dns.set i (load32 data (opt + 4 * i.val)) }
  else info

def readDns (info : DhcpInfo) (data : Memory) (optLength : UInt8) (opt : ℕ) : DhcpInfo :=
  let info := info.readDnsServer data optLength opt 0
  let info := info.readDnsServer data optLength opt 1
  let info := info.readDnsServer data optLength opt 2
  info.readDnsServer data optLength opt 3

def read (info : DhcpInfo) (data : Memory) (optCode optLength : UInt8) (opt : ℕ) : DhcpInfo :=
  if optCode = optLeaseTime then
    if optLength = 4 then { info with leaseTime := ntohl (load32 data opt) } else info
  else if optCode = optT1 then
    if optLength = 4 then { info with t1 := ntohl (load32 data opt) } else info
  else if optCode = optT2 then
    if optLength = 4 then { info with t2 := ntohl (load32 data opt) } else info
  else if optCode = optSubnetMask then
    if optLength = 4 then { info with subnetMask := load32 data opt } else info
  else if optCode = optGateway then
    if optLength ≥ 4 then { info with gateway := load32 data opt } else info
  else if optCode = optMtu then
    if optLength = 2 then { info with mtu := ntohs (load16 data opt) } else info
  else if optCode = optDns then
    -- there is no `break` before the next case
    (info.readDns data optLength opt).readServerId data optLength opt
  else if optCode = optServerId then info.readServerId data optLength opt
  else info

end DhcpInfo

namespace Message

def readOptionsRound (msg : Message) (s : ℕ × DhcpInfo) : (ℕ × DhcpInfo) ⊕ (Bool × DhcpInfo) :=
  let i := s.1
  if i + 1 < msg.optionsSize then
    let optCode := msg.options i
    let optLength := msg.options (i + 1)
    if optCode = optEnd then .inr (true, s.2)
    else if optionsOffset + optLength.toNat + i ≥ msg.mSize then .inr (false, s.2)
    else .inl (i + 2 + optLength.toNat,
      s.2.read msg.dhcpData optCode optLength (optionsOffset + i + 2))
  else .inr (true, s.2)

def readOptionsFrom (msg : Message) (s : ℕ × DhcpInfo) : Bool × DhcpInfo :=
  measured msg.readOptionsRound (fun s => msg.optionsSize - s.1) (true, DhcpInfo.zero) s

def readOptions (msg : Message) : Bool × DhcpInfo := msg.readOptionsFrom (4, DhcpInfo.zero)

end Message

def addrToStr (address : UInt32) : String :=
  String.intercalate "." ((bytes32 address).map fun b => toString b.toNat)

namespace DhcpClient

def construct (m : DhcpClient) : DhcpClient :=
  { m with
    mLastMsg := Message.empty
    mT1 := ⟨0⟩
    mT2 := ⟨0⟩
    mState := .init
    mNextTimeout := kInitialTimeout
    mFuzzNextTimeout := true
    sNextTransactionId := 1
    polling := none }

def init (c : DhcpClient) (interfaceName : String) (index : Option UInt32)
    (mac : Option MacAddress) (io : IoOutcome) (socketsOpen : Bool) : Bool × DhcpClient :=
  let res := c.mInterface.init interfaceName index mac io
  let c := { c with mInterface := res.2 }
  if !res.1 then (false, c) else (socketsOpen, c)

def setNextState (c : DhcpClient) (state : State) : DhcpClient × List Event :=
  ({ c with mState := state, mNextTimeout := kNoTimeout, mFuzzNextTimeout := true },
    [.moved state])

def increasedTimeout (timeout : UInt32) : UInt32 :=
  if timeout = kNoTimeout then kInitialTimeout
  else
    let timeout := if timeout < kMaxTimeout then timeout * 2 else timeout
    if timeout > kMaxTimeout then kMaxTimeout else timeout

def increaseTimeout (c : DhcpClient) : DhcpClient :=
  { c with mNextTimeout := increasedTimeout c.mNextTimeout }

def calculateTimeoutMillis (c : DhcpClient) (adjustment : Adjustment) : UInt32 :=
  if !c.mFuzzNextTimeout then c.mNextTimeout
  else if adjustment.val < 0 ∧ UInt32.ofInt (-adjustment.val) > c.mNextTimeout then 0
  else c.mNextTimeout + UInt32.ofInt adjustment.val

def sendMessage (c : DhcpClient) (message : Message) : List Event :=
  [.sent c.mState c.mInterface.isUp message]

def send (c : DhcpClient) (message : Message) : DhcpClient × List Event :=
  let c := { c with mLastMsg := message, sNextTransactionId := c.sNextTransactionId + 1 }
  (c, c.sendMessage message)

def sendDhcpDiscover (c : DhcpClient) : DhcpClient × List Event :=
  c.send (Message.discover c.sNextTransactionId c.mInterface.mMacAddress)

def sendDhcpRequest (c : DhcpClient) (destination : UInt32) : DhcpClient × List Event :=
  c.send (Message.request c.sNextTransactionId c.mInterface.mMacAddress c.mRequestAddress
    destination)

def propName (c : DhcpClient) (key : String) : String :=
  String.ofList (("net." ++ c.mInterface.mInterfaceName ++ "." ++ key).toList.take 63)

def propertyValues (c : DhcpClient) : List (String × String) :=
  (c.propName "gw", addrToStr c.mDhcpInfo.gateway) ::
    (List.finRange 4).map fun i =>
      (c.propName ("dns" ++ toString (i.val + 1)),
        if c.mDhcpInfo.dns.get i ≠ 0 then addrToStr (c.mDhcpInfo.dns.get i) else "")

def setProperties (c : DhcpClient) : DhcpClient :=
  { c with properties :=
      c.propertyValues.foldl (fun p e => Function.update p e.1 e.2) c.properties }

/-- The requests that `configureDhcp` makes of the interface, in order. A failure
to set the MTU is not fatal. -/
def configureInterface (f : Interface) (info : DhcpInfo) (io : IoOutcome) : Bool × Interface :=
  let up := f.bringUp io
  if !up.1 then (false, up.2)
  else
    let f := if info.mtu ≠ 0 then (up.2.setMtu info.mtu io).2 else up.2
    let addr := f.setAddress info.offeredAddress io
    if !addr.1 then (false, addr.2) else addr.2.setSubnetMask info.subnetMask io

def applyDhcpInfo (c : DhcpClient) (io : IoOutcome) (t1Now t2Now : UInt64) : Bool × DhcpClient :=
  let info := c.mDhcpInfo
  let t1 := if info.t1 > 0 then info.t1 else info.leaseTime / 2
  let t2 := if info.t2 > 0 then info.t2 else info.leaseTime * 7 / 8
  let res := configureInterface c.mInterface info io
  let c := { c with
    mT1 := .expireSeconds t1Now t1.toUInt64
    mT2 := .expireSeconds t2Now t2.toUInt64
    mInterface := res.2 }
  if !res.1 then (false, c)
  else
    let gw := c.mRouter.setDefaultGateway info.gateway c.mInterface.mIndex io
    let c := { c with mRouter := gw.2 }
    if !gw.1 then (false, c) else (true, c.setProperties)

def configureDhcp (c : DhcpClient) (msg : Message) (io : IoOutcome) (t1Now t2Now : UInt64) :
    Bool × DhcpClient :=
  if msg.optionsSize < 4 then (false, c)
  else
    let opts := msg.readOptions
    if !opts.1 then (false, { c with mDhcpInfo := opts.2 })
    else
      let c := { c with mDhcpInfo := { opts.2 with offeredAddress := msg.yiaddr } }
      if c.mDhcpInfo.leaseTime = 0 then (false, c) else c.applyDhcpInfo io t1Now t2Now

def haltNetwork (c : DhcpClient) (io : IoOutcome) : DhcpClient :=
  let f := (c.mInterface.setAddress 0 io).2
  { c with mInterface := (f.bringDown io).2 }

def receiveDhcpMessage (c : DhcpClient) (packet : Option (List UInt8)) : Option Message :=
  match packet with
  | none => none
  | some bytes =>
    let r := receiveRawUdp portBootpClient bytes
    if r.1 && r.2.isValidDhcpReply opBootReply c.mLastMsg.xid then some r.2 else none

def evaluateState (c : DhcpClient) (expiredNow remainingNow : UInt64) :
    DhcpClient × List Event :=
  match c.mState with
  | .init => c.setNextState .selecting
  | .selecting =>
    let r := c.sendDhcpDiscover
    (r.1.increaseTimeout, r.2)
  | .requesting =>
    if c.mNextTimeout ≥ kMaxTimeout then c.setNextState .init
    else
      let r := c.sendDhcpRequest c.mServerAddress
      (r.1.increaseTimeout, r.2)
  | .bound =>
    if c.mT1.expired expiredNow then c.setNextState .renewing
    else
      ({ c with
        mNextTimeout := (c.mT1.remainingMillis remainingNow).toUInt32
        mFuzzNextTimeout := false }, [])
  | .renewing =>
    if c.mT2.expired expiredNow then c.setNextState .rebinding
    else
      let r := c.sendDhcpRequest c.mServerAddress
      (r.1.increaseTimeout, r.2)
  | .rebinding =>
    if c.mNextTimeout ≥ kMaxTimeout then c.setNextState .init
    else
      let r := c.sendDhcpRequest inaddrBroadcast
      (r.1.increaseTimeout, r.2)

def beginWait (c : DhcpClient) (adjustment : Adjustment) : DhcpClient :=
  { c with polling :=
      if c.mNextTimeout = kNoTimeout then c.polling
      else some (c.calculateTimeoutMillis adjustment) }

def waitAgain (c : DhcpClient) (timeout : UInt32) (startedAt currentTime : UInt64) : DhcpClient :=
  let finish := startedAt + timeout.toUInt64
  { c with polling :=
      if currentTime ≥ finish then none else some (finish - currentTime).toUInt32 }

def leaveWait (r : DhcpClient × List Event) : DhcpClient × List Event :=
  ({ r.1 with polling := none }, r.2)

/-- The `switch` of `waitAndReceive` on a received message. `again` is the rest
of the round for a message on which it does not return. -/
def handleMessage (c : DhcpClient) (msg : Message) (io : IoOutcome) (t1Now t2Now : UInt64)
    (again : DhcpClient → DhcpClient) : DhcpClient × List Event :=
  let msgType := msg.type
  if c.mState = .selecting then
    if msgType = dhcpOffer then
      let c := { c with mServerAddress := msg.serverId, mRequestAddress := msg.yiaddr }
      leaveWait (c.setNextState .requesting)
    else (again c, [])
  else if c.mState.AwaitsAck then
    if msgType = dhcpAck then
      let res := c.configureDhcp msg io t1Now t2Now
      if res.1 then
        let r := leaveWait (res.2.setNextState .bound)
        (r.1, .configured msg :: r.2)
      else (again res.2, [])
    else if msgType = dhcpNak then
      let r := leaveWait ((c.haltNetwork io).setNextState .init)
      (r.1, .refused msg :: r.2)
    else (again c, [])
  else (again c, [])

def pollRound (c : DhcpClient) (timeout : UInt32) (startedAt currentTime : UInt64) :
    PollResult → DhcpClient × List Event
  | .timeout => leaveWait (c, [])
  | .failed => (c.waitAgain timeout startedAt currentTime, [])
  | .readable packet io t1Now t2Now =>
    match c.receiveDhcpMessage packet with
    | none => (c.waitAgain timeout startedAt currentTime, [])
    | some msg => c.handleMessage msg io t1Now t2Now
        (fun c => c.waitAgain timeout startedAt currentTime)

def step (c : DhcpClient) (input : ClientInput) : Option (DhcpClient × List Event) :=
  match input, c.polling with
  | .evaluate expiredNow remainingNow adjustment, none =>
    let r := c.evaluateState expiredNow remainingNow
    some (r.1.beginWait adjustment, r.2)
  | .poll startedAt currentTime result, some timeout =>
    some (c.pollRound timeout startedAt currentTime result)
  | _, _ => none

end DhcpClient

def clientMachine : Machine DhcpClient ClientInput Event := ⟨DhcpClient.step⟩

end Rpi3Device.Dhcp
