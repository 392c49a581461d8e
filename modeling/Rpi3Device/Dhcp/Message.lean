import Rpi3Device.BoundedLoop
import Rpi3Device.ByteMemory

/-!
# DHCP messages

`dhcp/common/dhcp.h`, `message.h` and `message.cpp`. A message is the memory of
its `Dhcp` record and the number of bytes in use; the record's fields are read
and written at their offsets, as the casts and pointer arithmetic of the source
do. Only the first `mSize` bytes travel. Bytes above them keep what was there
before, and a read may reach them.

The host is little-endian, so `htonl` and its kind reverse bytes. The builders
take the current value of the process-wide `sNextTransactionId`; advancing it is
left to the process that owns it. An option value is the pair of its index in
`options` and its length byte.
-/

namespace Rpi3Device.Dhcp
open ByteMemory BoundedLoop

def htons : UInt16 → UInt16 := swap16
def ntohs : UInt16 → UInt16 := swap16
def htonl : UInt32 → UInt32 := swap32
def ntohl : UInt32 → UInt32 := swap32

def portBootpClient : UInt16 := 68
def opBootRequest : UInt8 := 1
def opBootReply : UInt8 := 2
def flagsBroadcast : UInt16 := 0x8000
def htypeEther : UInt8 := 1
def ethAlen : UInt8 := 6

def optCookie : List UInt8 := [0x63, 0x82, 0x53, 0x63]

def optPad : UInt8 := 0
def optSubnetMask : UInt8 := 1
def optGateway : UInt8 := 3
def optDns : UInt8 := 6
def optMtu : UInt8 := 26
def optBroadcastAddr : UInt8 := 28
def optRequestedIp : UInt8 := 50
def optLeaseTime : UInt8 := 51
def optMessageType : UInt8 := 53
def optServerId : UInt8 := 54
def optParameterList : UInt8 := 55
def optT1 : UInt8 := 58
def optT2 : UInt8 := 59
def optEnd : UInt8 := 255

def dhcpDiscover : UInt8 := 1
def dhcpOffer : UInt8 := 2
def dhcpRequest : UInt8 := 3
def dhcpAck : UInt8 := 5
def dhcpNak : UInt8 := 6

abbrev MacAddress := Vector UInt8 6

def localMac (n : UInt8) : MacAddress := #v[2, 0, 0, 0, 0, n]

structure Message where
  dhcpData : Memory
  mSize : ℕ

def optionsOffset : ℕ := 236

def capacity : ℕ := 1260

def kDefaultLeaseTime : UInt32 := 10 * 60

def kRequestParameters : List UInt8 :=
  [optSubnetMask, optGateway, optDns, optBroadcastAddr, optLeaseTime, optT1, optT2, optMtu]

namespace Message

def empty : Message := ⟨fun _ => 0, 0⟩

def op (m : Message) : UInt8 := m.dhcpData 0
def htype (m : Message) : UInt8 := m.dhcpData 1
def hlen (m : Message) : UInt8 := m.dhcpData 2
def xid (m : Message) : UInt32 := load32 m.dhcpData 4
def flags (m : Message) : UInt16 := load16 m.dhcpData 10
def yiaddr (m : Message) : UInt32 := load32 m.dhcpData 16
def giaddr (m : Message) : UInt32 := load32 m.dhcpData 24
def chaddr (m : Message) : MacAddress := Vector.ofFn fun i => m.dhcpData (28 + i)
def options (m : Message) (i : ℕ) : UInt8 := m.dhcpData (optionsOffset + i)

def write (m : Message) (off : ℕ) (bs : List UInt8) : Message :=
  ⟨store m.dhcpData off bs, m.mSize⟩

def setXid (m : Message) (x : UInt32) : Message := m.write 4 (bytes32 x)
def setFlags (m : Message) (x : UInt16) : Message := m.write 10 (bytes16 x)
def setYiaddr (m : Message) (x : UInt32) : Message := m.write 16 (bytes32 x)
def setGiaddr (m : Message) (x : UInt32) : Message := m.write 24 (bytes32 x)

def construct (sNextTransactionId : UInt32) (operation : UInt8) (macAddress : MacAddress)
    (type : UInt8) : Message :=
  let data := store (fun _ => 0) 0 [operation, htypeEther, ethAlen, 0]
  let data := store data 10 (bytes16 (htons flagsBroadcast))
  let data := store data 4 (bytes32 (htonl sNextTransactionId))
  let data := store data 28 macAddress.toList
  let data := store data optionsOffset (optCookie ++ [optMessageType, 1, type])
  ⟨data, optionsOffset + 7⟩

/-- The size parameter of the source is a byte; a longer value is cut to it. -/
def addOption (m : Message) (type : UInt8) (data : List UInt8) : Message :=
  let size := UInt8.ofNat data.length
  ⟨store m.dhcpData m.mSize (type :: size :: data.take size.toNat), m.mSize + 2 + size.toNat⟩

def endOptions (m : Message) : Message :=
  ⟨store m.dhcpData m.mSize [optEnd], m.mSize + 1⟩

def discover (sNextTransactionId : UInt32) (sourceMac : MacAddress) : Message :=
  let message := construct sNextTransactionId opBootRequest sourceMac dhcpDiscover
  let message := message.addOption optParameterList kRequestParameters
  message.endOptions

def request (sNextTransactionId : UInt32) (sourceMac : MacAddress)
    (requestAddress serverAddress : UInt32) : Message :=
  let message := construct sNextTransactionId opBootRequest sourceMac dhcpRequest
  let message := message.addOption optParameterList kRequestParameters
  let message := message.addOption optRequestedIp (bytes32 requestAddress)
  let message := message.addOption optServerId (bytes32 serverAddress)
  message.endOptions

/-- The common body of `offer` and `ack`. The lease time is copied from host
memory as it lies there, as the addresses are. -/
def leaseReply (type : UInt8) (sNextTransactionId : UInt32) (sourceMessage : Message)
    (serverAddress offeredAddress offeredNetmask offeredGateway : UInt32)
    (offeredDnsServers : List UInt32) : Message :=
  let message := construct sNextTransactionId opBootReply sourceMessage.chaddr type
  let message := message.setXid sourceMessage.xid
  let message := message.setFlags sourceMessage.flags
  let message := message.setYiaddr offeredAddress
  let message := message.setGiaddr sourceMessage.giaddr
  let message := message.addOption optServerId (bytes32 serverAddress)
  let message := message.addOption optLeaseTime (bytes32 kDefaultLeaseTime)
  let message := message.addOption optSubnetMask (bytes32 offeredNetmask)
  let message := message.addOption optGateway (bytes32 offeredGateway)
  let message := message.addOption optDns (offeredDnsServers.flatMap bytes32)
  message.endOptions

def offer : UInt32 → Message → UInt32 → UInt32 → UInt32 → UInt32 → List UInt32 → Message :=
  leaseReply dhcpOffer

def ack : UInt32 → Message → UInt32 → UInt32 → UInt32 → UInt32 → List UInt32 → Message :=
  leaseReply dhcpAck

def nack (sNextTransactionId : UInt32) (sourceMessage : Message) (serverAddress : UInt32) :
    Message :=
  let message := construct sNextTransactionId opBootReply sourceMessage.chaddr dhcpNak
  let message := message.setXid sourceMessage.xid
  let message := message.setFlags sourceMessage.flags
  let message := message.setGiaddr sourceMessage.giaddr
  let message := message.addOption optServerId (bytes32 serverAddress)
  message.endOptions

def isValidDhcpMessage (m : Message) (expectedOp : UInt8) : Bool :=
  if optionsOffset + 4 > m.mSize then false
  else if m.op ≠ expectedOp then false
  else if m.htype ≠ htypeEther then false
  else if m.hlen ≠ ethAlen then false
  else [m.options 0, m.options 1, m.options 2, m.options 3] = optCookie

def isValidDhcpReply (m : Message) (expectedOp : UInt8) (expectedXid : UInt32) : Bool :=
  if !m.isValidDhcpMessage expectedOp then false
  else if m.xid ≠ expectedXid then false
  else true

def optionsSize (m : Message) : ℕ :=
  if m.mSize ≤ optionsOffset then 0 else m.mSize - optionsOffset

def getOptionRound (m : Message) (expectedOptCode : UInt8) (i : ℕ) : ℕ ⊕ Option (ℕ × UInt8) :=
  if i + 2 < m.optionsSize then
    let optCode := m.options i
    let optLen := m.options (i + 1)
    if optCode = optEnd then .inr none
    else if optCode = expectedOptCode then .inr (some (i + 2, optLen))
    else .inl (i + 2 + optLen.toNat)
  else .inr none

def getOptionFrom (m : Message) (expectedOptCode : UInt8) : ℕ → Option (ℕ × UInt8) :=
  measured (m.getOptionRound expectedOptCode) (fun i => m.optionsSize - i) none

def getOption (m : Message) (expectedOptCode : UInt8) : Option (ℕ × UInt8) :=
  m.getOptionFrom expectedOptCode 4

def type (m : Message) : UInt8 :=
  match m.getOption optMessageType with
  | some (opt, length) => if length = 1 then m.options opt else 0
  | none => 0

def addressOption (m : Message) (optCode : UInt8) : UInt32 :=
  match m.getOption optCode with
  | some (opt, length) => if length = 4 then load32 m.dhcpData (optionsOffset + opt) else 0
  | none => 0

def serverId (m : Message) : UInt32 := m.addressOption optServerId

def requestedIp (m : Message) : UInt32 := m.addressOption optRequestedIp

theorem getOptionRound_decreases (m : Message) (code : UInt8) :
    Decreases (m.getOptionRound code) (fun i => m.optionsSize - i) := by
  intro i i' h
  simp only [getOptionRound] at h
  split_ifs at h
  simp only [Sum.inl.injEq] at h
  change m.optionsSize - i' < m.optionsSize - i
  omega

theorem getOptionFrom_eq (m : Message) (code : UInt8) (i : ℕ) :
    m.getOptionFrom code i =
      if i + 2 < m.optionsSize then
        if m.options i = optEnd then none
        else if m.options i = code then some (i + 2, m.options (i + 1))
        else m.getOptionFrom code (i + 2 + (m.options (i + 1)).toNat)
      else none := by
  have hdec := m.getOptionRound_decreases code
  by_cases hi : i + 2 < m.optionsSize
  · by_cases he : m.options i = optEnd
    · simp only [hi, he, if_true]
      exact measured_exit (by simp [getOptionRound, hi, he])
    · by_cases hc : m.options i = code
      · subst hc
        simp only [hi, he, if_true, if_false]
        exact measured_exit (by simp [getOptionRound, hi, he])
      · simp only [hi, he, hc, if_true, if_false]
        exact measured_continue hdec none (by simp [getOptionRound, hi, he, hc])
  · simp only [hi, if_false]
    exact measured_exit (by simp [getOptionRound, hi])

def wire (m : Message) : List UInt8 := load m.dhcpData 0 m.mSize

/-- A datagram received into `m`: at most `capacity` bytes are copied over what
the buffer held, and the size is the number copied. -/
def receive (m : Message) (datagram : List UInt8) : Message :=
  let copied := datagram.take capacity
  ⟨store m.dhcpData 0 copied, copied.length⟩

end Message
end Rpi3Device.Dhcp
