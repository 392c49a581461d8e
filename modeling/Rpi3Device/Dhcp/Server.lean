import Mathlib.Data.List.AList
import Rpi3Device.Dhcp.Message
import Rpi3Device.TransitionSystem

/-!
# The DHCP server

`dhcp/server/dhcpserver.cpp` and `lease.h`. One input of the machine is one
return of `ppoll` with something to read: the datagram and the interface it
arrived on, the values of the DNS properties and the address of the interface.
A round that does not return is no step: `getOfferAddress` contains the one loop
of the server for which no bound is known, and `none` stands for a call that
stays in it. Log texts are left out; the results the server tests are kept.
-/

namespace Rpi3Device.Dhcp
open TransitionSystem

structure Lease where
  interfaceIndex : UInt32
  macAddress : MacAddress
deriving DecidableEq

/-- `std::unordered_map<Lease, in_addr_t>`; its iteration order is not used. -/
abbrev LeaseTable := AList fun _ : Lease => UInt32

def LeaseTable.findOrCreate (t : LeaseTable) (key : Lease) : UInt32 × LeaseTable :=
  match t.lookup key with
  | some value => (value, t)
  | none => (0, t.insert key 0)

structure DhcpServer where
  mNextAddressOffset : UInt32
  mDhcpRangeStart : UInt32
  mDhcpRangeEnd : UInt32
  mNetmask : UInt32
  mGateway : UInt32
  mDnsServers : List UInt32
  mLeases : LeaseTable
  mExcludeInterface : UInt32
  message : Message
  sNextTransactionId : UInt32

def kMaxDnsServers : ℕ := 4

structure ServerInput where
  /-- Datagram and interface index, `none` if the receive fails. The index is 0
  if the datagram carries no packet information. -/
  received : Option (List UInt8 × UInt32)
  dnsProperty : ℕ → Option UInt32
  interfaceAddress : Option UInt32

structure Sent where
  interfaceIndex : UInt32
  message : Message

namespace DhcpServer

def new (dhcpRangeStart dhcpRangeEnd netmask gateway excludeInterface : UInt32) : DhcpServer where
  mNextAddressOffset := 0
  mDhcpRangeStart := dhcpRangeStart
  mDhcpRangeEnd := dhcpRangeEnd
  mNetmask := netmask
  mGateway := gateway
  mDnsServers := []
  mLeases := ∅
  mExcludeInterface := excludeInterface
  message := Message.empty
  sNextTransactionId := 1

def updateDnsServers (s : DhcpServer) (input : ServerInput) : DhcpServer :=
  { s with mDnsServers := (List.range' 1 kMaxDnsServers).filterMap input.dnsProperty }

/-- `while (lastAddressByte == 0xFF || lastAddressByte == 0) { ++nextAddress; ++offset; }`.
The body does not touch `lastAddressByte`; `none` if the loop is not left. -/
def skipReserved (lastAddressByte : UInt8) (s : UInt32 × UInt32) : Option (UInt32 × UInt32) :=
  if lastAddressByte = 0xFF ∨ lastAddressByte = 0 then none else some s

def getOfferAddress (s : DhcpServer) (interfaceIndex : UInt32) (macAddress : MacAddress) :
    Option (Except String UInt32 × DhcpServer) :=
  let key : Lease := ⟨interfaceIndex, macAddress⟩
  let entry := s.mLeases.findOrCreate key
  let s := { s with mLeases := entry.2 }
  if entry.1 = 0 then
    let nextAddress := ntohl s.mDhcpRangeStart + s.mNextAddressOffset
    let lastAddressByte := (nextAddress &&& 0xFF).toUInt8
    match skipReserved lastAddressByte (nextAddress, s.mNextAddressOffset) with
    | none => none
    | some (nextAddress, mNextAddressOffset) =>
      if nextAddress ≤ ntohl s.mDhcpRangeEnd then
        some (.ok (htonl nextAddress),
          { s with
            mLeases := s.mLeases.insert key (htonl nextAddress)
            mNextAddressOffset := mNextAddressOffset + 1 })
      else
        some (.error "DHCP server is out of addresses",
          { s with mNextAddressOffset := mNextAddressOffset })
  else some (.ok entry.1, s)

def sendLease (build : UInt32 → Message → UInt32 → UInt32 → UInt32 → UInt32 → List UInt32 → Message)
    (s : DhcpServer) (input : ServerInput) (message : Message) (interfaceIndex : UInt32) :
    Option (DhcpServer × List Sent) :=
  let s := s.updateDnsServers input
  match s.getOfferAddress interfaceIndex message.chaddr with
  | none => none
  | some (.error _, s) => some (s, [])
  | some (.ok offerAddress, s) =>
    match input.interfaceAddress with
    | none => some (s, [])
    | some serverAddress =>
      some ({ s with sNextTransactionId := s.sNextTransactionId + 1 },
        [⟨interfaceIndex, build s.sNextTransactionId message serverAddress offerAddress s.mNetmask
          s.mGateway s.mDnsServers⟩])

def sendDhcpOffer : DhcpServer → ServerInput → Message → UInt32 →
    Option (DhcpServer × List Sent) := sendLease Message.offer

def sendAck : DhcpServer → ServerInput → Message → UInt32 →
    Option (DhcpServer × List Sent) := sendLease Message.ack

def sendNack (s : DhcpServer) (input : ServerInput) (message : Message) (interfaceIndex : UInt32) :
    DhcpServer × List Sent :=
  match input.interfaceAddress with
  | none => (s, [])
  | some serverAddress =>
    ({ s with sNextTransactionId := s.sNextTransactionId + 1 },
      [⟨interfaceIndex, Message.nack s.sNextTransactionId message serverAddress⟩])

def isValidDhcpRequest (s : DhcpServer) (message : Message) (interfaceIndex : UInt32) :
    Option (Bool × DhcpServer) :=
  match s.getOfferAddress interfaceIndex message.chaddr with
  | none => none
  | some (.error _, s) => some (false, s)
  | some (.ok offerAddress, s) =>
    if message.requestedIp ≠ offerAddress then some (false, s) else some (true, s)

def dispatch (s : DhcpServer) (input : ServerInput) (message : Message) (interfaceIndex : UInt32) :
    Option (DhcpServer × List Sent) :=
  if message.type = dhcpDiscover then s.sendDhcpOffer input message interfaceIndex
  else if message.type = dhcpRequest then
    match s.isValidDhcpRequest message interfaceIndex with
    | none => none
    | some (true, s) => s.sendAck input message interfaceIndex
    | some (false, s) => some (s.sendNack input message interfaceIndex)
  else some (s, [])

def receiveFromInterface (s : DhcpServer) (datagram : List UInt8) : DhcpServer :=
  { s with message := s.message.receive datagram }

def round (s : DhcpServer) (input : ServerInput) : Option (DhcpServer × List Sent) :=
  match input.received with
  | none => some (s, [])
  | some (datagram, interfaceIndex) =>
    let s := s.receiveFromInterface datagram
    if interfaceIndex = 0 ∨ s.mExcludeInterface = interfaceIndex then some (s, [])
    else if !s.message.isValidDhcpMessage opBootRequest then some (s, [])
    else s.dispatch input s.message interfaceIndex

end DhcpServer

def serverMachine : Machine DhcpServer ServerInput Sent := ⟨DhcpServer.round⟩

end Rpi3Device.Dhcp
