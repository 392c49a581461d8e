import Rpi3Device.Dhcp.Message

/-!
# What the client uses of its host

`dhcp/client/interface.cpp`, `timer.cpp`, `router.cpp` and the receiving half of
`dhcp/common/socket.cpp`. The kernel's answer to each `ioctl` or netlink request
is an argument: `true` if the request succeeds. The interface flag and the address
that requests set are kept beside the members of the object that makes them, and
so are the requests themselves. What else a request does to the host is up to the
kernel, of which there is only what is documented: an address that is set can
change the netmask and the routes, and a route can be refused without the client
noticing. Reads of the monotonic clock are arguments as well.
-/

namespace Rpi3Device.Dhcp
open ByteMemory

inductive KernelRequest where
  | setFlags (up : Bool)
  | setMtu (mtu : UInt16)
  | setAddress (address : UInt32)
  | setSubnetMask (subnetMask : UInt32)
  | newRoute (gateway ifaceIndex : UInt32)
deriving DecidableEq

/-- `ioctls` are the requests that set something, with the answers. -/
structure Interface where
  mInterfaceName : String
  mIndex : UInt32
  mMacAddress : MacAddress
  isUp : Bool
  address : UInt32
  ioctls : List (KernelRequest × Bool)

structure IoOutcome where
  getFlags : Bool
  setFlags : Bool
  setMtu : Bool
  setAddress : Bool
  setSubnetMask : Bool
  setDefaultGateway : Bool
deriving DecidableEq

namespace Interface

def ioctl (f : Interface) (request : KernelRequest) (accepted : Bool) : Interface :=
  { f with ioctls := f.ioctls ++ [(request, accepted)] }

def setInterfaceUp (f : Interface) (shouldBeUp : Bool) (io : IoOutcome) : Bool × Interface :=
  if !io.getFlags then (false, f)
  else if f.isUp = shouldBeUp then (true, f)
  else
    let f := f.ioctl (.setFlags shouldBeUp) io.setFlags
    if !io.setFlags then (false, f) else (true, { f with isUp := shouldBeUp })

def bringUp (f : Interface) (io : IoOutcome) : Bool × Interface := f.setInterfaceUp true io

def bringDown (f : Interface) (io : IoOutcome) : Bool × Interface := f.setInterfaceUp false io

def setMtu (f : Interface) (mtu : UInt16) (io : IoOutcome) : Bool × Interface :=
  (io.setMtu, f.ioctl (.setMtu mtu) io.setMtu)

def setAddress (f : Interface) (address : UInt32) (io : IoOutcome) : Bool × Interface :=
  let f := f.ioctl (.setAddress address) io.setAddress
  if io.setAddress then (true, { f with address := address }) else (false, f)

def setSubnetMask (f : Interface) (subnetMask : UInt32) (io : IoOutcome) : Bool × Interface :=
  (io.setSubnetMask, f.ioctl (.setSubnetMask subnetMask) io.setSubnetMask)

def init (f : Interface) (interfaceName : String) (index : Option UInt32)
    (mac : Option MacAddress) (io : IoOutcome) : Bool × Interface :=
  let f := { f with mInterfaceName := interfaceName }
  match index with
  | none => (false, f)
  | some i =>
    let f := { f with mIndex := i }
    match mac with
    | none => (false, f)
    | some m =>
      let f := { f with mMacAddress := m }
      let up := f.bringUp io
      if !up.1 then (false, up.2) else up.2.setAddress 0 io

end Interface

structure Router where
  netlinkMessages : List (KernelRequest × Bool)

/-- The answer says that the message is sent. -/
def Router.setDefaultGateway (r : Router) (gateway ifaceIndex : UInt32) (io : IoOutcome) :
    Bool × Router :=
  (io.setDefaultGateway,
    ⟨r.netlinkMessages ++ [(.newRoute gateway ifaceIndex, io.setDefaultGateway)]⟩)

/-- What requests do to the host, and what they can be about in it. -/
structure Kernel (κ : Type*) where
  perform : κ → KernelRequest → Bool → κ
  isUp : κ → Bool
  address : κ → UInt32
  netmask : κ → UInt32
  defaultRoute : κ → Option (UInt32 × UInt32)

namespace Kernel
variable {κ : Type*} (K : Kernel κ)

def after (k : κ) (requests : List (KernelRequest × Bool)) : κ :=
  requests.foldl (fun k r => K.perform k r.1 r.2) k

def SameAddressing (k k' : κ) : Prop :=
  K.address k' = K.address k ∧ K.netmask k' = K.netmask k ∧ K.defaultRoute k' = K.defaultRoute k

/-- With a smaller MTU an interface cannot have an address. -/
def minimumMtu : UInt16 := 68

structure Documented : Prop where
  refused : ∀ k r, K.perform k r false = k
  raised : ∀ k, K.SameAddressing k (K.perform k (.setFlags true) true)
  resized : ∀ k mtu, minimumMtu ≤ mtu → K.SameAddressing k (K.perform k (.setMtu mtu) true)
  addressed : ∀ k address, K.address (K.perform k (.setAddress address) true) = address ∧
    K.isUp (K.perform k (.setAddress address) true) = K.isUp k
  masked : ∀ k mask, K.netmask (K.perform k (.setSubnetMask mask) true) = mask ∧
    K.address (K.perform k (.setSubnetMask mask) true) = K.address k ∧
    K.isUp (K.perform k (.setSubnetMask mask) true) = K.isUp k
  routed : ∀ k gateway i, K.address (K.perform k (.newRoute gateway i) true) = K.address k ∧
    K.netmask (K.perform k (.newRoute gateway i) true) = K.netmask k

end Kernel

structure HostConfig where
  isUp : Bool
  mtu : UInt16
  address : UInt32
  netmask : UInt32
  defaultRoute : Option (UInt32 × UInt32)
deriving DecidableEq

def classMask (address : UInt32) : UInt32 :=
  if address &&& 0x80 = 0 then 0x000000ff
  else if address &&& 0x40 = 0 then 0x0000ffff
  else 0x00ffffff

namespace HostConfig
variable (h : HostConfig)

def readdress (address netmask : UInt32) : HostConfig :=
  if h.address = address ∧ h.netmask = netmask then h
  else { h with address := address, netmask := netmask, defaultRoute := none }

def perform : KernelRequest → HostConfig
  | .setFlags up => { h with isUp := up, defaultRoute := if up then h.defaultRoute else none }
  | .setMtu mtu =>
    if mtu < Kernel.minimumMtu then { h.readdress 0 0 with mtu := mtu } else { h with mtu := mtu }
  | .setAddress address =>
    if h.address = address then h else h.readdress address (classMask address)
  | .setSubnetMask subnetMask => h.readdress h.address subnetMask
  | .newRoute gateway ifaceIndex =>
    if h.isUp = true ∧ gateway &&& h.netmask = h.address &&& h.netmask then
      { h with defaultRoute := some (gateway, ifaceIndex) }
    else h

end HostConfig

def hostKernel : Kernel HostConfig where
  perform h request accepted := if accepted then h.perform request else h
  isUp := HostConfig.isUp
  address := HostConfig.address
  netmask := HostConfig.netmask
  defaultRoute := HostConfig.defaultRoute

theorem HostConfig.readdress_eq (h : HostConfig) (address netmask : UInt32) :
    (h.readdress address netmask).address = address ∧
      (h.readdress address netmask).netmask = netmask ∧
      (h.readdress address netmask).isUp = h.isUp := by
  unfold HostConfig.readdress
  split_ifs with hsame
  · exact ⟨hsame.1, hsame.2, rfl⟩
  · exact ⟨rfl, rfl, rfl⟩

theorem hostKernel_documented : hostKernel.Documented where
  refused h r := rfl
  raised h := ⟨rfl, rfl, rfl⟩
  resized h mtu hmtu := by
    have hlt : ¬ mtu < Kernel.minimumMtu := UInt16.not_lt.mpr hmtu
    simp [hostKernel, HostConfig.perform, hlt, Kernel.SameAddressing]
  addressed h address := by
    have hnew := h.readdress_eq address (classMask address)
    simp only [hostKernel, HostConfig.perform, if_true]
    split_ifs with hsame
    · exact ⟨hsame, rfl⟩
    · exact ⟨hnew.1, hnew.2.2⟩
  masked h mask := by
    obtain ⟨haddress, hmask, hup⟩ := h.readdress_eq h.address mask
    exact ⟨hmask, haddress, hup⟩
  routed h gateway i := by
    simp only [hostKernel, HostConfig.perform, if_true]
    split_ifs <;> exact ⟨rfl, rfl⟩

structure Timer where
  mExpires : UInt64

namespace Timer

def expireSeconds (now seconds : UInt64) : Timer := ⟨now + seconds * 1000⟩

def expired (t : Timer) (now : UInt64) : Bool := now ≥ t.mExpires

def remainingMillis (t : Timer) (current : UInt64) : UInt64 :=
  if current > t.mExpires then 0 else t.mExpires - current

end Timer

def ipVersion : ℕ := 4
def ipprotoUdp : UInt8 := 17
def headersSize : ℕ := 28

def receiveRawUdp (expectedPort : UInt16) (packet : List UInt8) : Bool × Message :=
  if packet.length < headersSize then (false, Message.empty)
  else
    let header : Memory := fun i => packet.getD i 0
    let isValid := (header 0).toNat / 16 = ipVersion ∧ (header 0).toNat % 16 = 20 / 4 ∧
      header 9 = ipprotoUdp ∧ load16 header 22 = htons expectedPort
    (decide isValid, Message.empty.receive (packet.drop headersSize))

end Rpi3Device.Dhcp
