import Rpi3Device.Dhcp.ClientSteps

/-!
# What a failed configuration leaves behind

`configureDhcp` writes what it reads from an acknowledgement straight into the
members of the client and makes its requests of the kernel one after the other,
without undoing any of it on failure. It has seven failing exits. At each of
them every member that is written later is what it was before the call, and the
host is as the accepted requests have left it: unchanged up to the exit at which
the interface cannot be brought up, with its address, netmask and default route
up to the exit at which the address is refused.
-/

namespace Rpi3Device.Dhcp
namespace DhcpClient

structure SameConfiguration {κ : Type*} (c d : DhcpClient) (k k' : κ) : Prop where
  dhcpInfo : d.mDhcpInfo = c.mDhcpInfo
  t1 : d.mT1 = c.mT1
  t2 : d.mT2 = c.mT2
  properties : d.properties = c.properties
  host : k' = k

/-- The failing exits of `configureDhcp`, in the order of the source. -/
inductive FailureExit where
  | tooSmall
  | invalidOption
  | noLeaseTime
  | bringUp
  | setAddress
  | setSubnetMask
  | setDefaultGateway
deriving DecidableEq

def FailureExit.stage : FailureExit → ℕ
  | .tooSmall => 0
  | .invalidOption => 1
  | .noLeaseTime => 2
  | .bringUp => 3
  | .setAddress => 4
  | .setSubnetMask => 5
  | .setDefaultGateway => 6

/-- What is changed only after an exit is what it was. -/
structure KeepsLater {κ : Type*} (K : Kernel κ) (e : FailureExit) (c d : DhcpClient)
    (k k' : κ) : Prop where
  dhcpInfo : e.stage ≤ 0 → d.mDhcpInfo = c.mDhcpInfo
  t1 : e.stage ≤ 2 → d.mT1 = c.mT1
  t2 : e.stage ≤ 2 → d.mT2 = c.mT2
  host : e.stage ≤ 3 → k' = k
  addressing : e.stage ≤ 4 → (d.mDhcpInfo.mtu ≠ 0 → Kernel.minimumMtu ≤ d.mDhcpInfo.mtu) →
    K.SameAddressing k k'
  properties : d.properties = c.properties

def requestFailed (f : Interface) (io : IoOutcome) : Option FailureExit :=
  if (f.bringUp io).1 = false then some .bringUp
  else if io.setAddress = false then some .setAddress
  else if io.setSubnetMask = false then some .setSubnetMask
  else if io.setDefaultGateway = false then some .setDefaultGateway
  else none

def exitTaken (f : Interface) (msg : Message) (io : IoOutcome) : Option FailureExit :=
  if msg.optionsSize < 4 then some .tooSmall
  else if msg.readOptions.1 = false then some .invalidOption
  else if msg.readOptions.2.leaseTime = 0 then some .noLeaseTime
  else requestFailed f io

section Exits
variable (c : DhcpClient) (msg : Message) (io : IoOutcome) (t1Now t2Now : UInt64)

def armed : DhcpClient :=
  { c.withOptions msg with
    mT1 := .expireSeconds t1Now (if msg.dhcpInfo.t1 > 0 then msg.dhcpInfo.t1
      else msg.dhcpInfo.leaseTime / 2).toUInt64
    mT2 := .expireSeconds t2Now (if msg.dhcpInfo.t2 > 0 then msg.dhcpInfo.t2
      else msg.dhcpInfo.leaseTime * 7 / 8).toUInt64 }

def masked (f : Interface) (info : DhcpInfo) (accepted : Bool) : Interface :=
  { (raised f info io).ioctl (.setAddress info.offeredAddress) true with
    address := info.offeredAddress }.ioctl (.setSubnetMask info.subnetMask) accepted

def leftBehind : FailureExit → DhcpClient
  | .tooSmall => c
  | .invalidOption => { c with mDhcpInfo := msg.readOptions.2 }
  | .noLeaseTime => c.withOptions msg
  | .bringUp => { c.armed msg t1Now t2Now with mInterface := (c.mInterface.bringUp io).2 }
  | .setAddress =>
    { c.armed msg t1Now t2Now with
      mInterface := (raised c.mInterface msg.dhcpInfo io).ioctl (.setAddress msg.yiaddr) false }
  | .setSubnetMask =>
    { c.armed msg t1Now t2Now with mInterface := masked io c.mInterface msg.dhcpInfo false }
  | .setDefaultGateway =>
    { c.armed msg t1Now t2Now with
      mInterface := masked io c.mInterface msg.dhcpInfo true
      mRouter := ⟨c.mRouter.netlinkMessages ++
        [(.newRoute msg.dhcpInfo.gateway (masked io c.mInterface msg.dhcpInfo true).mIndex,
          false)]⟩ }

end Exits

theorem applyDhcpInfo_eq (c : DhcpClient) (msg : Message) (io : IoOutcome)
    (t1Now t2Now : UInt64) : (c.withOptions msg).applyDhcpInfo io t1Now t2Now =
      match requestFailed c.mInterface io with
      | some e => (false, c.leftBehind msg io t1Now t2Now e)
      | none => (true, ((c.withOptions msg).applyDhcpInfo io t1Now t2Now).2) := by
  have hface := configureInterface_eq c.mInterface msg.dhcpInfo io
  have hinfo : (c.withOptions msg).mDhcpInfo = msg.dhcpInfo := rfl
  have hsame : (c.withOptions msg).mInterface = c.mInterface := rfl
  cases hup : (c.mInterface.bringUp io).1 with
  | false =>
    rw [hup, if_pos rfl] at hface
    simp only [requestFailed, applyDhcpInfo, hinfo, hsame, hface, hup]
    rfl
  | true =>
    rw [hup, if_neg (by decide)] at hface
    cases ha : io.setAddress with
    | false =>
      simp only [ha, if_true] at hface
      simp only [requestFailed, applyDhcpInfo, hinfo, hsame, hface, hup, ha]
      rfl
    | true =>
      simp only [ha, Bool.true_eq_false, if_false] at hface
      cases hm : io.setSubnetMask with
      | false =>
        simp only [hm] at hface
        simp only [requestFailed, applyDhcpInfo, hinfo, hsame, hface, hup, ha, hm]
        rfl
      | true =>
        simp only [hm] at hface
        cases hg : io.setDefaultGateway with
        | false =>
          simp only [requestFailed, applyDhcpInfo, hinfo, hsame, hface, hup, ha, hm, hg,
            Router.setDefaultGateway]
          rfl
        | true =>
          simp only [requestFailed, applyDhcpInfo, hinfo, hsame, hface, hup, ha, hm, hg,
            Router.setDefaultGateway]
          rfl

theorem configureDhcp_eq (c : DhcpClient) (msg : Message) (io : IoOutcome)
    (t1Now t2Now : UInt64) : c.configureDhcp msg io t1Now t2Now =
      match exitTaken c.mInterface msg io with
      | some e => (false, c.leftBehind msg io t1Now t2Now e)
      | none => (true, (c.configureDhcp msg io t1Now t2Now).2) := by
  by_cases hsize : msg.optionsSize < 4
  · simp [configureDhcp, exitTaken, hsize, leftBehind]
  cases hopts : msg.readOptions.1 with
  | false => simp [configureDhcp, exitTaken, hsize, hopts, leftBehind]
  | true =>
    by_cases hlease : msg.readOptions.2.leaseTime = 0
    · simp [configureDhcp, exitTaken, hsize, hopts, hlease, leftBehind, withOptions,
        Message.dhcpInfo]
    · have happly : c.configureDhcp msg io t1Now t2Now =
          (c.withOptions msg).applyDhcpInfo io t1Now t2Now := by
        simp [configureDhcp, hsize, hopts, hlease, withOptions, Message.dhcpInfo]
      have hexit : exitTaken c.mInterface msg io = requestFailed c.mInterface io := by
        simp [exitTaken, hsize, hopts, hlease]
      rw [happly, hexit]
      exact applyDhcpInfo_eq c msg io t1Now t2Now

section Host
variable {κ : Type*} {K : Kernel κ}

theorem bringUp_ioctls (f : Interface) (io : IoOutcome) :
    ∃ requests, (f.bringUp io).2.ioctls = f.ioctls ++ requests ∧
      (∀ r ∈ requests, r = (.setFlags true, io.setFlags)) ∧
      ((f.bringUp io).1 = false → ∀ r ∈ requests, r.2 = false) := by
  unfold Interface.bringUp Interface.setInterfaceUp
  split_ifs with hget hup hset
  · exact ⟨[], (List.append_nil _).symm, by simp, by simp⟩
  · exact ⟨[], (List.append_nil _).symm, by simp, by simp⟩
  · exact ⟨_, rfl, by simp, by simpa using hset⟩
  · exact ⟨_, rfl, by simp, by simp⟩

theorem raised_ioctls (f : Interface) (info : DhcpInfo) (io : IoOutcome) :
    ∃ requests, (raised f info io).ioctls = f.ioctls ++ requests ∧
      ∀ r ∈ requests, r.1 = .setFlags true ∨ info.mtu ≠ 0 ∧ r.1 = .setMtu info.mtu := by
  obtain ⟨requests, hrequests, hflags, -⟩ := bringUp_ioctls f io
  unfold raised
  split_ifs with hmtu
  · refine ⟨requests ++ [(.setMtu info.mtu, io.setMtu)], ?_, ?_⟩
    · simp [Interface.setMtu, Interface.ioctl, hrequests]
    · intro r hr
      obtain hr | hr := List.mem_append.mp hr
      · exact .inl (congrArg Prod.fst (hflags r hr))
      · exact .inr ⟨hmtu, congrArg Prod.fst (List.mem_singleton.mp hr)⟩
  · exact ⟨requests, hrequests, fun r hr => .inl (congrArg Prod.fst (hflags r hr))⟩

theorem after_refused (hK : K.Documented) (k : κ) {requests : List (KernelRequest × Bool)}
    (h : ∀ r ∈ requests, r.2 = false) : K.after k requests = k := by
  induction requests generalizing k with
  | nil => rfl
  | cons r requests ih =>
    rw [List.forall_mem_cons] at h
    have hfirst : K.perform k r.1 r.2 = k := by
      rw [h.1]
      exact hK.refused k r.1
    calc K.after k (r :: requests)
        _ = K.after (K.perform k r.1 r.2) requests := rfl
        _ = k := by rw [hfirst, ih k h.2]

theorem sameAddressing_refl (k : κ) : K.SameAddressing k k := ⟨rfl, rfl, rfl⟩

theorem sameAddressing_trans {k k' k'' : κ} (h : K.SameAddressing k k')
    (h' : K.SameAddressing k' k'') : K.SameAddressing k k'' :=
  ⟨h'.1.trans h.1, h'.2.1.trans h.2.1, h'.2.2.trans h.2.2⟩

theorem after_sameAddressing (hK : K.Documented) {mtu : UInt16}
    (hmtu : mtu ≠ 0 → Kernel.minimumMtu ≤ mtu) (k : κ)
    {requests : List (KernelRequest × Bool)}
    (h : ∀ r ∈ requests, r.2 = false ∨ r.1 = .setFlags true ∨ mtu ≠ 0 ∧ r.1 = .setMtu mtu) :
    K.SameAddressing k (K.after k requests) := by
  induction requests generalizing k with
  | nil => exact sameAddressing_refl k
  | cons r requests ih =>
    rw [List.forall_mem_cons] at h
    refine sameAddressing_trans ?_ (ih (K.perform k r.1 r.2) h.2)
    obtain ⟨request, accepted⟩ := r
    cases accepted with
    | false =>
      rw [hK.refused]
      exact sameAddressing_refl k
    | true =>
      obtain hfalse | rfl | ⟨hne, rfl⟩ := h.1
      · simp at hfalse
      · exact hK.raised k
      · exact hK.resized k mtu (hmtu hne)

theorem bringUp_of_exitTaken {f : Interface} {msg : Message} {io : IoOutcome}
    (h : exitTaken f msg io = some .bringUp) : (f.bringUp io).1 = false := by
  unfold exitTaken requestFailed at h
  split_ifs at h with _ _ _ hup <;> first | exact hup | simp at h

theorem leftBehind_keepsLater (hK : K.Documented) (k : κ) (c : DhcpClient) (msg : Message)
    (io : IoOutcome) (t1Now t2Now : UInt64) {e : FailureExit}
    (he : exitTaken c.mInterface msg io = some e) :
    KeepsLater K e c (c.leftBehind msg io t1Now t2Now e) k
      (K.after k (c.requestsSince (c.leftBehind msg io t1Now t2Now e))) := by
  have hnone {d : DhcpClient} (hi : d.mInterface = c.mInterface) (hr : d.mRouter = c.mRouter) :
      K.after k (c.requestsSince d) = k := by
    simp [requestsSince, hi, hr, Kernel.after]
  have hsame {k' : κ} (h : k' = k) : K.SameAddressing k k' := by
    rw [h]
    exact sameAddressing_refl k
  cases e with
  | tooSmall =>
    have hhost := hnone (d := c.leftBehind msg io t1Now t2Now .tooSmall) rfl rfl
    exact ⟨fun _ => rfl, fun _ => rfl, fun _ => rfl, fun _ => hhost, fun _ _ => hsame hhost, rfl⟩
  | invalidOption =>
    have hhost := hnone (d := c.leftBehind msg io t1Now t2Now .invalidOption) rfl rfl
    exact ⟨fun h => absurd h (by decide), fun _ => rfl, fun _ => rfl, fun _ => hhost,
      fun _ _ => hsame hhost, rfl⟩
  | noLeaseTime =>
    have hhost := hnone (d := c.leftBehind msg io t1Now t2Now .noLeaseTime) rfl rfl
    exact ⟨fun h => absurd h (by decide), fun _ => rfl, fun _ => rfl, fun _ => hhost,
      fun _ _ => hsame hhost, rfl⟩
  | bringUp =>
    obtain ⟨requests, hrequests, -, hrefused⟩ := bringUp_ioctls c.mInterface io
    have hsince : c.requestsSince (c.leftBehind msg io t1Now t2Now .bringUp) = requests := by
      simp [requestsSince, leftBehind, hrequests, armed, withOptions]
    have hhost := after_refused hK k (hrefused (bringUp_of_exitTaken he))
    rw [hsince]
    exact ⟨fun h => absurd h (by decide), fun h => absurd h (by decide),
      fun h => absurd h (by decide), fun _ => hhost, fun _ _ => hsame hhost, rfl⟩
  | setAddress =>
    obtain ⟨requests, hrequests, hkinds⟩ := raised_ioctls c.mInterface msg.dhcpInfo io
    have hsince : c.requestsSince (c.leftBehind msg io t1Now t2Now .setAddress) =
        requests ++ [(.setAddress msg.yiaddr, false)] := by
      simp [requestsSince, leftBehind, Interface.ioctl, hrequests, armed, withOptions]
    refine ⟨fun h => absurd h (by decide), fun h => absurd h (by decide),
      fun h => absurd h (by decide), fun h => absurd h (by decide), fun _ hmtu => ?_, rfl⟩
    rw [hsince]
    refine after_sameAddressing hK hmtu k fun r hr => ?_
    obtain hr | hr := List.mem_append.mp hr
    · exact .inr (hkinds r hr)
    · exact .inl (congrArg Prod.snd (List.mem_singleton.mp hr))
  | setSubnetMask =>
    exact ⟨fun h => absurd h (by decide), fun h => absurd h (by decide),
      fun h => absurd h (by decide), fun h => absurd h (by decide),
      fun h => absurd h (by decide), rfl⟩
  | setDefaultGateway =>
    exact ⟨fun h => absurd h (by decide), fun h => absurd h (by decide),
      fun h => absurd h (by decide), fun h => absurd h (by decide),
      fun h => absurd h (by decide), rfl⟩

end Host

def renewingClient : DhcpClient :=
  { fresh (localMac 1) with
    mState := .renewing
    mDhcpInfo := { DhcpInfo.zero with leaseTime := 600 } }

def renewingHost : HostConfig := ⟨true, 1500, 0x0200000a, 0x00ffffff, some (0x0100000a, 2)⟩

def bareAck : Message :=
  (Message.construct 1 opBootReply (localMac 1) dhcpAck).endOptions

end DhcpClient

end Rpi3Device.Dhcp
