import Rpi3Device.BumpAllocator
import Rpi3Device.Dhcp.Server

/-!
# The lease table

`getOfferAddress` is the only function that changes the table or the address
offset. Its outcomes are listed once; from them the server refines an allocator
of consecutive numbers, whose keys are the leases and whose numbers are the
addresses in host order. A call that returns never leaves the block of 256
addresses in which the range starts, so the 32-bit addition does not wrap.
-/

namespace Rpi3Device.Dhcp
open ByteMemory BumpAllocator TransitionSystem

def Usable (address : ℕ) : Prop := address % 256 ≠ 0 ∧ address % 256 ≠ 255

namespace DhcpServer

/-- The address assigned to a key. An entry that is still zero holds none. -/
def leaseAddress (s : DhcpServer) (key : Lease) : Option UInt32 :=
  (s.mLeases.lookup key).filter (· ≠ 0)

def nextAddress (s : DhcpServer) : UInt32 := ntohl s.mDhcpRangeStart + s.mNextAddressOffset

theorem leaseAddress_eq_some {s : DhcpServer} {key : Lease} {a : UInt32} :
    s.leaseAddress key = some a ↔ s.mLeases.lookup key = some a ∧ a ≠ 0 := by
  simp [leaseAddress, Option.filter_eq_some_iff]

def assign (s : DhcpServer) (key : Lease) : DhcpServer :=
  { s with
    mLeases := s.mLeases.insert key (htonl s.nextAddress)
    mNextAddressOffset := s.mNextAddressOffset + 1 }

def touch (s : DhcpServer) (key : Lease) : DhcpServer :=
  { s with mLeases := (s.mLeases.findOrCreate key).2 }

theorem findOrCreate_fst (s : DhcpServer) (key : Lease) :
    (s.mLeases.findOrCreate key).1 = (s.leaseAddress key).getD 0 := by
  cases h : s.mLeases.lookup key with
  | none => simp [LeaseTable.findOrCreate, leaseAddress, h]
  | some v =>
    by_cases hv : v = 0 <;> simp [LeaseTable.findOrCreate, leaseAddress, h, hv, Option.filter]

theorem touch_of_some {s : DhcpServer} {key : Lease} {a : UInt32}
    (h : s.leaseAddress key = some a) : s.touch key = s := by
  simp [touch, LeaseTable.findOrCreate, (leaseAddress_eq_some.mp h).1]

theorem findOrCreate_insert (t : LeaseTable) (key : Lease) (a : UInt32) :
    (t.findOrCreate key).2.insert key a = t.insert key a := by
  cases h : t.lookup key with
  | none => simp [LeaseTable.findOrCreate, h, AList.insert_insert]
  | some v => simp [LeaseTable.findOrCreate, h]

theorem lastAddressByte_eq_iff (x : UInt32) (b : UInt8) :
    (x &&& 0xFF).toUInt8 = b ↔ x.toNat % 256 = b.toNat := by
  have hb := b.toNat_lt
  rw [← UInt8.toNat_inj, UInt32.toNat_toUInt8, UInt32.toNat_and]
  have hand : x.toNat &&& (0xFF : UInt32).toNat = x.toNat % 256 :=
    Nat.and_two_pow_sub_one_eq_mod _ 8
  rw [hand, Nat.mod_mod_of_dvd _ (by norm_num)]

theorem htonl_ne_zero {x : UInt32} (h : Usable x.toNat) : htonl x ≠ 0 := by
  intro h0
  have hx : x = htonl 0 := by rw [← h0]; exact (swap32_swap32 x).symm
  exact h.1 (by rw [hx]; rfl)

theorem getOfferAddress_cases {s s' : DhcpServer} {i : UInt32} {mac : MacAddress}
    {r : Except String UInt32} (h : s.getOfferAddress i mac = some (r, s')) :
    (∃ a, s.leaseAddress ⟨i, mac⟩ = some a ∧ r = .ok a ∧ s' = s) ∨
    (s.leaseAddress ⟨i, mac⟩ = none ∧ Usable s.nextAddress.toNat ∧
      s.nextAddress ≤ ntohl s.mDhcpRangeEnd ∧ r = .ok (htonl s.nextAddress) ∧
      s' = s.assign ⟨i, mac⟩) ∨
    (s.leaseAddress ⟨i, mac⟩ = none ∧ Usable s.nextAddress.toNat ∧
      ¬ s.nextAddress ≤ ntohl s.mDhcpRangeEnd ∧
      r = .error "DHCP server is out of addresses" ∧ s' = s.touch ⟨i, mac⟩) := by
  cases hl : s.leaseAddress ⟨i, mac⟩ with
  | some a =>
    have hne := (leaseAddress_eq_some.mp hl).2
    have hvalue := s.findOrCreate_fst ⟨i, mac⟩
    rw [hl, Option.getD_some] at hvalue
    simp only [getOfferAddress, hvalue, hne, if_false, Option.some.injEq, Prod.mk.injEq] at h
    exact .inl ⟨a, rfl, h.1.symm, h.2.symm.trans (touch_of_some hl)⟩
  | none =>
    have hvalue := s.findOrCreate_fst ⟨i, mac⟩
    rw [hl, Option.getD_none] at hvalue
    simp only [getOfferAddress, hvalue, if_true, skipReserved] at h
    by_cases hres : (s.nextAddress &&& 0xFF).toUInt8 = 0xFF ∨ (s.nextAddress &&& 0xFF).toUInt8 = 0
    · simp only [nextAddress] at hres
      simp only [hres, if_true, reduceCtorEq] at h
    · have hus : Usable s.nextAddress.toNat := by
        simp only [lastAddressByte_eq_iff] at hres
        exact ⟨fun h0 => hres (.inr h0), fun h1 => hres (.inl h1)⟩
      simp only [nextAddress] at hres
      simp only [hres, if_false] at h
      by_cases hle : s.nextAddress ≤ ntohl s.mDhcpRangeEnd
      · simp only [nextAddress] at hle
        simp only [hle, if_true, Option.some.injEq, Prod.mk.injEq, findOrCreate_insert] at h
        exact .inr (.inl ⟨rfl, hus, hle, h.1.symm, h.2.symm⟩)
      · simp only [nextAddress] at hle
        simp only [hle, if_false, Option.some.injEq, Prod.mk.injEq] at h
        exact .inr (.inr ⟨rfl, hus, hle, h.1.symm, h.2.symm⟩)

theorem getOfferAddress_eq_none_iff (s : DhcpServer) (i : UInt32) (mac : MacAddress) :
    s.getOfferAddress i mac = none ↔
      s.leaseAddress ⟨i, mac⟩ = none ∧ ¬ Usable s.nextAddress.toNat := by
  have hvalue := s.findOrCreate_fst ⟨i, mac⟩
  cases hl : s.leaseAddress ⟨i, mac⟩ with
  | some a =>
    have hne := (leaseAddress_eq_some.mp hl).2
    rw [hl, Option.getD_some] at hvalue
    simp [getOfferAddress, hvalue, hne]
  | none =>
    rw [hl, Option.getD_none] at hvalue
    simp only [getOfferAddress, hvalue, if_true, skipReserved, true_and]
    by_cases hres : (s.nextAddress &&& 0xFF).toUInt8 = 0xFF ∨ (s.nextAddress &&& 0xFF).toUInt8 = 0
    · have hus : ¬ Usable s.nextAddress.toNat := by
        simp only [lastAddressByte_eq_iff] at hres
        exact fun hus => hres.elim hus.2 hus.1
      simp only [nextAddress] at hres hus ⊢
      simp only [hres, if_true, hus, not_false_iff]
    · have hus : Usable s.nextAddress.toNat := by
        simp only [lastAddressByte_eq_iff] at hres
        exact ⟨fun h0 => hres (.inr h0), fun h1 => hres (.inl h1)⟩
      simp only [nextAddress] at hres hus ⊢
      simp only [hres, if_false, hus, not_true, iff_false]
      split_ifs
      · simp
      · simp

theorem leaseAddress_assign {s : DhcpServer} (h : Usable s.nextAddress.toNat) (key k : Lease) :
    (s.assign key).leaseAddress k =
      if k = key then some (htonl s.nextAddress) else s.leaseAddress k := by
  by_cases hk : k = key
  · subst hk
    simp [leaseAddress, assign, htonl_ne_zero h]
  · simp [leaseAddress, assign, hk]

theorem leaseAddress_touch (s : DhcpServer) (key k : Lease) :
    (s.touch key).leaseAddress k = s.leaseAddress k := by
  cases hl : s.mLeases.lookup key with
  | some v => simp [leaseAddress, touch, LeaseTable.findOrCreate, hl]
  | none =>
    by_cases hk : k = key
    · subst hk
      simp [leaseAddress, touch, LeaseTable.findOrCreate, hl]
    · simp [leaseAddress, touch, LeaseTable.findOrCreate, hl, hk]

structure SameLeases (s s' : DhcpServer) : Prop where
  start : s'.mDhcpRangeStart = s.mDhcpRangeStart
  finish : s'.mDhcpRangeEnd = s.mDhcpRangeEnd
  offset : s'.mNextAddressOffset = s.mNextAddressOffset
  leases : s'.mLeases = s.mLeases

inductive LeaseStep : DhcpServer → DhcpServer → Prop where
  | call {s s' : DhcpServer} (i : UInt32) (mac : MacAddress) {r : Except String UInt32} :
      s.getOfferAddress i mac = some (r, s') → LeaseStep s s'
  | other {s s' : DhcpServer} : SameLeases s s' → LeaseStep s s'

abbrev LeaseSteps : DhcpServer → DhcpServer → Prop := Relation.ReflTransGen LeaseStep

theorem sendLease_leaseSteps
    {build : UInt32 → Message → UInt32 → UInt32 → UInt32 → UInt32 → List UInt32 → Message}
    {s s' : DhcpServer} {input : ServerInput} {m : Message} {i : UInt32} {es : List Sent}
    (h : sendLease build s input m i = some (s', es)) : LeaseSteps s s' := by
  have hdns : LeaseStep s (s.updateDnsServers input) := .other ⟨rfl, rfl, rfl, rfl⟩
  simp only [sendLease] at h
  split at h
  · simp at h
  · rename_i s₁ hc
    simp only [Option.some.injEq, Prod.mk.injEq] at h
    rw [← h.1]
    exact (Relation.ReflTransGen.single hdns).tail (.call i m.chaddr hc)
  · rename_i a s₁ hc
    have hcall := (Relation.ReflTransGen.single hdns).tail (.call i m.chaddr hc)
    split at h
    · simp only [Option.some.injEq, Prod.mk.injEq] at h
      rw [← h.1]
      exact hcall
    · simp only [Option.some.injEq, Prod.mk.injEq] at h
      rw [← h.1]
      exact hcall.tail (.other ⟨rfl, rfl, rfl, rfl⟩)

theorem sendNack_leaseStep (s : DhcpServer) (input : ServerInput) (m : Message) (i : UInt32) :
    LeaseStep s (s.sendNack input m i).1 := by
  unfold sendNack
  split
  · exact .other ⟨rfl, rfl, rfl, rfl⟩
  · exact .other ⟨rfl, rfl, rfl, rfl⟩

theorem isValidDhcpRequest_leaseStep {s s' : DhcpServer} {m : Message} {i : UInt32} {b : Bool}
    (h : s.isValidDhcpRequest m i = some (b, s')) : LeaseStep s s' := by
  simp only [isValidDhcpRequest] at h
  split at h
  · simp at h
  · rename_i s₁ hc
    simp only [Option.some.injEq, Prod.mk.injEq] at h
    rw [← h.2]
    exact .call i m.chaddr hc
  · rename_i a s₁ hc
    have hs : s₁ = s' := by
      split at h <;> simp only [Option.some.injEq, Prod.mk.injEq] at h <;> exact h.2
    rw [← hs]
    exact .call i m.chaddr hc

theorem dispatch_leaseSteps {s s' : DhcpServer} {input : ServerInput} {m : Message} {i : UInt32}
    {es : List Sent} (h : s.dispatch input m i = some (s', es)) : LeaseSteps s s' := by
  simp only [dispatch] at h
  split at h
  · exact sendLease_leaseSteps h
  · split at h
    · split at h
      · simp at h
      · rename_i s₁ hv
        exact .head (isValidDhcpRequest_leaseStep hv) (sendLease_leaseSteps h)
      · rename_i s₁ hv
        simp only [Option.some.injEq] at h
        have hn := s₁.sendNack_leaseStep input m i
        rw [h] at hn
        exact .head (isValidDhcpRequest_leaseStep hv) (.single hn)
    · simp only [Option.some.injEq, Prod.mk.injEq] at h
      rw [h.1]

theorem round_leaseSteps {s s' : DhcpServer} {input : ServerInput} {es : List Sent}
    (h : s.round input = some (s', es)) : LeaseSteps s s' := by
  simp only [round] at h
  split at h
  · simp only [Option.some.injEq, Prod.mk.injEq] at h
    rw [h.1]
  · rename_i datagram i hr
    have hrecv : LeaseStep s (s.receiveFromInterface datagram) :=
      .other ⟨rfl, rfl, rfl, rfl⟩
    split at h
    · simp only [Option.some.injEq, Prod.mk.injEq] at h
      rw [← h.1]
      exact .single hrecv
    · split at h
      · simp only [Option.some.injEq, Prod.mk.injEq] at h
        rw [← h.1]
        exact .single hrecv
      · exact .head hrecv (dispatch_leaseSteps h)

structure Refines (s : DhcpServer) (A : Allocator Lease) : Prop where
  base_eq : A.base = (ntohl s.mDhcpRangeStart).toNat
  next_eq : A.next = (ntohl s.mDhcpRangeStart).toNat + s.mNextAddressOffset.toNat
  next_lt : A.next < 2 ^ 32
  table_eq : ∀ k, A.table k = (s.leaseAddress k).map fun a => (ntohl a).toNat
  usable : ∀ k a, A.table k = some a → a ≤ (ntohl s.mDhcpRangeEnd).toNat ∧ Usable a

theorem new_refines (start finish netmask gateway exclude : UInt32) :
    (new start finish netmask gateway exclude).Refines (.empty Lease (ntohl start).toNat) where
  base_eq := rfl
  next_eq := rfl
  next_lt := (ntohl start).toNat_lt
  table_eq _ := rfl
  usable := by simp [Allocator.empty]

theorem Refines.nextAddress_toNat {s : DhcpServer} {A : Allocator Lease} (h : s.Refines A) :
    s.nextAddress.toNat = A.next := by
  have hlt := h.next_lt
  rw [h.next_eq] at hlt ⊢
  rw [nextAddress, UInt32.toNat_add, Nat.mod_eq_of_lt hlt]

theorem Refines.congr {s s' : DhcpServer} {A : Allocator Lease} (h : s.Refines A)
    (hs : SameLeases s s') : s'.Refines A where
  base_eq := by rw [hs.start, h.base_eq]
  next_eq := by rw [hs.start, hs.offset, h.next_eq]
  next_lt := h.next_lt
  table_eq k := by rw [h.table_eq, leaseAddress, leaseAddress, hs.leases]
  usable k a ha := by rw [hs.finish]; exact h.usable k a ha

theorem Refines.assign {s : DhcpServer} {A : Allocator Lease} (h : s.Refines A) {key : Lease}
    (hnone : s.leaseAddress key = none) (hus : Usable s.nextAddress.toNat)
    (hle : s.nextAddress ≤ ntohl s.mDhcpRangeEnd) :
    ∃ free : A.table key = none, (s.assign key).Refines (A.grant key free) := by
  have hfree : A.table key = none := by rw [h.table_eq, hnone]; rfl
  have hnext := h.nextAddress_toNat
  have hlt := h.next_lt
  have hne := hus.2
  rw [hnext] at hne
  have hoff : (s.mNextAddressOffset + 1).toNat = s.mNextAddressOffset.toNat + 1 := by
    have hlow := h.next_eq
    rw [UInt32.toNat_add, UInt32.toNat_one, Nat.mod_eq_of_lt]
    omega
  refine ⟨hfree, h.base_eq, ?_, ?_, ?_, ?_⟩
  · change A.next + 1 = (ntohl s.mDhcpRangeStart).toNat + (s.mNextAddressOffset + 1).toNat
    rw [hoff, h.next_eq, Nat.add_assoc]
  · change A.next + 1 < 2 ^ 32
    omega
  · intro k
    rw [leaseAddress_assign hus]
    by_cases hk : k = key
    · subst hk
      simp [Allocator.grant, htonl, ntohl, hnext]
    · simp only [Allocator.grant, Function.update_of_ne hk, hk, if_false]
      exact h.table_eq k
  · intro k a ha
    by_cases hk : k = key
    · subst hk
      simp only [Allocator.grant, Function.update_self, Option.some.injEq] at ha
      rw [← ha, ← hnext]
      exact ⟨UInt32.le_iff_toNat_le.mp hle, hus⟩
    · simp only [Allocator.grant, Function.update_of_ne hk] at ha
      exact h.usable k a ha

theorem Refines.step {s s' : DhcpServer} {A : Allocator Lease} (h : s.Refines A)
    (hs : LeaseStep s s') : ∃ B, A.Step B ∧ s'.Refines B := by
  cases hs with
  | other hsame => exact ⟨A, .keep A, h.congr hsame⟩
  | call i mac hcall =>
    rcases getOfferAddress_cases hcall with
        ⟨-, -, -, rfl⟩ | ⟨hnone, hus, hle, -, rfl⟩ | ⟨-, -, -, -, rfl⟩
    · exact ⟨A, .keep A, h⟩
    · obtain ⟨hfree, hr⟩ := h.assign hnone hus hle
      exact ⟨_, .grant A _ hfree, hr⟩
    · refine ⟨A, .keep A, h.base_eq, h.next_eq, h.next_lt, fun k => ?_, h.usable⟩
      rw [leaseAddress_touch]
      exact h.table_eq k

theorem Refines.steps {s s' : DhcpServer} {A : Allocator Lease} (h : s.Refines A)
    (hs : LeaseSteps s s') : ∃ B, A.Steps B ∧ s'.Refines B := by
  induction hs with
  | refl => exact ⟨A, .refl, h⟩
  | tail _ hlast ih =>
    obtain ⟨B, hAB, hB⟩ := ih
    obtain ⟨C, hBC, hC⟩ := hB.step hlast
    exact ⟨C, hAB.tail hBC, hC⟩

end DhcpServer

theorem serverRun_leaseSteps {ok : DhcpServer → ServerInput → Prop} {s₀ s : DhcpServer}
    {tr : List Sent} (run : serverMachine.Run ok s₀ tr s) : s₀.LeaseSteps s := by
  induction run with
  | nil => exact .refl
  | snoc _ _ hs ih => exact ih.trans (DhcpServer.round_leaseSteps hs)

namespace DhcpServer.Refines
variable {s : DhcpServer} {A : Allocator Lease}

theorem table_of_leaseAddress (h : s.Refines A) {k : Lease} {a : UInt32}
    (ha : s.leaseAddress k = some a) : A.table k = some (ntohl a).toNat := by
  rw [h.table_eq, ha]
  rfl

theorem leaseAddress_injective (h : s.Refines A) {k k' : Lease} {a : UInt32}
    (ha : s.leaseAddress k = some a) (ha' : s.leaseAddress k' = some a) : k = k' :=
  A.injective k k' _ (h.table_of_leaseAddress ha) (h.table_of_leaseAddress ha')

theorem leaseAddress_range (h : s.Refines A) {k : Lease} {a : UInt32}
    (ha : s.leaseAddress k = some a) : ntohl s.mDhcpRangeStart ≤ ntohl a ∧
      ntohl a ≤ ntohl s.mDhcpRangeEnd ∧ Usable (ntohl a).toNat := by
  have ht := h.table_of_leaseAddress ha
  have hb := (A.bounds k _ ht).1
  have hu := h.usable k _ ht
  rw [h.base_eq] at hb
  exact ⟨UInt32.le_iff_toNat_le.mpr hb, UInt32.le_iff_toNat_le.mpr hu.1, hu.2⟩

theorem leaseAddress_of_steps (h : s.Refines A) {s' : DhcpServer} (hs : s.LeaseSteps s')
    {k : Lease} {a : UInt32} (ha : s.leaseAddress k = some a) : s'.leaseAddress k = some a := by
  obtain ⟨B, hAB, hB⟩ := h.steps hs
  have ht := hAB.table_of_some (h.table_of_leaseAddress ha)
  rw [hB.table_eq, Option.map_eq_some_iff] at ht
  obtain ⟨a', ha', heq⟩ := ht
  rw [ha', swap32_injective (UInt32.toNat_inj.mp heq)]

end DhcpServer.Refines

theorem DhcpServer.LeaseSteps.range_eq {s s' : DhcpServer} (h : s.LeaseSteps s') :
    s'.mDhcpRangeStart = s.mDhcpRangeStart ∧ s'.mDhcpRangeEnd = s.mDhcpRangeEnd := by
  induction h with
  | refl => exact ⟨rfl, rfl⟩
  | tail _ hlast ih =>
    cases hlast with
    | other hsame => exact ⟨hsame.start.trans ih.1, hsame.finish.trans ih.2⟩
    | call i mac hcall =>
      rcases getOfferAddress_cases hcall with ⟨-, -, -, rfl⟩ | ⟨-, -, -, -, rfl⟩ | ⟨-, -, -, -, rfl⟩
      · exact ih
      · exact ih
      · exact ih

theorem serverRun_refines {start finish netmask gateway exclude : UInt32} {tr : List Sent}
    {s : DhcpServer} {ok : DhcpServer → ServerInput → Prop}
    (run : serverMachine.Run ok (DhcpServer.new start finish netmask gateway exclude) tr s) :
    ∃ A, s.Refines A :=
  let ⟨A, _, hA⟩ := (DhcpServer.new_refines start finish netmask gateway exclude).steps
    (serverRun_leaseSteps run)
  ⟨A, hA⟩

/-- Soundness of the lease table in every state a server can reach: addresses are
unique, lie in the range and are usable, no assignment is ever changed, and a
call that reports exhaustion changes none either. -/
theorem leases_sound (start finish netmask gateway exclude : UInt32) {tr : List Sent}
    {s : DhcpServer}
    (run : serverMachine.Run (fun _ _ => True)
      (DhcpServer.new start finish netmask gateway exclude) tr s) :
    (∀ k k' a, s.mLeases.lookup k = some a → s.mLeases.lookup k' = some a → a ≠ 0 → k = k') ∧
    (∀ k a, s.mLeases.lookup k = some a → a ≠ 0 → ntohl start ≤ ntohl a ∧
      ntohl a ≤ ntohl finish ∧ (ntohl a).toNat % 256 ≠ 0 ∧ (ntohl a).toNat % 256 ≠ 255) ∧
    (∀ tr' s', serverMachine.Run (fun _ _ => True) s tr' s' →
      ∀ k a, s.mLeases.lookup k = some a → a ≠ 0 → s'.mLeases.lookup k = some a) ∧
    (∀ i mac text s', s.getOfferAddress i mac = some (.error text, s') →
      ∀ k a, s.mLeases.lookup k = some a → a ≠ 0 → s'.mLeases.lookup k = some a) := by
  have hrange := (serverRun_leaseSteps run).range_eq
  obtain ⟨A, hA⟩ := serverRun_refines run
  refine ⟨?_, ?_, ?_, ?_⟩
  · intro k k' a hk hk' hne
    exact hA.leaseAddress_injective (DhcpServer.leaseAddress_eq_some.mpr ⟨hk, hne⟩)
      (DhcpServer.leaseAddress_eq_some.mpr ⟨hk', hne⟩)
  · intro k a hk hne
    have hr := hA.leaseAddress_range (DhcpServer.leaseAddress_eq_some.mpr ⟨hk, hne⟩)
    rw [hrange.1, hrange.2] at hr
    exact hr
  · intro tr' s' run' k a hk hne
    exact (DhcpServer.leaseAddress_eq_some.mp (hA.leaseAddress_of_steps
      (serverRun_leaseSteps run') (DhcpServer.leaseAddress_eq_some.mpr ⟨hk, hne⟩))).1
  · intro i mac text s' hcall k a hk hne
    exact (DhcpServer.leaseAddress_eq_some.mp (hA.leaseAddress_of_steps
      (.single (.call i mac hcall)) (DhcpServer.leaseAddress_eq_some.mpr ⟨hk, hne⟩))).1

def DhcpServer.small : DhcpServer := new 0x0200000a 0x0a00000a 0x00ffffff 0x0100000a 0

def ServerInput.onInterface (datagram : List UInt8) : ServerInput :=
  ⟨some (datagram, 2), fun _ => none, some 0x0100000a⟩

theorem leases_sound_discovery : ∃ s : DhcpServer,
    s.mLeases.lookup ⟨2, #v[2, 0, 0, 0, 0, 1]⟩ = some 0x0200000a ∧
    ntohl 0x0200000a ≤ ntohl 0x0200000a ∧ ntohl 0x0200000a ≤ ntohl 0x0a00000a ∧
    (ntohl 0x0200000a).toNat % 256 ≠ 0 ∧ (ntohl 0x0200000a).toNat % 256 ≠ 255 := by
  obtain ⟨tr, s, run, hs⟩ := Machine.run_of_exec serverMachine (fun _ _ => True)
    DhcpServer.small [.onInterface (Message.discover 1 #v[2, 0, 0, 0, 0, 1]).wire]
    (fun s _ => s.mLeases.lookup ⟨2, #v[2, 0, 0, 0, 0, 1]⟩ = some 0x0200000a) (by decide +kernel)
  exact ⟨s, hs, (leases_sound _ _ _ _ _ run).2.1 _ _ hs (by decide)⟩

def DhcpServer.candidates (s : DhcpServer) : Set ℕ :=
  {a | (ntohl s.mDhcpRangeStart).toNat + s.mNextAddressOffset.toNat ≤ a ∧ Usable a}

/-- What a call is meant to do: it returns, and a key without an address is given
the smallest candidate unless that lies above the range. -/
def DhcpServer.OffersNext (s : DhcpServer) (i : UInt32) (mac : MacAddress) : Prop :=
  (∃ r s', s.getOfferAddress i mac = some (r, s')) ∧
  (s.leaseAddress ⟨i, mac⟩ = none → ∀ a, IsLeast s.candidates a →
    if a ≤ (ntohl s.mDhcpRangeEnd).toNat then
      ∃ s', s.getOfferAddress i mac = some (.ok (htonl (UInt32.ofNat a)), s') ∧
        s'.leaseAddress ⟨i, mac⟩ = some (htonl (UInt32.ofNat a))
    else ∃ s', s.getOfferAddress i mac = some (.error "DHCP server is out of addresses", s'))

/-- In every state a server can reach, a call does what it is meant to do exactly
if the key has an address already or the next address is not a reserved one. -/
theorem offersNext_iff (start finish netmask gateway exclude : UInt32) {tr : List Sent}
    {s : DhcpServer}
    (run : serverMachine.Run (fun _ _ => True)
      (DhcpServer.new start finish netmask gateway exclude) tr s)
    (i : UInt32) (mac : MacAddress) :
    s.OffersNext i mac ↔ s.leaseAddress ⟨i, mac⟩ ≠ none ∨
      Usable ((ntohl start).toNat + s.mNextAddressOffset.toNat) := by
  obtain ⟨A, hA⟩ := serverRun_refines run
  have hnext : s.nextAddress.toNat =
      (ntohl s.mDhcpRangeStart).toNat + s.mNextAddressOffset.toNat := by
    rw [hA.nextAddress_toNat, hA.next_eq]
  have hstart : (ntohl start).toNat + s.mNextAddressOffset.toNat = s.nextAddress.toNat := by
    rw [hnext, (serverRun_leaseSteps run).range_eq.1]
    rfl
  rw [hstart]
  constructor
  · intro hparts
    obtain ⟨⟨r, s', hcall⟩, -⟩ := hparts
    have hsome : s.getOfferAddress i mac ≠ none := by simp [hcall]
    rwa [ne_eq, s.getOfferAddress_eq_none_iff, not_and_or, not_not] at hsome
  · intro hgood
    have hsome : s.getOfferAddress i mac ≠ none := by
      rwa [ne_eq, s.getOfferAddress_eq_none_iff, not_and_or, not_not]
    obtain ⟨⟨r, s'⟩, hcall⟩ := Option.ne_none_iff_exists'.mp hsome
    refine ⟨⟨r, s', hcall⟩, fun hnone a hleast => ?_⟩
    have hus : Usable s.nextAddress.toNat := hgood.resolve_left (not_not.mpr hnone)
    have ha : a = s.nextAddress.toNat :=
      hleast.unique ⟨⟨hnext.ge, hus⟩, fun b hb => hnext.le.trans hb.1⟩
    rw [ha, UInt32.ofNat_toNat]
    rcases DhcpServer.getOfferAddress_cases hcall with
        ⟨b, hb, -⟩ | ⟨-, -, hle, rfl, rfl⟩ | ⟨-, -, hle, rfl, -⟩
    · rw [hnone] at hb
      exact absurd hb (by simp)
    · rw [if_pos (UInt32.le_iff_toNat_le.mp hle)]
      exact ⟨_, hcall, by rw [DhcpServer.leaseAddress_assign hus, if_pos rfl]⟩
    · rw [if_neg (fun h => hle (UInt32.le_iff_toNat_le.mpr h))]
      exact ⟨s', hcall⟩

theorem offersNext_small : DhcpServer.small.OffersNext 2 #v[2, 0, 0, 0, 0, 1] :=
  (offersNext_iff 0x0200000a 0x0a00000a 0x00ffffff 0x0100000a 0 .nil 2 _).mpr
    (.inr ⟨by decide, by decide⟩)

/-- A range that starts at 10.0.0.0: the first call never returns. -/
theorem offersNext_range_start_zero :
    (DhcpServer.new 0x0000000a 0xfe00000a 0x00ffffff 0x0100000a 0).getOfferAddress 2
      #v[2, 0, 0, 0, 0, 1] = none ∧
    ¬ (DhcpServer.new 0x0000000a 0xfe00000a 0x00ffffff 0x0100000a 0).OffersNext 2
      #v[2, 0, 0, 0, 0, 1] := by
  have hstuck : (DhcpServer.new 0x0000000a 0xfe00000a 0x00ffffff 0x0100000a 0).getOfferAddress 2
      #v[2, 0, 0, 0, 0, 1] = none := by decide +kernel
  refine ⟨hstuck, ?_⟩
  intro h
  obtain ⟨⟨r, s', hcall⟩, -⟩ := h
  rw [hstuck] at hcall
  exact absurd hcall (by simp)

end Rpi3Device.Dhcp
