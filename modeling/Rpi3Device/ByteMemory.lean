import Mathlib.Tactic

/-!
# Byte-addressed memory with little-endian words

A memory is a total map from offsets to bytes, so a read past the part that was
written returns whatever byte lies there. Block stores and loads, the contents
predicate `HoldsAt`, and the 16- and 32-bit words of a little-endian host are
stated for an arbitrary memory; the offsets of a record are supplied by its
user.
-/

namespace Rpi3Device.ByteMemory

abbrev Memory := ℕ → UInt8

def load (m : Memory) (off n : ℕ) : List UInt8 := (List.range n).map fun k => m (off + k)

def store (m : Memory) (off : ℕ) (bs : List UInt8) : Memory :=
  fun i => if off ≤ i then bs[i - off]?.getD (m i) else m i

@[simp] theorem load_length (m : Memory) (off n : ℕ) : (load m off n).length = n := by
  simp [load]

theorem load_getElem (m : Memory) (off n k : ℕ) (hk : k < (load m off n).length) :
    (load m off n)[k] = m (off + k) := by
  simp [load]

theorem store_below (m : Memory) (bs : List UInt8) {off i : ℕ} (hi : i < off) :
    store m off bs i = m i := by
  simp [store, not_le.mpr hi]

theorem store_above (m : Memory) (bs : List UInt8) {off i : ℕ} (hi : off + bs.length ≤ i) :
    store m off bs i = m i := by
  have hnone : bs[i - off]? = none := List.getElem?_eq_none (by omega)
  simp [store, hnone]

theorem store_inside (m : Memory) (off : ℕ) {bs : List UInt8} {k : ℕ} (hk : k < bs.length) :
    store m off bs (off + k) = bs[k] := by
  simp [store, hk]

def HoldsAt (m : Memory) (off : ℕ) (bs : List UInt8) : Prop :=
  ∀ k (hk : k < bs.length), m (off + k) = bs[k]

theorem HoldsAt.load_eq {m : Memory} {off : ℕ} {bs : List UInt8} (h : HoldsAt m off bs) :
    load m off bs.length = bs := by
  apply List.ext_getElem (by simp)
  intro k hk₁ hk₂
  rw [load_getElem]
  exact h k hk₂

@[simp] theorem holdsAt_nil (m : Memory) (off : ℕ) : HoldsAt m off [] := by
  intro k hk
  simp at hk

theorem holdsAt_cons {m : Memory} {off : ℕ} {b : UInt8} {bs : List UInt8} :
    HoldsAt m off (b :: bs) ↔ m off = b ∧ HoldsAt m (off + 1) bs := by
  constructor
  · intro h
    refine ⟨h 0 (by simp), fun k hk => ?_⟩
    have hs := h (k + 1) (by simpa using hk)
    simpa only [Nat.add_assoc, Nat.add_comm 1 k, List.getElem_cons_succ] using hs
  · intro hparts k hk
    obtain ⟨hb, hbs⟩ := hparts
    cases k with
    | zero => simpa using hb
    | succ k =>
      have hs := hbs k (by simpa using hk)
      simpa only [Nat.add_assoc, Nat.add_comm 1 k, List.getElem_cons_succ] using hs

theorem holdsAt_append {m : Memory} {off : ℕ} {as bs : List UInt8} :
    HoldsAt m off (as ++ bs) ↔ HoldsAt m off as ∧ HoldsAt m (off + as.length) bs := by
  induction as generalizing off with
  | nil => simp
  | cons a as ih =>
    simp only [List.cons_append, holdsAt_cons, ih, List.length_cons, and_assoc]
    rw [Nat.add_assoc, Nat.add_comm 1]

theorem holdsAt_store (m : Memory) (off : ℕ) (bs : List UInt8) :
    HoldsAt (store m off bs) off bs :=
  fun _ hk => store_inside m off hk

theorem HoldsAt.store_disjoint {m : Memory} {off off' : ℕ} {as bs : List UInt8}
    (h : HoldsAt m off as) (hd : off + as.length ≤ off' ∨ off' + bs.length ≤ off) :
    HoldsAt (store m off' bs) off as := by
  intro k hk
  rcases hd with hd | hd
  · rw [store_below m bs (by omega)]
    exact h k hk
  · rw [store_above m bs (by omega)]
    exact h k hk

def storeAll (m : Memory) (ws : List (ℕ × UInt8)) : Memory :=
  ws.foldl (fun m w => Function.update m w.1 w.2) m

theorem storeAll_untouched {ws : List (ℕ × UInt8)} {a : ℕ} (m : Memory)
    (h : ∀ w ∈ ws, w.1 ≠ a) : storeAll m ws a = m a := by
  induction ws generalizing m with
  | nil => rfl
  | cons w ws ih =>
    have hrest : ∀ w' ∈ ws, w'.1 ≠ a := fun w' hw' => h w' (List.mem_cons_of_mem w hw')
    have hne : a ≠ w.1 := (h w List.mem_cons_self).symm
    calc storeAll m (w :: ws) a = storeAll (Function.update m w.1 w.2) ws a := rfl
      _ = Function.update m w.1 w.2 a := ih _ hrest
      _ = m a := Function.update_of_ne hne w.2 m

theorem storeAll_agreed {ws : List (ℕ × UInt8)} {a : ℕ} {b : UInt8} (m : Memory)
    (hstored : ∃ w ∈ ws, w.1 = a) (hagreed : ∀ w ∈ ws, w.1 = a → w.2 = b) :
    storeAll m ws a = b := by
  induction ws generalizing m with
  | nil => simp at hstored
  | cons w ws ih =>
    have hrest : ∀ w' ∈ ws, w'.1 = a → w'.2 = b :=
      fun w' hw' => hagreed w' (List.mem_cons_of_mem w hw')
    by_cases hlater : ∃ w' ∈ ws, w'.1 = a
    · exact ih _ hlater hrest
    · push Not at hlater
      have hw : w.1 = a := by
        obtain ⟨w', hw', ha⟩ := hstored
        rcases List.mem_cons.mp hw' with rfl | hw'
        · exact ha
        · exact absurd ha (hlater w' hw')
      calc storeAll m (w :: ws) a = storeAll (Function.update m w.1 w.2) ws a := rfl
        _ = Function.update m w.1 w.2 a := storeAll_untouched _ hlater
        _ = b := by rw [← hw, Function.update_self, hagreed w List.mem_cons_self hw]

def ofBytes (bs : List UInt8) : Memory := fun i => bs.getD i 0

theorem holdsAt_ofBytes (bs : List UInt8) : HoldsAt (ofBytes bs) 0 bs := by
  intro k hk
  simp [ofBytes, hk]

def word16 (b₀ b₁ : UInt8) : UInt16 := UInt16.ofNat (b₀.toNat + 256 * b₁.toNat)

def word32 (b₀ b₁ b₂ b₃ : UInt8) : UInt32 :=
  UInt32.ofNat (b₀.toNat + 256 * b₁.toNat + 65536 * b₂.toNat + 16777216 * b₃.toNat)

def bytes16 (x : UInt16) : List UInt8 :=
  [UInt8.ofNat x.toNat, UInt8.ofNat (x.toNat / 256)]

def bytes32 (x : UInt32) : List UInt8 :=
  [UInt8.ofNat x.toNat, UInt8.ofNat (x.toNat / 256), UInt8.ofNat (x.toNat / 65536),
    UInt8.ofNat (x.toNat / 16777216)]

def load16 (m : Memory) (off : ℕ) : UInt16 := word16 (m off) (m (off + 1))

def load32 (m : Memory) (off : ℕ) : UInt32 :=
  word32 (m off) (m (off + 1)) (m (off + 2)) (m (off + 3))

@[simp] theorem bytes16_length (x : UInt16) : (bytes16 x).length = 2 := rfl

@[simp] theorem bytes32_length (x : UInt32) : (bytes32 x).length = 4 := rfl

theorem word32_toNat (b₀ b₁ b₂ b₃ : UInt8) : (word32 b₀ b₁ b₂ b₃).toNat =
    b₀.toNat + 256 * b₁.toNat + 65536 * b₂.toNat + 16777216 * b₃.toNat := by
  have h₀ := b₀.toNat_lt
  have h₁ := b₁.toNat_lt
  have h₂ := b₂.toNat_lt
  have h₃ := b₃.toNat_lt
  rw [word32, UInt32.toNat_ofNat_of_lt']
  simp only [UInt32.size]
  omega

theorem word16_bytes (x : UInt16) :
    word16 (UInt8.ofNat x.toNat) (UInt8.ofNat (x.toNat / 256)) = x := by
  have hx := x.toNat_lt
  apply UInt16.toNat_inj.mp
  simp only [word16, UInt16.toNat_ofNat', UInt8.toNat_ofNat']
  omega

theorem word32_bytes (x : UInt32) :
    word32 (UInt8.ofNat x.toNat) (UInt8.ofNat (x.toNat / 256)) (UInt8.ofNat (x.toNat / 65536))
      (UInt8.ofNat (x.toNat / 16777216)) = x := by
  have hx := x.toNat_lt
  apply UInt32.toNat_inj.mp
  simp only [word32_toNat, UInt8.toNat_ofNat']
  omega

theorem load16_of_holdsAt {m : Memory} {off : ℕ} {x : UInt16}
    (h : HoldsAt m off (bytes16 x)) : load16 m off = x := by
  simp only [bytes16, holdsAt_cons, holdsAt_nil, and_true] at h
  rw [load16, h.1, h.2, word16_bytes]

theorem load32_of_holdsAt {m : Memory} {off : ℕ} {x : UInt32}
    (h : HoldsAt m off (bytes32 x)) : load32 m off = x := by
  simp only [bytes32, holdsAt_cons, holdsAt_nil, and_true, Nat.add_assoc, Nat.reduceAdd] at h
  obtain ⟨h₀, h₁, h₂, h₃⟩ := h
  rw [load32, h₀, h₁, h₂, h₃, word32_bytes]

theorem HoldsAt.load16_eq {m m' : Memory} {off off' : ℕ} {bs : List UInt8} (h : HoldsAt m off bs)
    (h' : HoldsAt m' off' bs) {k : ℕ} (hk : k + 2 ≤ bs.length) :
    load16 m (off + k) = load16 m' (off' + k) := by
  have hbyte (j : ℕ) (hj : j < 2) : m (off + k + j) = m' (off' + k + j) := by
    simpa only [Nat.add_assoc] using (h (k + j) (by omega)).trans (h' (k + j) (by omega)).symm
  have hfirst : m (off + k) = m' (off' + k) := hbyte 0 (by omega)
  simp only [load16, hfirst, hbyte 1 (by omega)]

theorem HoldsAt.load32_eq {m m' : Memory} {off off' : ℕ} {bs : List UInt8} (h : HoldsAt m off bs)
    (h' : HoldsAt m' off' bs) {k : ℕ} (hk : k + 4 ≤ bs.length) :
    load32 m (off + k) = load32 m' (off' + k) := by
  have hbyte (j : ℕ) (hj : j < 4) : m (off + k + j) = m' (off' + k + j) := by
    simpa only [Nat.add_assoc] using (h (k + j) (by omega)).trans (h' (k + j) (by omega)).symm
  have hfirst : m (off + k) = m' (off' + k) := hbyte 0 (by omega)
  simp only [load32, hfirst, hbyte 1 (by omega), hbyte 2 (by omega), hbyte 3 (by omega)]

def swap16 (x : UInt16) : UInt16 := word16 (UInt8.ofNat (x.toNat / 256)) (UInt8.ofNat x.toNat)

def swap32 (x : UInt32) : UInt32 :=
  word32 (UInt8.ofNat (x.toNat / 16777216)) (UInt8.ofNat (x.toNat / 65536))
    (UInt8.ofNat (x.toNat / 256)) (UInt8.ofNat x.toNat)

theorem bytes16_word16 (b₀ b₁ : UInt8) : bytes16 (word16 b₀ b₁) = [b₀, b₁] := by
  have h₀ := b₀.toNat_lt
  have h₁ := b₁.toNat_lt
  simp only [bytes16, word16, UInt16.toNat_ofNat', List.cons.injEq, and_true]
  refine ⟨?_, ?_⟩ <;> apply UInt8.toNat_inj.mp <;> rw [UInt8.toNat_ofNat'] <;> omega

theorem swap16_swap16 (x : UInt16) : swap16 (swap16 x) = x := by
  have hb := bytes16_word16 (UInt8.ofNat (x.toNat / 256)) (UInt8.ofNat x.toNat)
  simp only [bytes16, List.cons.injEq, and_true] at hb
  obtain ⟨h₀, h₁⟩ := hb
  rw [swap16, swap16, h₀, h₁, word16_bytes]

theorem swap16_injective : Function.Injective swap16 :=
  Function.LeftInverse.injective swap16_swap16

theorem bytes32_word32 (b₀ b₁ b₂ b₃ : UInt8) :
    bytes32 (word32 b₀ b₁ b₂ b₃) = [b₀, b₁, b₂, b₃] := by
  have h₀ := b₀.toNat_lt
  have h₁ := b₁.toNat_lt
  have h₂ := b₂.toNat_lt
  have h₃ := b₃.toNat_lt
  simp only [bytes32, word32_toNat, List.cons.injEq, and_true]
  refine ⟨?_, ?_, ?_, ?_⟩ <;> apply UInt8.toNat_inj.mp <;> rw [UInt8.toNat_ofNat'] <;> omega

@[simp] theorem swap32_swap32 (x : UInt32) : swap32 (swap32 x) = x := by
  have hb := bytes32_word32 (UInt8.ofNat (x.toNat / 16777216)) (UInt8.ofNat (x.toNat / 65536))
    (UInt8.ofNat (x.toNat / 256)) (UInt8.ofNat x.toNat)
  simp only [bytes32, List.cons.injEq, and_true] at hb
  obtain ⟨h₀, h₁, h₂, h₃⟩ := hb
  rw [swap32, swap32, h₀, h₁, h₂, h₃, word32_bytes]

theorem swap32_injective : Function.Injective swap32 :=
  Function.LeftInverse.injective swap32_swap32

end Rpi3Device.ByteMemory
