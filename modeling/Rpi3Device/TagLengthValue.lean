import Rpi3Device.ByteMemory

/-!
# Tag-length-value sequences in memory

An entry is a tag byte, a length byte and that many value bytes. `encode`
concatenates entries, `locate` is the linear search over the encoded sequence,
which skips whole entries and so never takes a value byte for a tag. A block of
memory that holds an encoded sequence is read entry by entry with
`holdsAt_encode_cons`.
-/

namespace Rpi3Device.TagLengthValue
open ByteMemory

structure Entry where
  tag : UInt8
  value : List UInt8
deriving DecidableEq

def Entry.length (e : Entry) : UInt8 := UInt8.ofNat e.value.length

def Entry.Fits (e : Entry) : Prop := e.value.length < 256

theorem Entry.Fits.length_toNat {e : Entry} (h : e.Fits) : e.length.toNat = e.value.length := by
  simpa only [Entry.length, UInt8.toNat_ofNat'] using Nat.mod_eq_of_lt h

def encode : List Entry → List UInt8
  | [] => []
  | e :: es => e.tag :: e.length :: (e.value ++ encode es)

theorem encode_append (es fs : List Entry) : encode (es ++ fs) = encode es ++ encode fs := by
  induction es with
  | nil => rfl
  | cons e es ih => simp [encode, ih]

theorem encode_cons_length (e : Entry) (es : List Entry) :
    (encode (e :: es)).length = 2 + e.value.length + (encode es).length := by
  simp only [encode, List.length_cons, List.length_append]
  omega

/-- First entry with the given tag, with the index of its value when the
sequence starts at index `i`. -/
def locate (tag : UInt8) : List Entry → ℕ → Option (ℕ × Entry)
  | [], _ => none
  | e :: es, i => if e.tag = tag then some (i + 2, e) else locate tag es (i + 2 + e.value.length)

theorem locate_none {tag : UInt8} {es : List Entry} (h : ∀ e ∈ es, e.tag ≠ tag) (i : ℕ) :
    locate tag es i = none := by
  induction es generalizing i with
  | nil => rfl
  | cons e es ih =>
    have he : e.tag ≠ tag := h e (by simp)
    simp only [locate, he, if_false]
    exact ih (fun e' he' => h e' (by simp [he'])) _

theorem locate_map_snd (tag : UInt8) (es : List Entry) (i : ℕ) :
    (locate tag es i).map Prod.snd = es.find? fun e => e.tag = tag := by
  induction es generalizing i with
  | nil => rfl
  | cons e es ih =>
    by_cases he : e.tag = tag
    · simp [locate, he]
    · simp [locate, he, ih]

theorem mem_of_locate {tag : UInt8} {es : List Entry} {i p : ℕ} {e : Entry}
    (hl : locate tag es i = some (p, e)) : e ∈ es := by
  have hfind := locate_map_snd tag es i
  rw [hl, Option.map_some] at hfind
  exact List.mem_of_find?_eq_some hfind.symm

theorem locate_inside {tag : UInt8} {es : List Entry} {i p : ℕ} {e : Entry}
    (hl : locate tag es i = some (p, e)) : p + e.value.length ≤ i + (encode es).length := by
  induction es generalizing i with
  | nil => simp [locate] at hl
  | cons f es ih =>
    rw [encode_cons_length]
    by_cases ht : f.tag = tag
    · simp only [locate, ht, if_true, Option.some.injEq, Prod.mk.injEq] at hl
      obtain ⟨rfl, rfl⟩ := hl
      omega
    · simp only [locate, ht, if_false] at hl
      have hrest := ih hl
      omega

theorem locate_mem {es : List Entry} (hd : (es.map Entry.tag).Nodup) {e : Entry} (he : e ∈ es)
    (i : ℕ) : ∃ p, locate e.tag es i = some (p, e) := by
  induction es generalizing i with
  | nil => simp at he
  | cons f es ih =>
    simp only [List.map_cons, List.nodup_cons] at hd
    rcases List.mem_cons.mp he with rfl | he
    · exact ⟨i + 2, by simp [locate]⟩
    · have hne : f.tag ≠ e.tag := by
        intro heq
        exact hd.1 (heq ▸ List.mem_map_of_mem he)
      simpa only [locate, hne, if_false] using ih hd.2 he _

theorem holdsAt_encode_cons {m : Memory} {off : ℕ} {e : Entry} {es : List Entry}
    {tail : List UInt8} : HoldsAt m off (encode (e :: es) ++ tail) ↔
      m off = e.tag ∧ m (off + 1) = e.length ∧ HoldsAt m (off + 2) e.value ∧
        HoldsAt m (off + 2 + e.value.length) (encode es ++ tail) := by
  simp only [encode, List.cons_append, List.append_assoc, holdsAt_cons, holdsAt_append,
    Nat.add_assoc, Nat.reduceAdd]

theorem locate_holdsAt {m : Memory} {base : ℕ} {tail : List UInt8} {tag : UInt8}
    {es : List Entry} {i p : ℕ} {e : Entry} (h : HoldsAt m (base + i) (encode es ++ tail))
    (hl : locate tag es i = some (p, e)) : HoldsAt m (base + p) e.value := by
  induction es generalizing i with
  | nil => simp [locate] at hl
  | cons f es ih =>
    obtain ⟨-, -, hv, hrest⟩ := holdsAt_encode_cons.mp h
    by_cases ht : f.tag = tag
    · simp only [locate, ht, if_true, Option.some.injEq, Prod.mk.injEq] at hl
      obtain ⟨rfl, rfl⟩ := hl
      simpa only [Nat.add_assoc] using hv
    · simp only [locate, ht, if_false] at hl
      exact ih (by simpa only [Nat.add_assoc] using hrest) hl

end Rpi3Device.TagLengthValue
