import Rpi3Device.ByteMemory

/-!
# One's-complement sums of 16-bit words

The sum used by the Internet checksum: bytes are read as 16-bit words in either
byte order, an odd last byte is padded with zero, and words are added with
end-around carry. Such a sum is the ordinary sum reduced to its residue modulo
65535, where a positive multiple of 65535 is represented by 65535 itself. The
residue does not depend on where a sequence is cut at an even length, and
whether it vanishes does not depend on the byte order.
-/

namespace Rpi3Device.OnesComplement

inductive ByteOrder where
  | little
  | big
deriving DecidableEq

def ByteOrder.word : ByteOrder → UInt8 → UInt8 → ℕ
  | .little, b₀, b₁ => b₀.toNat + 256 * b₁.toNat
  | .big, b₀, b₁ => 256 * b₀.toNat + b₁.toNat

def words (o : ByteOrder) : List UInt8 → List ℕ
  | b₀ :: b₁ :: bs => o.word b₀ b₁ :: words o bs
  | [b] => [o.word b 0]
  | [] => []

def wordSum (o : ByteOrder) (bs : List UInt8) : ℕ := (words o bs).sum

def add (a b : ℕ) : ℕ := (a + b) % 65536 + (a + b) / 65536

def sum (ws : List ℕ) : ℕ := ws.foldl add 0

/-- The representative of `n` modulo 65535 in `{0} ∪ [1, 65535]`; only 0 is represented by 0. -/
def reduce (n : ℕ) : ℕ := if n = 0 then 0 else (n - 1) % 65535 + 1

theorem reduce_le (n : ℕ) : reduce n ≤ 65535 := by
  unfold reduce
  split_ifs
  · omega
  · omega

theorem reduce_of_le {n : ℕ} (h : n ≤ 65535) : reduce n = n := by
  unfold reduce
  split_ifs
  · omega
  · omega

theorem reduce_add_mul (n k : ℕ) (hn : 0 < n) : reduce (n + 65535 * k) = reduce n := by
  unfold reduce
  rw [if_neg (by omega), if_neg (by omega)]
  have hshift : n + 65535 * k - 1 = n - 1 + 65535 * k := by omega
  rw [hshift, Nat.add_mul_mod_self_left]

theorem reduce_spec (n : ℕ) : ∃ k, n = reduce n + 65535 * k := by
  unfold reduce
  split_ifs with h
  · exact ⟨0, by omega⟩
  · exact ⟨(n - 1) / 65535, by omega⟩

theorem reduce_eq_zero {n : ℕ} : reduce n = 0 ↔ n = 0 := by
  unfold reduce
  split_ifs with h
  · simp [h]
  · simp [h]

theorem reduce_reduce_add (a b : ℕ) : reduce (reduce a + b) = reduce (a + b) := by
  obtain ⟨k, hk⟩ := reduce_spec a
  by_cases hpos : 0 < reduce a + b
  · have hsum : a + b = reduce a + b + 65535 * k := by omega
    rw [hsum, reduce_add_mul _ k hpos]
  · have ha : a = 0 := reduce_eq_zero.mp (by omega)
    rw [ha]
    rfl

theorem reduce_carry (n : ℕ) : reduce (n % 65536 + n / 65536) = reduce n := by
  by_cases hpos : 0 < n % 65536 + n / 65536
  · have hn : n = n % 65536 + n / 65536 + 65535 * (n / 65536) := by omega
    conv_rhs => rw [hn, reduce_add_mul _ _ hpos]
  · have hn : n = 0 := by omega
    rw [hn]

theorem reduce_eq_top_iff (n : ℕ) : reduce n = 65535 ↔ 0 < n ∧ 65535 ∣ n := by
  unfold reduce
  split_ifs with h
  · simp [h]
  · constructor
    · intro htop
      omega
    · intro hdvd
      omega

theorem add_eq_reduce {a b : ℕ} (ha : a ≤ 65535) (hb : b ≤ 65535) :
    add a b = reduce (a + b) := by
  rw [← reduce_carry, add, reduce_of_le]
  omega

theorem foldl_add_eq_reduce (ws : List ℕ) (hws : ∀ w ∈ ws, w ≤ 65535) (a : ℕ) :
    ws.foldl add (reduce a) = reduce (a + ws.sum) := by
  induction ws generalizing a with
  | nil => rfl
  | cons w ws ih =>
    have hw : w ≤ 65535 := hws w (by simp)
    rw [List.foldl_cons, add_eq_reduce (reduce_le a) hw, reduce_reduce_add,
      ih (fun w' hw' => hws w' (by simp [hw'])), List.sum_cons, Nat.add_assoc]

theorem sum_eq_reduce {ws : List ℕ} (hws : ∀ w ∈ ws, w ≤ 65535) : sum ws = reduce ws.sum := by
  have h := foldl_add_eq_reduce ws hws 0
  rwa [Nat.zero_add] at h

theorem ByteOrder.word_le (o : ByteOrder) (b₀ b₁ : UInt8) : o.word b₀ b₁ ≤ 65535 := by
  have h₀ := b₀.toNat_lt
  have h₁ := b₁.toNat_lt
  cases o with
  | little => simp only [word]; omega
  | big => simp only [word]; omega

theorem words_le (o : ByteOrder) (bs : List UInt8) : ∀ w ∈ words o bs, w ≤ 65535 := by
  induction bs using words.induct with
  | case1 b₀ b₁ bs ih =>
    intro w hw
    rcases List.mem_cons.mp hw with rfl | hw
    · exact o.word_le b₀ b₁
    · exact ih w hw
  | case2 b =>
    intro w hw
    rw [List.mem_singleton.mp hw]
    exact o.word_le b 0
  | case3 =>
    intro w hw
    simp [words] at hw

theorem sum_words (o : ByteOrder) (bs : List UInt8) : sum (words o bs) = reduce (wordSum o bs) :=
  sum_eq_reduce (words_le o bs)

@[simp] theorem wordSum_nil (o : ByteOrder) : wordSum o [] = 0 := rfl

@[simp] theorem wordSum_pair (o : ByteOrder) (b₀ b₁ : UInt8) (bs : List UInt8) :
    wordSum o (b₀ :: b₁ :: bs) = o.word b₀ b₁ + wordSum o bs := by
  simp [wordSum, words]

theorem wordSum_append (o : ByteOrder) {as : List UInt8} (has : Even as.length)
    (bs : List UInt8) : wordSum o (as ++ bs) = wordSum o as + wordSum o bs := by
  induction as using words.induct with
  | case1 b₀ b₁ as ih =>
    have heven : Even as.length := by
      simpa only [List.length_cons, Nat.add_assoc, Nat.even_add, even_two, iff_true] using has
    rw [List.cons_append, List.cons_append, wordSum_pair, wordSum_pair, ih heven, Nat.add_assoc]
  | case2 b => simp at has
  | case3 => simp

theorem wordSum_le (o : ByteOrder) (bs : List UInt8) :
    wordSum o bs ≤ 65535 * ((bs.length + 1) / 2) := by
  induction bs using words.induct with
  | case1 b₀ b₁ bs ih =>
    have hw := o.word_le b₀ b₁
    rw [wordSum_pair]
    simp only [List.length_cons]
    omega
  | case2 b =>
    have hw := o.word_le b 0
    simpa [wordSum, words] using hw
  | case3 => simp

theorem wordSum_big_congr (bs : List UInt8) :
    ∃ k, 256 * wordSum .little bs = wordSum .big bs + 65535 * k := by
  induction bs using words.induct with
  | case1 b₀ b₁ bs ih =>
    obtain ⟨k, hk⟩ := ih
    refine ⟨b₁.toNat + k, ?_⟩
    simp only [wordSum_pair, ByteOrder.word]
    omega
  | case2 b => exact ⟨0, by simp [wordSum, words, ByteOrder.word]⟩
  | case3 => exact ⟨0, by simp⟩

theorem wordSum_big_pos {bs : List UInt8} (h : 0 < wordSum .little bs) : 0 < wordSum .big bs := by
  induction bs using words.induct with
  | case1 b₀ b₁ bs ih =>
    simp only [wordSum_pair, ByteOrder.word] at h ⊢
    by_cases hbs : 0 < wordSum .little bs
    · have := ih hbs
      omega
    · omega
  | case2 b =>
    simp only [wordSum, words, ByteOrder.word, List.sum_singleton] at h ⊢
    omega
  | case3 => simp at h

theorem sum_words_eq_top {bs : List UInt8} (hpos : 0 < wordSum .little bs)
    (hdvd : 65535 ∣ wordSum .little bs) (o : ByteOrder) : sum (words o bs) = 65535 := by
  rw [sum_words, reduce_eq_top_iff]
  cases o with
  | little => exact ⟨hpos, hdvd⟩
  | big =>
    refine ⟨wordSum_big_pos hpos, ?_⟩
    obtain ⟨k, hk⟩ := wordSum_big_congr bs
    have hall : 65535 ∣ wordSum .big bs + 65535 * k := hk ▸ Dvd.dvd.mul_left hdvd 256
    exact (Nat.dvd_add_left (Dvd.intro k rfl)).mp hall

end Rpi3Device.OnesComplement
