import Rpi3Device.DecimalText

/-!
# Hexadecimal numbers in byte strings

`strtol` with base 16 skips blanks, a sign and a leading `0x`, and reads digits
of either case up to the first byte that is none, for a `long` of a given width.
Two digits followed by something else are read as the byte they spell, and a byte
printed with two digits spells itself.
-/

namespace Rpi3Device.HexText
open DecimalText (saturate signed saturate_eq_self)

def isHexDigit (b : UInt8) : Bool :=
  (48 ≤ b && b ≤ 57) || (65 ≤ b && b ≤ 70) || (97 ≤ b && b ≤ 102)

def digitValue (b : UInt8) : ℕ :=
  if b ≤ 57 then b.toNat - 48 else if b ≤ 70 then b.toNat - 55 else b.toNat - 87

def textValue (text : List UInt8) : ℕ := text.foldl (fun n b => n * 16 + digitValue b) 0

def isSpace (b : UInt8) : Bool := b = 32 || (9 ≤ b && b ≤ 13)

def takeSign : List UInt8 → Bool × List UInt8
  | 45 :: text => (true, text)
  | 43 :: text => (false, text)
  | text => (false, text)

/-- Without a leading `0x` or `0X` that a digit follows. -/
def dropMark : List UInt8 → List UInt8
  | 48 :: x :: b :: text =>
    if (x = 120 ∨ x = 88) ∧ isHexDigit b = true then b :: text else 48 :: x :: b :: text
  | text => text

def strtol (bits : ℕ) (text : List UInt8) : ℤ :=
  let body := takeSign (text.dropWhile isSpace)
  saturate bits (signed body.1 (textValue ((dropMark body.2).takeWhile isHexDigit)))

section Digits
variable {a b : UInt8}

theorem isHexDigit_iff : isHexDigit b = true ↔
    48 ≤ b.toNat ∧ b.toNat ≤ 57 ∨ 65 ≤ b.toNat ∧ b.toNat ≤ 70 ∨
      97 ≤ b.toNat ∧ b.toNat ≤ 102 := by
  simp only [isHexDigit, Bool.or_eq_true, Bool.and_eq_true, decide_eq_true_eq,
    UInt8.le_iff_toNat_le, UInt8.reduceToNat, or_assoc]

theorem digitValue_lt (hb : isHexDigit b = true) : digitValue b < 16 := by
  rw [isHexDigit_iff] at hb
  simp only [digitValue, UInt8.le_iff_toNat_le, UInt8.reduceToNat]
  split
  · omega
  · split <;> omega

theorem ne_of_isHexDigit (hb : isHexDigit b = true) {c : UInt8} (hc : isHexDigit c = false) :
    b ≠ c := by
  intro heq
  rw [heq, hc] at hb
  cases hb

theorem takeSign_digit (hb : isHexDigit b = true) (text : List UInt8) :
    takeSign (b :: text) = (false, b :: text) := by
  have hminus := ne_of_isHexDigit hb (c := 45) (by decide)
  have hplus := ne_of_isHexDigit hb (c := 43) (by decide)
  simp [takeSign, hminus, hplus]

theorem isSpace_digit (hb : isHexDigit b = true) : isSpace b = false := by
  rw [isHexDigit_iff] at hb
  have hblank : b ≠ 32 := by
    intro heq
    rw [heq] at hb
    revert hb
    decide
  have hlow : ¬ b ≤ 13 := by
    simp only [UInt8.le_iff_toNat_le, UInt8.reduceToNat]
    omega
  simp [isSpace, hblank, hlow]

theorem dropMark_digits (hb : isHexDigit b = true) (text : List UInt8) :
    dropMark (a :: b :: text) = a :: b :: text := by
  have hx := ne_of_isHexDigit hb (c := 120) (by decide)
  have hX := ne_of_isHexDigit hb (c := 88) (by decide)
  unfold dropMark
  split
  · rename_i heq
    obtain ⟨-, hrest⟩ := List.cons.inj heq
    obtain ⟨rfl, rfl⟩ := List.cons.inj hrest
    obtain ⟨rfl, -⟩ := List.cons.inj heq
    simp [hx, hX]
  · rfl

theorem textValue_pair_lt (ha : isHexDigit a = true) (hb : isHexDigit b = true) :
    textValue [a, b] < 256 := by
  have hhigh := digitValue_lt ha
  have hlow := digitValue_lt hb
  simp only [textValue, List.foldl_cons, List.foldl_nil]
  omega

theorem strtol_pair {bits : ℕ} (hbits : 9 ≤ bits) (ha : isHexDigit a = true)
    (hb : isHexDigit b = true) {rest : List UInt8}
    (hrest : ∀ c ∈ rest.head?, isHexDigit c = false) :
    strtol bits (a :: b :: rest) = (textValue [a, b] : ℕ) := by
  have hstop : rest.takeWhile isHexDigit = [] := by
    cases rest with
    | nil => rfl
    | cons c rest => exact List.takeWhile_cons_of_neg (by simpa using hrest c rfl)
  have hdigits : (a :: b :: rest).takeWhile isHexDigit = [a, b] := by
    rw [List.takeWhile_cons_of_pos ha, List.takeWhile_cons_of_pos hb, hstop]
  have hskip : (a :: b :: rest).dropWhile isSpace = a :: b :: rest :=
    List.dropWhile_cons_of_neg (by simp [isSpace_digit ha])
  have hvalue := textValue_pair_lt ha hb
  have hwidth : (2 : ℤ) ^ 8 ≤ 2 ^ (bits - 1) := pow_le_pow_right₀ (by norm_num) (by omega)
  simp only [strtol, hskip, takeSign_digit ha, dropMark_digits hb, hdigits, signed]
  apply saturate_eq_self
  · simp only [Bool.false_eq_true, if_false]
    omega
  · simp only [Bool.false_eq_true, if_false]
    omega

end Digits

def digit (n : ℕ) : UInt8 := UInt8.ofNat (if n < 10 then 48 + n else 87 + n)

def printed (x : UInt8) : List UInt8 := [digit (x.toNat / 16), digit (x.toNat % 16)]

theorem digit_spec {n : ℕ} (hn : n < 16) :
    isHexDigit (digit n) = true ∧ digitValue (digit n) = n := by
  interval_cases n <;> decide

theorem printed_digits (x : UInt8) : ∀ c ∈ printed x, isHexDigit c = true := by
  have hx := x.toNat_lt
  rw [printed, List.forall_mem_cons, List.forall_mem_singleton]
  exact ⟨(digit_spec (by omega)).1, (digit_spec (by omega)).1⟩

theorem textValue_printed (x : UInt8) : textValue (printed x) = x.toNat := by
  have hx := x.toNat_lt
  simp only [printed, textValue, List.foldl_cons, List.foldl_nil,
    (digit_spec (n := x.toNat / 16) (by omega)).2, (digit_spec (n := x.toNat % 16) (by omega)).2]
  omega

end Rpi3Device.HexText
